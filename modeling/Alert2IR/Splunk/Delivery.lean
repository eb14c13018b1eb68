import Alert2IR.Interleaving.Solo
import Alert2IR.Splunk.Mapping
import Alert2IR.Splunk.Sender
import Alert2IR.Splunk.Signing

/-!
# The custom alert action

From the invocation on `stdin` to the exit code. The libraries for JSON, URLs, archives and CSV are
parameters, which raise what their documentation says; files are known by their path.
-/

namespace Alert2IR

namespace Sender

open Splunk

def windowsSysmonChannel : String := "Microsoft-Windows-Sysmon/Operational"

def maximumInvocationBytes : Nat := 65536

def maxCompressedResultsBytes : Nat := 65536

def maxDecompressedResultsBytes : Nat := 65536

def maximumFindingBodyBytes : Nat := 65536

def maximumUrlLength : Nat := 2048

def maximumPathLength : Nat := 4096

def expectedResultFields : List String :=
  ["_time", "Computer", "host", "source", "sourcetype", "EventCode", "RecordID", "ProcessGuid",
    "Image", "ParentImage", "TargetFilename"]

def splunkMultivalueResultFields : List String := expectedResultFields.map ("__mv_" ++ ·)

def sigmaLevels : List String := ["informational", "low", "medium", "high", "critical"]

def actionInputError : PyError := .other "ActionInputError"

def connectionFailure : PyError := .other "ConnectionFailure"

def requestTimeout : PyError := .other "RequestTimeout"

/-- `ActionError` and the exceptions derived from it. -/
def actionErrors : List String :=
  ["ActionError", "ActionInputError", "ActionConfigurationError", "ConnectionFailure",
    "RequestTimeout"]

/-- `type(error).__name__` of an `ActionError`. -/
def actionErrorName : PyError → Option String
  | .other name => if name ∈ actionErrors then some name else none
  | _ => none

/-- What `urlsplit` returns. -/
structure SplitResult where
  scheme : String
  username : Option String
  password : Option String
  hostname : Option String
  path : String
  query : String
  fragment : String

/-- What comes of reading an archive. -/
inductive Archive
  | payload (bytes : List UInt8)
  | osError
  | eofError
  | zlibError

/-- What the action uses of the standard library. `urlsplit` may raise `ValueError`. A reader yields
rows until it raises `csv.Error`. Of an archive one byte more is read than may be there. -/
structure Library where
  hmac : Hmac
  unicode : Unicode
  json : Json.Decoder
  urlsplit : String → Option SplitResult
  decompress : List UInt8 → Archive
  reader : String → List (Option (List String))

/-- What is found under a path: no regular file, something that raises `OSError`, or a file. -/
inductive PathState
  | missing
  | unreadable
  | file (content : List UInt8)

/-- What is raised where a condition does not hold. -/
def require (holds : Bool) (error : PyError) : Except PyError Unit :=
  if holds then .ok () else .error error

/-! ### Configuration -/

/-- `_require_string`, of a value that is a string or is none. -/
def requireString (unicode : Unicode) (value : Option String) (maximum : Nat) (error : PyError) :
    Except PyError String :=
  match value with
  | some text =>
    if text = "" ∨ isBlank text ∨ text.length > maximum ∨ !unicode.isprintable text then
      .error error
    else .ok text
  | none => .error error

/-- A value, if it is a string. -/
def stringOf : Option Json → Option String
  | some (.str text) => some text
  | _ => none

/-- `_canonical_uuid`. -/
def canonicalUuid (unicode : Unicode) (value : Option Json) : Except PyError String := do
  let text ← requireString unicode (stringOf value) 36 actionConfigurationError
  match uuidOfText unicode text with
  | some id => .ok (uuidText id)
  | none => .error actionConfigurationError

/-- `_validate_adapter_url`. -/
def validateAdapterUrl (lib : Library) (value : Option Json) : Except PyError String := do
  let url ← requireString lib.unicode (stringOf value) maximumUrlLength actionConfigurationError
  match lib.urlsplit url with
  | none => .error (.valueError "Invalid URL")
  | some parsed =>
    if parsed.scheme ∉ ["http", "https"] ∨ parsed.hostname.isNone ∨ parsed.username.isSome ∨
        parsed.password.isSome ∨ parsed.query ≠ "" ∨ parsed.fragment ≠ "" ∨
        parsed.path ≠ "/v1/splunk/findings" then
      .error actionConfigurationError
    else .ok url

/-- `value in names`, which hashes the value. -/
def isAmong (value : Option Json) (names : List String) : Except PyError Bool :=
  match value with
  | some (.str text) => .ok (text ∈ names)
  | some (.arr _) => .error (.typeError "unhashable type: 'list'")
  | some (.obj _) => .error (.typeError "unhashable type: 'dict'")
  | _ => .ok false

structure ActionConfiguration where
  adapterUrl : String
  secretFile : String
  ruleId : String
  ruleTitle : String
  sigmaLevel : String
  channel : String

/-- `ActionConfiguration(**values)`. -/
def ActionConfiguration.make (lib : Library) (values : List (String × Json)) :
    Except PyError ActionConfiguration := do
  let adapterUrl ← validateAdapterUrl lib (values.lookup "adapter_url")
  let ruleId ← canonicalUuid lib.unicode (values.lookup "rule_id")
  let secretFile ← requireString lib.unicode (stringOf (values.lookup "secret_file"))
    maximumPathLength actionConfigurationError
  require (Char.ofNat 0 ∉ secretFile.toList ∧ secretFile.toList.head? = some '/')
    actionConfigurationError
  let ruleTitle ← requireString lib.unicode (stringOf (values.lookup "rule_title"))
    ruleTitleMaxLength actionConfigurationError
  require (← isAmong (values.lookup "sigma_level") sigmaLevels) actionConfigurationError
  match stringOf (values.lookup "sigma_level"), stringOf (values.lookup "channel") with
  | some sigmaLevel, some channel =>
    if channel = windowsSysmonChannel then
      .ok { adapterUrl, secretFile, ruleId, ruleTitle, sigmaLevel, channel }
    else .error actionConfigurationError
  | _, _ => .error actionConfigurationError

def requiredConfiguration : List String :=
  ["adapter_url", "secret_file", "rule_id", "rule_title", "sigma_level", "channel"]

/-- `parse_configuration`. -/
def parseConfiguration (lib : Library) (invocation : List (String × Json)) :
    Except PyError ActionConfiguration :=
  match invocation.lookup "configuration" with
  | some (.obj value) =>
    if requiredConfiguration.any fun name => (value.lookup name).isNone then
      .error actionConfigurationError
    else
      match ActionConfiguration.make lib value with
      | .error (.typeError _) => .error actionConfigurationError
      | made => made
  | _ => .error actionConfigurationError

/-! ### Invocation and results -/

/-- `parse_invocation`. -/
def parseInvocation (lib : Library) (rawPayload : List UInt8) :
    Except PyError (List (String × Json)) :=
  if rawPayload.length > maximumInvocationBytes then .error actionInputError
  else match lib.json.loads rawPayload with
    | some (.obj value) => .ok value
    | _ => .error actionInputError

/-- `results_file_from_invocation`. -/
def resultsFileFromInvocation (unicode : Unicode) (invocation : List (String × Json)) :
    Except PyError String := do
  let value ← requireString unicode (stringOf (invocation.lookup "results_file"))
    maximumPathLength actionInputError
  require (Char.ofNat 0 ∉ value.toList) actionInputError
  return value

/-- `payload.decode("utf-8-sig")`. -/
def decodeUtf8Sig (payload : List UInt8) : Option String :=
  let bytes := if [0xEF, 0xBB, 0xBF].isPrefixOf payload then payload.drop 3 else payload
  String.fromUTF8? ⟨bytes.toArray⟩

/-- `next(reader, None)` of a `DictReader` past its header, which leaves out empty rows; the reader
may raise. -/
def nextRow : List (Option (List String)) →
    Option (Option (List String) × List (Option (List String)))
  | [] => some (none, [])
  | none :: _ => none
  | some [] :: rows => nextRow rows
  | some (value :: row) :: rows => some (some (value :: row), rows)

/-- The first row past the header and the second, where the reader does not raise before. -/
def firstAndSecond (rows : List (Option (List String))) :
    Option (Option (List String) × Option (List String)) := do
  let (first, rows) ← nextRow rows
  let (second, _) ← nextRow rows
  return (first, second)

def supportedFieldSets : List (List String) :=
  [expectedResultFields, expectedResultFields ++ splunkMultivalueResultFields]

/-- The header and the row that `read_single_result` finds. Cells without a field are under the key
`None`, fields without a cell hold `None`. -/
def singleRow : List (Option (List String)) → Except PyError (List (String × String))
  | some fieldnames :: rows =>
    if fieldnames ∉ supportedFieldSets then .error actionInputError
    else match firstAndSecond rows with
      | some (some cells, none) =>
        if cells.length = fieldnames.length then .ok (fieldnames.zip cells)
        else .error actionInputError
      | _ => .error actionInputError
  | _ => .error actionInputError

-- A second row is refused, an empty line is not.
example : singleRow [some expectedResultFields, some [], some expectedResultFields] =
    .ok (expectedResultFields.zip expectedResultFields) ∧
      singleRow [some expectedResultFields, some ["WS-01"], some ["WS-02"]] =
        .error actionInputError := by
  decide +kernel

/-- `read_single_result`. -/
def readSingleResult (lib : Library) (files : String → PathState) (path : String) :
    Except PyError (List (String × String)) :=
  match files path with
  | .missing => .error actionInputError
  | .unreadable => .error actionInputError
  | .file content =>
    if content.length > maxCompressedResultsBytes then .error actionInputError
    else match lib.decompress content with
      | .osError => .error actionInputError
      | .eofError => .error actionInputError
      | .zlibError => .error (.other "zlib.error")
      | .payload payload =>
        if payload.length > maxDecompressedResultsBytes then .error actionInputError
        else match decodeUtf8Sig payload with
          | none => .error actionInputError
          | some text =>
            match singleRow (lib.reader text) with
            | .error e => .error e
            | .ok first => .ok (first.filter fun cell => cell.1 ∈ expectedResultFields)

/-! ### Finding -/

/-- `_normalize_hostname_for_comparison`. -/
def normalizeHostnameForComparison (value : String) : Except PyError String :=
  let normalized := withoutDot (stripOf isPyWhitespace value.toList)
  if normalized = [] ∨ normalized.length > hostnameMaxLength ∨
      !normalized.all (fun c => c.toNat < 128) ∨ !hostnamePattern normalized then
    .error actionInputError
  else .ok (String.ofList (normalized.map Char.toLower))

/-- `_validate_hostnames`. -/
def validateHostnames (computer host : Option String) : Except PyError Unit := do
  let normalizedComputer ← computer.mapM normalizeHostnameForComparison
  let normalizedHost ← host.mapM normalizeHostnameForComparison
  match normalizedComputer, normalizedHost with
  | none, none => .error actionInputError
  | some computer, some host => require (computer = host) actionInputError
  | _, _ => .ok ()

/-- `_validate_event_time`. -/
def validateEventTime (unicode : Unicode) (value : Option String) : Except PyError String := do
  let text ← requireString unicode value 64 actionInputError
  match readNumeric text.toList with
  | some numeric =>
    if -62135596800 ≤ numeric ∧ numeric < 253402300800 then .ok text else .error actionInputError
  | none =>
    if !rfc3339Pattern text.toList then .error actionInputError
    else match Calendar.fromisoformat text.toList with
      | none => .error actionInputError
      | some _ => .ok text

/-- `_decimal_integer`. -/
def decimalInteger (unicode : Unicode) (value : Option String) (maximum : Int) :
    Except PyError String := do
  let text ← requireString unicode value 32 actionInputError
  require (text.toList.all Char.isDigit) actionInputError
  let parsed : Nat := Nat.ofDigitChars 10 text.toList 0
  require (1 ≤ parsed ∧ parsed ≤ maximum) actionInputError
  return toString parsed

/-- `_optional_result_value`. -/
def optionalResultValue (unicode : Unicode) (row : List (String × String)) (name : String)
    (maximum : Nat) : Except PyError (Option String) :=
  let value := (row.lookup name).getD ""
  if value = "" then .ok none
  else (requireString unicode (some value) maximum actionInputError).map some

/-- `build_finding`. -/
def buildFinding (unicode : Unicode) (row : List (String × String)) (config : ActionConfiguration) :
    Except PyError Json := do
  let computer ← optionalResultValue unicode row "Computer" hostnameMaxLength
  let host ← optionalResultValue unicode row "host" hostnameMaxLength
  validateHostnames computer host
  let detectedAt ← validateEventTime unicode (row.lookup "_time")
  let eventCode ← decimalInteger unicode (row.lookup "EventCode") eventCodeMaximum
  let recordId ← decimalInteger unicode (row.lookup "RecordID") recordIdMaximum
  let source ← optionalResultValue unicode row "source" sourceMaxLength
  let sourcetype ← optionalResultValue unicode row "sourcetype" sourcetypeMaxLength
  let processGuid ← optionalResultValue unicode row "ProcessGuid" processGuidMaxLength
  let image ← optionalResultValue unicode row "Image" imageMaxLength
  let parentImage ← optionalResultValue unicode row "ParentImage" imageMaxLength
  let targetFilename ← optionalResultValue unicode row "TargetFilename" imageMaxLength
  let event := Json.present [("detected_at", some (.str detectedAt)),
    ("channel", some (.str config.channel)), ("event_code", some (.str eventCode)),
    ("record_id", some (.str recordId)), ("computer", computer.map .str),
    ("host", host.map .str), ("source", source.map .str), ("sourcetype", sourcetype.map .str),
    ("process_guid", processGuid.map .str), ("image", image.map .str),
    ("parent_image", parentImage.map .str), ("target_filename", targetFilename.map .str)]
  return .obj [("schema", .str splunkFindingSchema),
    ("detection", .obj [("rule_id", .str config.ruleId), ("rule_title", .str config.ruleTitle),
      ("sigma_level", .str config.sigmaLevel)]),
    ("event", .obj event)]

/-- `serialize_finding`. -/
def serializeFinding (finding : Json) : Except PyError (List UInt8) :=
  let body := finding.sortKeys.bytes
  if body.length > maximumFindingBodyBytes then .error actionInputError else .ok body

/-- `load_secret`, of what is found under the path. -/
def loadSecretFile (files : String → PathState) (path : String) : Except PyError (List UInt8) :=
  match files path with
  | .missing => .error actionConfigurationError
  | .unreadable => .error actionConfigurationError
  | .file content => loadSecret content

/-! ### Delivery -/

/-- What the action does to its surroundings. -/
inductive Call
  | clock
  | transport (url : String) (body : List UInt8) (timestamp signature : List Char)
  | sleep (seconds : ℚ)

abbrev Call.Response : Call → Type
  | .clock => ClockValue
  | .transport _ _ _ _ => Except PyError HttpResponse
  | .sleep _ => Unit

abbrev Proc := Interleaving.Proc Call Call.Response PyError

open Interleaving.Proc (perform catching)

/-- A function without effects, which may raise. -/
def evaluate {α : Type} (x : Except PyError α) : Proc α :=
  match x with
  | .ok a => pure a
  | .error e => throw e

structure DeliveryOutcome where
  success : Bool
  attempts : Nat
  category : Category
  status : Option Nat
  processingId : Option String
  replayed : Bool
  errorCode : Option String

/-- `_transient_exception_disposition`. -/
def transientExceptionDisposition (error : PyError) : AdapterDisposition := {
  category := .transientFailure
  retryable := true
  success := false
  status := none
  errorCode :=
    some (if error = requestTimeout then "adapter_timeout" else "adapter_connection_failed") }

def retryDelaysSeconds : List ℚ := [1, 2]

section Action

variable (lib : Library)

/-- What the loop of `deliver` makes of what its transport has returned or raised. -/
def dispose (response : Except PyError HttpResponse) : Except PyError AdapterDisposition :=
  match response with
  | .ok response => classifyAdapterResponse lib.unicode lib.json response
  | .error e =>
    if e = connectionFailure ∨ e = requestTimeout then .ok (transientExceptionDisposition e)
    else .error e

/-- The loop of `deliver`, with so many attempts left. -/
def deliverFrom (body : List UInt8) (config : ActionConfiguration) (secret : List UInt8) :
    (attempt left : Nat) → Proc DeliveryOutcome
  | _, 0 => throw (.other "AssertionError")
  | attempt, left + 1 => do
    let timestamp ← evaluate (timestampFromClock (← perform Call.clock))
    let signature ← evaluate (signatureHeader lib.hmac secret timestamp body)
    let response : Except PyError HttpResponse ←
      perform (Call.transport config.adapterUrl body timestamp signature)
    let disposition ← evaluate (dispose lib response)
    if disposition.success || !disposition.retryable || attempt = maximumAttempts then
      return {
        success := disposition.success
        attempts := attempt
        category := disposition.category
        status := disposition.status
        processingId := disposition.processingId
        replayed := disposition.replayed
        errorCode := disposition.errorCode }
    else
      let _ ← perform (Call.sleep (retryDelaysSeconds.getD (attempt - 1) 0))
      deliverFrom body config secret (attempt + 1) left

/-- `deliver`. -/
def deliver (body : List UInt8) (config : ActionConfiguration) (secret : List UInt8) :
    Proc DeliveryOutcome := do
  evaluate (require (body.length ≤ maximumFindingBodyBytes) actionInputError)
  let _ ← evaluate (validateSecret secret)
  deliverFrom lib body config secret 1 maximumAttempts

/-- `execute_invocation`. -/
def executeInvocation (files : String → PathState) (invocation : List (String × Json)) :
    Proc DeliveryOutcome := do
  let config ← evaluate (parseConfiguration lib invocation)
  let resultsPath ← evaluate (resultsFileFromInvocation lib.unicode invocation)
  let row ← evaluate (readSingleResult lib files resultsPath)
  let finding ← evaluate (buildFinding lib.unicode row config)
  let body ← evaluate (serializeFinding finding)
  let secret ← evaluate (loadSecretFile files config.secretFile)
  deliver lib body config secret

/-- `_read_bounded_stdin`. -/
def readBoundedStdin (stdin : List UInt8) : Except PyError (List UInt8) :=
  let value := stdin.take (maximumInvocationBytes + 1)
  if value.length > maximumInvocationBytes then .error actionInputError else .ok value

def Category.value : Category → String
  | .success => "success"
  | .permanentFailure => "permanent_failure"
  | .durableFailure => "durable_failure"
  | .transientFailure => "transient_failure"

/-- `_safe_outcome_log`. -/
def safeOutcomeLog (outcome : DeliveryOutcome) : String :=
  let fields := ["outcome=" ++ outcome.category.value, "attempts=" ++ toString outcome.attempts,
    "status=" ++ outcome.status.elim "none" toString,
    "replayed=" ++ (if outcome.replayed then "true" else "false")]
  let fields := fields ++ (outcome.processingId.map ("processing_id=" ++ ·)).toList
  let fields := fields ++ (outcome.errorCode.map ("error_category=" ++ ·)).toList
  "alert2ir_delivery " ++ " ".intercalate fields ++ "\n"

/-- The line that tells the category of an error. -/
def errorLine (category : String) : String :=
  "alert2ir_delivery error_category=" ++ category ++ "\n"

/-- `main`: its exit code and what it writes to `stderr`. -/
def main (files : String → PathState) (arguments : List String) (stdin : List UInt8) :
    Proc (Nat × String) :=
  if arguments ≠ ["--execute"] then return (1, errorLine "invalid_execution_mode")
  else do
    let outcome ← catching do
      let payload ← evaluate (readBoundedStdin stdin)
      let invocation ← evaluate (parseInvocation lib payload)
      executeInvocation lib files invocation
    match outcome with
    | .ok outcome => return (if outcome.success then 0 else 1, safeOutcomeLog outcome)
    | .error e =>
      match actionErrorName e with
      | some name => return (1, errorLine name)
      | none => throw e

end Action

end Sender

end Alert2IR
