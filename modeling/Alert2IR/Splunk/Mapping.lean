import Alert2IR.Splunk.Idempotency

/-!
# Pure Splunk finding normalization and canonical alert construction
-/

namespace Alert2IR

namespace Splunk

def canonicalSource : String := "splunk"

def sigmaLevelMappingSchema : String := "alert2ir.splunk.sigma-level.v1"

/-- `[A-Za-z0-9_-]`. -/
def isHostChar (c : Char) : Bool := c.isAlphanum || c = '_' || c = '-'

/-- What is left to match of `_HOSTNAME_PATTERN`, where a label may have been begun. -/
def hostLabels : (begun : Bool) → List Char → Bool
  | begun, [] => begun
  | begun, c :: rest =>
    if c = '.' then begun && hostLabels false rest else isHostChar c && hostLabels true rest

/-- `[A-Za-z0-9_-]+(?:\.[A-Za-z0-9_-]+)*\Z`. -/
def hostnamePattern (name : List Char) : Bool := hostLabels false name

/-- `normalized[:-1]`, where it ends with a dot. -/
def withoutDot (name : List Char) : List Char :=
  if name.getLast? = some '.' then name.dropLast else name

/-- `_normalize_one_hostname`. -/
def normalizeOneHostname (value : String) : Except PyError String :=
  let normalized := withoutDot (stripOf isPyWhitespace value.toList)
  if normalized = [] then .error (.valueError "hostname must be non-empty")
  else if normalized.length > hostnameMaxLength then
    .error (.valueError "hostname exceeds the supported length")
  else if !normalized.all (fun c => c.toNat < 128) then
    .error (.valueError "hostname must contain only ASCII characters")
  else if !hostnamePattern normalized then
    .error (.valueError "hostname contains unsupported characters")
  else .ok (String.ofList (normalized.map Char.toLower))

/-- `normalize_hostname`. -/
def normalizeHostname (computer host : Option String) : Except PyError String := do
  let normalizedComputer ← computer.mapM normalizeOneHostname
  let normalizedHost ← host.mapM normalizeOneHostname
  match normalizedComputer, normalizedHost with
  | some computer, some host =>
    if computer ≠ host then
      throw (.valueError "Computer and host disagree after normalization")
    else return computer
  | some computer, none => return computer
  | none, some host => return host
  | none, none => throw (.valueError "Computer or host is required")

/-- `normalize_sigma_severity`. -/
def normalizeSigmaSeverity : SigmaLevel → Severity
  | .informational => .low
  | .low => .low
  | .medium => .medium
  | .high => .high
  | .critical => .critical

/-- `normalize_splunk_finding`. -/
def normalizeSplunkFinding (finding : SplunkFinding) : Except PyError NormalizedSplunkFinding := do
  let detectedAt ← normalizeTimestamp finding.detectedAt
  let computer ← normalizeHostname finding.computer finding.host
  return {
    ruleId := finding.ruleId
    ruleTitle := finding.ruleTitle
    sigmaLevel := finding.sigmaLevel
    detectedAt
    computer
    channel := finding.channel
    eventCode := finding.eventCode
    recordId := finding.recordId
    source := finding.source
    sourcetype := finding.sourcetype
    processGuid := finding.processGuid
    image := finding.image
    parentImage := finding.parentImage
    targetFilename := finding.targetFilename }

/-- What `quote(text, safe="-._~")` leaves alone. -/
def isUnreserved (c : Char) : Bool := c.isAlphanum || c = '_' || c = '-' || c = '.' || c = '~'

/-- The digit of a half-byte in a percent-encoding. -/
def upperHexDigit (n : Nat) : Char := (Nat.digitChar n).toUpper

/-- `quote(text, safe="-._~")`. -/
def quote (text : String) : List Char :=
  text.toList.flatMap fun c =>
    if isUnreserved c then [c]
    else (String.utf8EncodeChar c).flatMap fun byte =>
      ['%', upperHexDigit (byte.toNat / 16), upperHexDigit (byte.toNat % 16)]

/-- `_evidence`. -/
def evidence (reference kind : String) : Except PyError EvidenceReference :=
  if reference.length > evidenceReferenceMaxLength then
    .error (.valueError (kind ++ " evidence exceeds the supported length"))
  else EvidenceReference.make reference (some kind)

/-- The reference of the `normalization-policy` evidence. -/
def policyReference (finding : NormalizedSplunkFinding) (severity : Severity) : String :=
  sigmaLevelMappingSchema ++ ":" ++ finding.sigmaLevel.value ++ "->" ++ severity.value

/-- The reference of the `source-event` evidence. -/
def eventReference (finding : NormalizedSplunkFinding) : String :=
  "windows-event://" ++ String.ofList (quote finding.computer) ++ "/" ++
    String.ofList (quote finding.channel) ++ "/" ++ toString finding.recordId ++
    "?event_code=" ++ toString finding.eventCode

/-- The references and kinds of the evidence there is of a finding. -/
def evidenceItems (finding : NormalizedSplunkFinding) (severity : Severity) :
    List (String × String) :=
  (policyReference finding severity, "normalization-policy") ::
    (eventReference finding, "source-event") ::
    [(finding.processGuid, "process-guid"), (finding.image, "process-image"),
      (finding.parentImage, "parent-process-image"),
      (finding.targetFilename, "target-file")].filterMap
        fun item => item.1.map fun reference => (reference, item.2)

/-- `build_evidence`. -/
def buildEvidence (finding : NormalizedSplunkFinding) (severity : Severity) :
    Except PyError (List EvidenceReference) :=
  (evidenceItems finding severity).mapM fun item => evidence item.1 item.2

/-- `_to_canonical_alert`. -/
def toCanonicalAlert (finding : NormalizedSplunkFinding) (key : String) :
    Except PyError CanonicalAlert := do
  let severity := normalizeSigmaSeverity finding.sigmaLevel
  let detection ← DetectionIdentity.make finding.ruleId (some finding.ruleTitle)
  let source ← SourceProvenance.make canonicalSource (some key)
  let entity ← Entity.make "host" finding.computer
  let evidence ← buildEvidence finding severity
  CanonicalAlert.make detection finding.detectedAt source [entity] severity evidence

/-- `canonicalize`. -/
def canonicalize (sha256 : Sha256) (finding : SplunkFinding) :
    Except PyError CanonicalizedSplunkFinding := do
  let normalized ← normalizeSplunkFinding finding
  let key ← idempotencyKey sha256 normalized
  let alert ← toCanonicalAlert normalized key
  return ⟨alert, key⟩

end Splunk

end Alert2IR
