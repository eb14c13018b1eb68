import Mathlib.Algebra.Order.Ring.Unbundled.Rat
import Alert2IR.Backends.Base
import Alert2IR.Interleaving.Solo
import Alert2IR.Json.Text

/-!
# The Velociraptor backend

Scheduling a collection, polling its flow, and the older `collect` that does both in one loop, as
programs over the calls of `grpc`, the clock and the event log. What the JSON library reads and how
it writes a float are parameters.
-/

namespace Alert2IR

namespace Velociraptor

def processListArtifact : String := "Windows.System.Pslist"

def processListCapability : String := "process.list"

def pollIntervalSeconds : Rat := 1

def nonterminalFlowStates : List String :=
  ["UNSET", "RUNNING", "WAITING", "IN_PROGRESS", "UNRESPONSIVE"]

def terminalSuccessFlowStates : List String := ["FINISHED"]

def terminalFailureFlowStates : List String := ["ERROR"]

/-- `VelociraptorConfigurationError`, a `ValueError`. -/
def configurationError (message : String) : PyError := .valueError message

/-- `VelociraptorTargetError`, a `BackendSubmissionRejectedError`. -/
def targetError : PyError := .backendSubmissionRejected

def collectionError (message : String) : PyError :=
  .other ("VelociraptorCollectionError: " ++ message)

/-- `VelociraptorSubmissionUnknownError`, always with one message. -/
def submissionUnknown : PyError :=
  .other "VelociraptorSubmissionUnknownError: Velociraptor scheduling outcome is unknown"

/-! ### Values -/

/-- A number as Python may pass it: `float` of it may be rational, and then not quite the number,
infinite or not a number, or raise. -/
inductive PyNumber
  | boolean
  | notReal
  | finite (value float : Rat)
  | nonfinite
  | overflowing

/-- A decoded JSON value, of which only strings, lists and dicts are told apart. Strings are of
Unicode scalar values. -/
inductive Value
  | str (text : String)
  | list (items : List Value)
  | dict (members : List (String × Value))
  | other

def Value.isDict : Value → Bool
  | .dict _ => true
  | _ => false

/-- `row.get(key)`. -/
def Value.get (row : Value) (key : String) : Option Value :=
  match row with
  | .dict members => members.lookup key
  | _ => none

/-- `value == text`. -/
def isText (value : Option Value) (text : String) : Bool :=
  match value with
  | some (.str text') => text' = text
  | _ => false

/-- `_validate_artifacts`. -/
def validateArtifacts (value : Option Value) (expectedArtifact : String) : Bool :=
  match value with
  | some (.list [item]) => isText (some item) expectedArtifact
  | _ => false

/-! ### The world outside -/

/-- An exception of a library, which never raises the backend's own rejection. That of a failed RPC
says whether its deadline was exceeded, unless asking it raises in turn. -/
inductive LibraryError
  | rpcError (deadlineExceeded : Option Bool)
  | other (e : PyError) (foreign : e ≠ .backendSubmissionRejected)

def LibraryError.toPyError : LibraryError → PyError
  | .rpcError _ => .other "RpcError"
  | .other e _ => e

theorem LibraryError.toPyError_ne (e : LibraryError) :
    e.toPyError ≠ .backendSubmissionRejected := by
  cases e with
  | rpcError _ => exact nofun
  | other _ foreign => exact foreign

/-- What a `Query` streams: its responses, and the exception that breaks the stream off, if any. -/
structure Stream where
  responses : List String
  failure : Option LibraryError

/-- Why `json.loads` may raise: one of the exceptions `_run_query` expects, or another one. -/
inductive LoadsError
  | malformed
  | other

structure Library where
  loads : String → Except LoadsError Value
  dumpsFloat : Rat → String

/-- How the creation of a channel went: it raised before there was one, after, or not at all. -/
inductive ChannelOutcome
  | absent
  | broken
  | ready

inductive Api
  | createChannel
  | query (vql : String) (timeoutSeconds : Rat)
  | close
  | operationSubmitted (flowId : String)
  | monotonic
  | sleep (seconds : Rat)

def Api.Response : Api → Type
  | .createChannel => ChannelOutcome
  | .query .. => Stream
  | .close | .operationSubmitted _ => Option LibraryError
  | .monotonic => Rat
  | .sleep _ => Unit

abbrev Proc (α : Type) := Interleaving.Proc Api Api.Response PyError α

abbrev Observation := Interleaving.Observation Api Api.Response

open Interleaving.Proc

namespace Proc

def createChannel : Proc ChannelOutcome := perform (R := Api.Response) .createChannel

def query (vql : String) (timeoutSeconds : Rat) : Proc Stream :=
  perform (R := Api.Response) (.query vql timeoutSeconds)

def close : Proc (Option LibraryError) := perform (R := Api.Response) .close

def operationSubmitted (flowId : String) : Proc (Option LibraryError) :=
  perform (R := Api.Response) (.operationSubmitted flowId)

def monotonic : Proc Rat := perform (R := Api.Response) .monotonic

def sleep (seconds : Rat) : Proc Unit := perform (R := Api.Response) (.sleep seconds)

/-- A computation of plain Python, which may raise. -/
def evaluate {α : Type} (x : Except PyError α) : Proc α :=
  match x with
  | .ok a => pure a
  | .error e => throw e

end Proc

open Alert2IR.Velociraptor.Proc

def raiseIf (failure : Option LibraryError) : Proc Unit :=
  match failure with
  | none => return ()
  | some e => throw e.toPyError

/-! ### Texts -/

def hex4 (n : Nat) : List Char :=
  ['\\', 'u', Json.hexDigit (n / 4096 % 16), Json.hexDigit (n / 256 % 16),
    Json.hexDigit (n / 16 % 16), Json.hexDigit (n % 16)]

/-- A character as `json.dumps` writes it with `ensure_ascii`. -/
def escapeAscii (c : Char) : List Char :=
  if c.toNat < 0x7f then Json.escape c
  else if c.toNat < 0x10000 then hex4 c.toNat
  else hex4 (0xd800 + (c.toNat - 0x10000) / 0x400) ++ hex4 (0xdc00 + (c.toNat - 0x10000) % 0x400)

def dumpsString (value : String) : String :=
  String.ofList ('"' :: value.toList.flatMap escapeAscii ++ ['"'])

/-- `_vql_string_literal`. -/
def vqlStringLiteral (value : String) : Except PyError String :=
  if isBlank value then
    .error (collectionError "collection request contains a blank or invalid string value")
  else .ok (dumpsString value)

def schedulingVql (clientLiteral artifactLiteral timeoutLiteral : String) : String :=
  "LET collection <= collect_client(\n    client_id=" ++ clientLiteral ++
    ",\n    artifacts=[" ++ artifactLiteral ++ "],\n    timeout=" ++ timeoutLiteral ++
    ")\n\nSELECT\n    collection.flow_id AS flow_id,\n    " ++
    "collection.request.client_id AS client_id,\n    " ++
    "collection.request.artifacts AS artifacts\nFROM scope()\n"

def pollingVql (clientLiteral flowLiteral : String) : String :=
  "SELECT\n    session_id,\n    state,\n    request.client_id AS client_id,\n    " ++
    "request.artifacts AS artifacts,\n    status\nFROM flows(\n    client_id=" ++ clientLiteral ++
    ",\n    flow_id=" ++ flowLiteral ++ ")\n"

/-! ### Queries -/

/-- `_validate_timeout`. -/
def validateTimeout : PyNumber → Except PyError Rat
  | .boolean | .notReal | .nonfinite =>
      .error (configurationError "collection timeout must be a finite positive number")
  | .overflowing => .error (.other "OverflowError")
  | .finite _ timeout =>
      if timeout ≤ 0 then
        .error (configurationError "collection timeout must be a finite positive number")
      else .ok timeout

/-- One response of a stream. -/
def readBatch (lib : Library) (response : String) : Except PyError (List Value) :=
  if response = "" then .ok []
  else
    match lib.loads response with
    | .error .malformed =>
        .error (collectionError "Velociraptor API query returned malformed JSON")
    | .error .other => .error (collectionError "Velociraptor API query failed")
    | .ok (.list batch) =>
        if batch.all Value.isDict then .ok batch
        else .error (collectionError
          "Velociraptor API query returned an invalid result structure")
    | .ok _ =>
        .error (collectionError "Velociraptor API query returned an invalid result structure")

/-- What `_run_query` makes of a stream. -/
def rowsOf (lib : Library) (stream : Stream) : Except PyError (List Value) := do
  let batches ← stream.responses.mapM (readBatch lib)
  match stream.failure with
  | none => return batches.flatten
  | some (.rpcError (some true)) => throw .timeoutError
  | some _ => throw (collectionError "Velociraptor API query failed")

/-- `_run_query`. -/
def runQuery (lib : Library) (vql : String) (timeoutSeconds : Rat) : Proc (List Value) := do
  let stream ← query vql timeoutSeconds
  evaluate (rowsOf lib stream)

/-- A body that has a channel, which is closed after it however it ends. -/
def withChannel {α : Type} (uncreated : PyError) (body : Proc α) : Proc α := do
  match ← createChannel with
  | .absent => throw uncreated
  | .broken => do
      raiseIf (← close)
      throw uncreated
  | .ready => do
      let result ← catching body
      raiseIf (← close)
      evaluate result

/-- `_query_once`. -/
def queryOnce (lib : Library) (vql : String) (timeoutSeconds : Rat) : Proc (List Value) :=
  withChannel .backendSubmissionRejected (runQuery lib vql timeoutSeconds)

/-! ### Scheduling and polling -/

/-- The flow ID that `schedule` accepts out of the rows of its query. -/
def scheduledFlow (clientId artifact : String) (rows : List Value) : Option String :=
  match rows with
  | [row] =>
      match row.get "flow_id" with
      | some (.str flowId) =>
          if isBlank flowId || !flowId.startsWith "F." || !isText (row.get "client_id") clientId
            || !validateArtifacts (row.get "artifacts") artifact then none
          else some flowId
      | _ => none
  | _ => none

/-- `PyVelociraptorCollectionClient.schedule`. -/
def schedule (lib : Library) (clientId artifact : String) (timeoutSeconds : PyNumber) :
    Proc String := do
  let timeout ← evaluate (validateTimeout timeoutSeconds)
  let clientLiteral ← evaluate (vqlStringLiteral clientId)
  let artifactLiteral ← evaluate (vqlStringLiteral artifact)
  let vql := schedulingVql clientLiteral artifactLiteral (lib.dumpsFloat timeout)
  match ← catching (queryOnce lib vql timeout) with
  | .error .backendSubmissionRejected => throw .backendSubmissionRejected
  | .error _ => throw submissionUnknown
  | .ok rows =>
      match scheduledFlow clientId artifact rows with
      | none => throw submissionUnknown
      | some flowId => do
          raiseIf (← operationSubmitted flowId)
          return flowId

/-- What `poll_flow` makes of the rows of its query. -/
def polledStatus (clientId artifact flowId : String) (rows : List Value) :
    Except PyError OperationStatus :=
  match rows with
  | [] => OperationStatus.make .nonterminal "UNSEEN"
  | [row] =>
      if !isText (row.get "session_id") flowId || !isText (row.get "client_id") clientId
        || !validateArtifacts (row.get "artifacts") artifact then
        .error (collectionError "Velociraptor flow lookup returned unverifiable identity")
      else
        match row.get "state" with
        | some (.str state) =>
            if terminalSuccessFlowStates.contains state then OperationStatus.make .succeeded state
            else if terminalFailureFlowStates.contains state then
              OperationStatus.make .failed state
            else if nonterminalFlowStates.contains state then
              OperationStatus.make .nonterminal state
            else
              .error (collectionError "Velociraptor flow returned a malformed or unknown state")
        | _ => .error (collectionError "Velociraptor flow returned a malformed or unknown state")
  | _ => .error (collectionError "Velociraptor flow lookup returned an unexpected row count")

/-- `PyVelociraptorCollectionClient.poll_flow`. -/
def pollFlow (lib : Library) (clientId artifact flowId : String) (timeoutSeconds : PyNumber) :
    Proc OperationStatus := do
  let timeout ← evaluate (validateTimeout timeoutSeconds)
  let clientLiteral ← evaluate (vqlStringLiteral clientId)
  let _ ← evaluate (vqlStringLiteral artifact)
  let flowLiteral ← evaluate (vqlStringLiteral flowId)
  let rows ← queryOnce lib (pollingVql clientLiteral flowLiteral) timeout
  evaluate (polledStatus clientId artifact flowId rows)

/-! ### The combined path -/

/-- `_deadline_remaining`. -/
def deadlineRemaining (deadline : Rat) : Proc Rat := do
  let now ← monotonic
  if deadline - now ≤ 0 then
    throw (collectionError "Velociraptor collection exceeded its local deadline")
  else return deadline - now

/-- `_wait_for_next_poll`. -/
def waitForNextPoll (deadline : Rat) : Proc Unit := do
  let remaining ← deadlineRemaining deadline
  sleep (min pollIntervalSeconds remaining)

/-- The loop of `collect`, for up to so many rounds. -/
def collectRounds (lib : Library) (clientId artifact flowId vql : String) (deadline : Rat) :
    (rounds : Nat) → Proc (Option String)
  | 0 => return none
  | rounds + 1 => do
      let remaining ← deadlineRemaining deadline
      match ← runQuery lib vql remaining with
      | [] => do
          waitForNextPoll deadline
          collectRounds lib clientId artifact flowId vql deadline rounds
      | [row] =>
          if !isText (row.get "session_id") flowId then
            throw (collectionError "Velociraptor flow lookup returned an unexpected flow")
          else if !isText (row.get "client_id") clientId then
            throw (collectionError "Velociraptor flow lookup returned an unexpected client")
          else if !validateArtifacts (row.get "artifacts") artifact then
            throw (collectionError "Velociraptor flow lookup returned unexpected artifacts")
          else
            match row.get "state" with
            | some (.str state) =>
                if terminalSuccessFlowStates.contains state then return some flowId
                else if nonterminalFlowStates.contains state then do
                  waitForNextPoll deadline
                  collectRounds lib clientId artifact flowId vql deadline rounds
                else if terminalFailureFlowStates.contains state then
                  throw (collectionError
                    ("Velociraptor flow entered terminal " ++ state ++ " state"))
                else
                  throw (collectionError
                    "Velociraptor flow returned a malformed or unknown state")
            | _ =>
                throw (collectionError "Velociraptor flow returned a malformed or unknown state")
      | _ =>
          throw (collectionError "Velociraptor flow lookup returned an unexpected row count")

/-- `PyVelociraptorCollectionClient.collect`, whose loop is cut off after so many rounds: `none` is
a collection that is still going on by then. -/
def collect (lib : Library) (clientId artifact : String) (timeoutSeconds : PyNumber)
    (rounds : Nat) : Proc (Option String) := do
  let timeout ← evaluate (validateTimeout timeoutSeconds)
  let clientLiteral ← evaluate (vqlStringLiteral clientId)
  let artifactLiteral ← evaluate (vqlStringLiteral artifact)
  withChannel (collectionError "Velociraptor secure API channel could not be created") do
    let schedulingRows ← runQuery lib
      (schedulingVql clientLiteral artifactLiteral (lib.dumpsFloat timeout)) timeout
    match schedulingRows with
    | [row] =>
        match row.get "flow_id" with
        | some (.str flowId) =>
            if isBlank flowId || !flowId.startsWith "F." then
              throw (collectionError
                "Velociraptor collection scheduling returned an invalid flow ID")
            else do
              raiseIf (← operationSubmitted flowId)
              if !isText (row.get "client_id") clientId then
                throw (collectionError
                  "Velociraptor collection scheduling returned an unexpected client")
              else if !validateArtifacts (row.get "artifacts") artifact then
                throw (collectionError
                  "Velociraptor collection scheduling returned unexpected artifacts")
              else do
                let flowLiteral ← evaluate (vqlStringLiteral flowId)
                let started ← monotonic
                collectRounds lib clientId artifact flowId (pollingVql clientLiteral flowLiteral)
                  (started + timeout) rounds
        | _ =>
            throw (collectionError
              "Velociraptor collection scheduling returned an invalid flow ID")
    | _ =>
        throw (collectionError
          "Velociraptor collection scheduling returned an unexpected row count")

end Velociraptor

/-! ### The backend -/

namespace VelociraptorBackend

def postInit (hostClientIds : List (String × String)) (collectionTimeoutSeconds : Rat) :
    Except PyError Unit :=
  checks ((decide (0 < collectionTimeoutSeconds),
      "collection timeout must be a finite positive number") ::
    hostClientIds.flatMap fun (host, clientId) =>
      [(!isBlank host, "host-to-client mapping contains a blank or invalid host value"),
        (!isBlank clientId, "host-to-client mapping contains a blank or invalid client ID")])

end VelociraptorBackend

structure VelociraptorBackend where
  hostClientIds : List (String × String)
  collectionTimeoutSeconds : Rat
  valid : VelociraptorBackend.postInit hostClientIds collectionTimeoutSeconds = .ok ()

namespace VelociraptorBackend

open Velociraptor Velociraptor.Proc

variable (backend : VelociraptorBackend)

/-- What the router and the core see of it. -/
def toBackend : Backend := ⟨"velociraptor", [processListCapability]⟩

/-- `_resolve_client_id`. -/
def resolveClientId (request : InvestigationRequest) : Except PyError String :=
  if ¬ request.requiredCapabilities.all fun capability => capability = processListCapability then
    .error (.unsupportedCapabilities request.requiredCapabilities none)
  else
    match request.targets with
    | [target] =>
        if target.kind ≠ "host" then .error targetError
        else
          match backend.hostClientIds.lookup target.value with
          | some clientId => .ok clientId
          | none => .error targetError
    | _ => .error targetError

/-- `_effective_timeout`. -/
def effectiveTimeout : Option PyNumber → Except PyError Rat
  | none => .ok backend.collectionTimeoutSeconds
  | some (.finite timeout float) =>
      if timeout ≤ 0 then
        .error (configurationError "operation timeout must be a finite positive number")
      else .ok (min backend.collectionTimeoutSeconds float)
  | some .overflowing => .error (.other "OverflowError")
  | some _ => .error (configurationError "operation timeout must be a finite positive number")

/-- `VelociraptorBackend.submit`. -/
def submit (lib : Library) (request : InvestigationRequest) (timeoutSeconds : Option PyNumber) :
    Velociraptor.Proc SubmittedOperation := do
  let clientId ← evaluate (backend.resolveClientId request)
  let timeout ← evaluate (backend.effectiveTimeout timeoutSeconds)
  let flowId ← schedule lib clientId processListArtifact (.finite timeout timeout)
  evaluate (SubmittedOperation.make flowId)

/-- `VelociraptorBackend.poll`. -/
def poll (lib : Library) (request : InvestigationRequest) (externalOperationId : String)
    (timeoutSeconds : Option PyNumber) : Velociraptor.Proc OperationStatus := do
  let clientId ← evaluate (backend.resolveClientId request)
  let timeout ← evaluate (backend.effectiveTimeout timeoutSeconds)
  pollFlow lib clientId processListArtifact externalOperationId (.finite timeout timeout)

end VelociraptorBackend

end Alert2IR
