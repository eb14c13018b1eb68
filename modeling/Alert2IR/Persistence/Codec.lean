import Alert2IR.Application.Persistence
import Alert2IR.Persistence.Schema

/-!
# Values as columns, and columns as values

The encoders and decoders of the PostgreSQL repository. Neither the incident nor the provenance of a
decision is stored: both are rebuilt from other columns of the same row.
-/

namespace Alert2IR

namespace Postgres

def encodeEntities (values : List Entity) : Json :=
  .arr (values.map fun value => .obj [("kind", .str value.kind), ("value", .str value.value)])

def encodeEvidence (values : List EvidenceReference) : Json :=
  .arr (values.map fun value =>
    .obj [("reference", .str value.reference),
      ("kind", match value.kind with
        | some kind => .str kind
        | none => .null)])

/-- `Jsonb(list(values))`. -/
def encodeStrings (values : List String) : Json := .arr (values.map .str)

/-- `_require_array`. -/
def requireArray (value : Option Json) (field : String) : Except PyError (List Json) :=
  match value with
  | some (.arr items) => .ok items
  | _ => .error (.valueError ("snapshot v1 " ++ field ++ " must be a JSON array"))

/-- `_require_object`. -/
def requireObject (value : Json) (field : String) (expectedKeys : List String) :
    Except PyError (List (String × Json)) :=
  match value with
  | .obj members =>
      let keys := members.map Prod.fst
      if keys.all expectedKeys.contains && expectedKeys.all keys.contains then .ok members
      else .error (.valueError ("snapshot v1 " ++ field ++ " must be an object with keys"))
  | _ => .error (.valueError ("snapshot v1 " ++ field ++ " must be an object with keys"))

/-- A member that a dataclass uses as a `str`. -/
def asString : Option Json → Except PyError String
  | some (.str s) => .ok s
  | _ => .error (.attributeError "strip")

/-- A member that a dataclass uses as a `str | None`. -/
def asOptionalString : Option Json → Except PyError (Option String)
  | some .null => .ok none
  | value => some <$> asString value

def decodeEntity (field : String) (item : Json) : Except PyError Entity := do
  let members ← requireObject item field ["kind", "value"]
  let kind ← asString (members.lookup "kind")
  let value ← asString (members.lookup "value")
  Entity.make kind value

def decodeEntities (value : Option Json) (field : String) : Except PyError (List Entity) := do
  let items ← requireArray value field
  items.mapM (decodeEntity field)

def decodeReference (field : String) (item : Json) : Except PyError EvidenceReference := do
  let members ← requireObject item field ["reference", "kind"]
  let reference ← asString (members.lookup "reference")
  let kind ← asOptionalString (members.lookup "kind")
  EvidenceReference.make reference kind

def decodeEvidence (value : Option Json) (field : String) :
    Except PyError (List EvidenceReference) := do
  let items ← requireArray value field
  items.mapM (decodeReference field)

def decodeString (field : String) : Json → Except PyError String
  | .str s => .ok s
  | _ => .error (.valueError ("snapshot v1 " ++ field ++ " must contain only strings"))

def decodeStrings (value : Option Json) (field : String) : Except PyError (List String) := do
  let items ← requireArray value field
  items.mapM (decodeString field)

/-- The columns of an alert, from `_canonical_values`. -/
def canonicalValues (processingId : UUID) (alert : CanonicalAlert) (idempotencyScope : String)
    (idempotencyKey : String) (fingerprintVersion : Int) (requestFingerprint : List UInt8)
    (now : Int) : ProcessingRow where
  id := processingId
  createdAt := now
  updatedAt := now
  snapshotVersion := 1
  detectionIdentifier := alert.detection.identifier
  detectionName := alert.detection.name
  detectedAt := alert.detectedAt.instant
  source := alert.source.source
  sourceAlertId := alert.source.sourceAlertId
  severity := alert.severity.value
  entities := encodeEntities alert.entities
  alertEvidence := encodeEvidence alert.evidence
  idempotencyScope := some idempotencyScope
  idempotencyKey := some idempotencyKey
  fingerprintVersion := some fingerprintVersion
  requestFingerprint := some requestFingerprint
  state := "accepted"
  selectedBackend := none
  decisionOutcome := none
  policyId := none
  decisionReasons := none
  requestDesiredOutcome := none
  requestCapabilities := none
  requestTargets := none
  resultBackend := none
  resultCompletedCapabilities := none
  resultEvidence := none
  completedAt := none
  failedAt := none
  errorCategory := none
  errorDetail := none

/-- `_decision_values`, assigned to a row. -/
def decisionValues (decision : Decision) (row : ProcessingRow) : ProcessingRow :=
  { row with
    decisionOutcome := some decision.outcome.value
    policyId := some decision.policyId
    decisionReasons := some (encodeStrings decision.reasons) }

/-- `_request_values`, assigned to a row. -/
def requestValues (request : InvestigationRequest) (row : ProcessingRow) : ProcessingRow :=
  { row with
    requestDesiredOutcome := some request.desiredOutcome
    requestCapabilities := some (encodeStrings request.requiredCapabilities)
    requestTargets := some (encodeEntities request.targets) }

/-- `_result_values`, assigned to a row. -/
def resultValues (result : InvestigationResult) (row : ProcessingRow) : ProcessingRow :=
  { row with
    resultBackend := some result.backend
    resultCompletedCapabilities := some (encodeStrings result.completedCapabilities)
    resultEvidence := some (encodeEvidence result.evidence) }

def deserializeAlert (row : ProcessingRow) : Except PyError CanonicalAlert := do
  let source ← SourceProvenance.make row.source row.sourceAlertId
  let detection ← DetectionIdentity.make row.detectionIdentifier row.detectionName
  let entities ← decodeEntities (some row.entities) "entities"
  let severity ← Severity.ofValue row.severity
  let evidence ← decodeEvidence (some row.alertEvidence) "alert_evidence"
  CanonicalAlert.make detection (Datetime.ofInstant row.detectedAt) source entities severity
    evidence

/-- A column that a dataclass uses as a `str`. -/
def columnString (value : Option String) : Except PyError String :=
  match value with
  | some s => .ok s
  | none => .error (.attributeError "strip")

def deserializeDecision (row : ProcessingRow) (source : SourceProvenance) :
    Except PyError (Option Decision) :=
  match row.decisionOutcome with
  | none => .ok none
  | some outcome => do
      let outcome ← DecisionOutcome.ofValue outcome
      let policyId ← columnString row.policyId
      let reasons ← decodeStrings row.decisionReasons "decision_reasons"
      some <$> Decision.make outcome policyId reasons source

def deserializeRequest (row : ProcessingRow) (alert : CanonicalAlert)
    (decision : Option Decision) : Except PyError (Option InvestigationRequest) :=
  match decision, row.requestDesiredOutcome with
  | some decision, some desiredOutcome =>
      if decision.outcome = .investigate then do
        let incident ← Incident.make alert decision
        let capabilities ← decodeStrings row.requestCapabilities "request_capabilities"
        let targets ← decodeEntities row.requestTargets "request_targets"
        some <$> InvestigationRequest.make incident desiredOutcome capabilities targets
      else .ok none
  | _, _ => .ok none

def deserializeResult (row : ProcessingRow) (decision : Option Decision)
    (request : Option InvestigationRequest) : Except PyError (Option OrchestrationResult) := do
  let state ← ProcessingState.ofValue row.state
  if state ≠ .completed then .ok none
  else
    match decision with
    | none => .error (.valueError "completed processing is missing its decision")
    | some decision =>
        match decision.outcome, request with
        | .noAction, _ => some <$> OrchestrationResult.make decision none none none
        | .investigate, none =>
            .error (.valueError "completed investigation is missing its request")
        | .investigate, some request => do
            let backend ← columnString row.resultBackend
            let capabilities ← decodeStrings row.resultCompletedCapabilities
              "result_completed_capabilities"
            let evidence ← decodeEvidence row.resultEvidence "result_evidence"
            let result ← InvestigationResult.make backend capabilities evidence
            some <$> OrchestrationResult.make decision (some request.incident) (some request)
              (some result)

/-- `_deserialize_processing`, up to the construction of the record. The incident is that of the
request: the source builds both from the same alert and decision. -/
def deserializeFields (row : ProcessingRow) : Except PyError ProcessingFields := do
  if row.snapshotVersion ≠ 1 then
    .error (.valueError "unsupported processing snapshot version")
  else do
    let alert ← deserializeAlert row
    let decision ← deserializeDecision row alert.source
    let request ← deserializeRequest row alert decision
    let completedResult ← deserializeResult row decision request
    let state ← ProcessingState.ofValue row.state
    return {
      processingId := row.id
      createdAt := Datetime.ofInstant row.createdAt
      updatedAt := Datetime.ofInstant row.updatedAt
      alert
      state
      idempotencyScope := row.idempotencyScope
      idempotencyKey := row.idempotencyKey
      fingerprintVersion := row.fingerprintVersion
      requestFingerprint := row.requestFingerprint
      plannedDecision := if completedResult.isNone then decision else none
      plannedIncident := if completedResult.isNone then request.map (·.incident) else none
      plannedRequest := if completedResult.isNone then request else none
      selectedBackend := row.selectedBackend
      completedResult
      completedAt := row.completedAt.map Datetime.ofInstant
      failedAt := row.failedAt.map Datetime.ofInstant
      errorCategory := row.errorCategory
      errorDetail := row.errorDetail }

/-- `_deserialize_processing`. -/
def deserializeProcessing (row : ProcessingRow) : Except PyError ProcessingRecord := do
  let fields ← deserializeFields row
  ProcessingRecord.make fields

/-- `_deserialize_attempt`, up to the construction of the attempt. -/
def deserializeAttemptFields (row : AttemptRow) : Except PyError AttemptFields := do
  let state ← ExecutionAttemptState.ofValue row.state
  return {
    attemptId := row.attemptId
    processingId := row.processingId
    attemptNumber := row.attemptNumber
    operationKey := row.operationKey
    backend := row.backend
    state
    createdAt := Datetime.ofInstant row.createdAt
    startedAt := row.startedAt.map Datetime.ofInstant
    submittedAt := row.submittedAt.map Datetime.ofInstant
    lastPolledAt := row.lastPolledAt.map Datetime.ofInstant
    completedAt := row.completedAt.map Datetime.ofInstant
    failedAt := row.failedAt.map Datetime.ofInstant
    externalOperationId := row.externalOperationId
    lastRemoteState := row.lastRemoteState
    errorCategory := row.errorCategory
    errorDetail := row.errorDetail }

/-- `_deserialize_attempt`. -/
def deserializeAttempt (row : AttemptRow) : Except PyError ExecutionAttempt := do
  let fields ← deserializeAttemptFields row
  ExecutionAttempt.make fields

end Postgres

end Alert2IR
