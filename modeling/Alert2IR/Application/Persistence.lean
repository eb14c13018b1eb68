import Alert2IR.Application.Orchestrator

/-!
# Durable processing and execution-attempt records
-/

namespace Alert2IR

/-- `ALLOWED_PROCESSING_TRANSITIONS`. -/
def allowedProcessingTransitions : ProcessingState → List ProcessingState
  | .accepted => [.planned, .completed, .failed]
  | .planned => [.submitting, .failed]
  | .submitting => [.submitted, .failed, .recoveryRequired]
  | .submitted => [.submitted, .completed, .failed, .recoveryRequired]
  | .completed => []
  | .failed => []
  | .recoveryRequired => [.submitted, .failed]

def processingTransitionAllowed (fromState toState : ProcessingState) : Bool :=
  (allowedProcessingTransitions fromState).contains toState

def requireAware (value : Option Datetime) (field : String) : Bool × String :=
  (ifPresent value Datetime.isAware, field ++ " must be timezone-aware")

def requireBoundedError (value : Option String) (field : String) : Bool × String :=
  (ifPresent value fun v => v ≠ "" && v.length ≤ 256, field ++ " must contain 1-256 characters")

/-- The fields of a `ProcessingRecord`, before `__post_init__` has looked at them. -/
structure ProcessingFields where
  processingId : UUID
  createdAt : Datetime
  updatedAt : Datetime
  alert : CanonicalAlert
  state : ProcessingState
  idempotencyScope : Option String
  idempotencyKey : Option String
  fingerprintVersion : Option Int
  requestFingerprint : Option (List UInt8)
  plannedDecision : Option Decision
  plannedIncident : Option Incident
  plannedRequest : Option InvestigationRequest
  selectedBackend : Option String
  completedResult : Option OrchestrationResult
  completedAt : Option Datetime
  failedAt : Option Datetime
  errorCategory : Option String
  errorDetail : Option String
deriving DecidableEq

namespace ProcessingFields

variable (f : ProcessingFields)

def timestampChecks : List (Bool × String) := [
  requireAware (some f.createdAt) "created_at",
  requireAware (some f.updatedAt) "updated_at",
  requireAware f.completedAt "completed_at",
  requireAware f.failedAt "failed_at",
  (f.createdAt.instant ≤ f.updatedAt.instant, "updated_at cannot precede created_at")]

def identityChecks : List (Bool × String) := [
  (f.idempotencyScope.isNone = f.idempotencyKey.isNone,
    "idempotency scope and key must be present together"),
  (f.fingerprintVersion.isNone = f.requestFingerprint.isNone,
    "fingerprint version and digest must be present together"),
  (f.idempotencyKey.isSome || f.requestFingerprint.isNone,
    "legacy processing cannot contain a fingerprint"),
  (f.idempotencyKey.isNone || f.requestFingerprint.isSome,
    "idempotent processing requires a fingerprint"),
  (ifPresent f.requestFingerprint fun digest => digest.length = 32,
    "request fingerprint must contain exactly 32 bytes"),
  (ifPresent f.fingerprintVersion fun version => version = 1,
    "unsupported request fingerprint version")]

def errorChecks : List (Bool × String) := [
  requireBoundedError f.errorCategory "error_category",
  requireBoundedError f.errorDetail "error_detail",
  (f.errorCategory.isNone = f.errorDetail.isNone,
    "error category and detail must be present together")]

def stateChecks : List (Bool × String) :=
  match f.state with
  | .accepted => [
      (f.plannedDecision.isNone && f.plannedIncident.isNone && f.plannedRequest.isNone
        && f.selectedBackend.isNone, "accepted processing cannot contain a plan"),
      (f.completedResult.isNone, "accepted processing cannot contain a result")]
  | .planned | .submitting | .submitted | .recoveryRequired => [
      (f.plannedDecision.isSome && f.plannedIncident.isSome && f.plannedRequest.isSome
        && f.selectedBackend.isSome, f.state.value ++ " processing requires a complete plan"),
      (f.completedResult.isNone, f.state.value ++ " processing cannot contain a result")]
  | .completed => [
      (f.completedResult.isSome && f.completedAt.isSome,
        "completed processing requires result and completed_at"),
      (f.failedAt.isNone, "completed processing cannot contain failed_at")]
  | .failed => [
      (f.failedAt.isSome && f.errorCategory.isSome,
        "failed processing requires failed_at and error_category"),
      (f.completedResult.isNone && f.completedAt.isNone,
        "failed processing cannot contain a completed result")]

def sourceChecks : List (Bool × String) := [
  (ifPresent f.plannedDecision fun decision => decision.source = f.alert.source,
    "planned decision source must match alert source"),
  (f.plannedDecision.isNone
      || ifPresent f.plannedIncident fun incident => incident.alert.utc = f.alert.utc,
    "planned incident alert must match alert"),
  (ifPresent f.completedResult fun result => result.decision.source = f.alert.source,
    "result decision source must match alert source"),
  (ifPresent f.completedResult fun result =>
      ifPresent result.incident fun incident => incident.alert.utc = f.alert.utc,
    "result incident alert must match alert")]

def postInit : Except PyError Unit :=
  checks (f.timestampChecks ++ f.identityChecks ++ f.errorChecks ++ f.stateChecks
    ++ f.sourceChecks)

def decision : Option Decision :=
  match f.completedResult with
  | some result => some result.decision
  | none => f.plannedDecision

def incident : Option Incident :=
  match f.completedResult with
  | some result => result.incident
  | none => f.plannedIncident

def investigationRequest : Option InvestigationRequest :=
  match f.completedResult with
  | some result => result.investigationRequest
  | none => f.plannedRequest

end ProcessingFields

/-- One durable logical processing at any lifecycle phase. -/
structure ProcessingRecord extends ProcessingFields where
  valid : toProcessingFields.postInit = .ok ()
deriving DecidableEq

namespace ProcessingRecord

/-- The constructor, and with it `dataclasses.replace`. -/
def make (f : ProcessingFields) : Except PyError ProcessingRecord :=
  match h : f.postInit with
  | .ok () => .ok ⟨f, h⟩
  | .error e => .error e

theorem make_eq_ok_iff {f : ProcessingFields} {r : ProcessingRecord} :
    make f = .ok r ↔ r.toProcessingFields = f := by
  constructor
  · intro h
    unfold make at h
    split at h
    · cases h
      rfl
    · cases h
  · rintro rfl
    unfold make
    split
    · rfl
    · next h => simp [r.valid] at h

theorem exists_make_of_postInit {f : ProcessingFields} (h : f.postInit = .ok ()) :
    ∃ r, make f = .ok r ∧ r.toProcessingFields = f :=
  ⟨⟨f, h⟩, make_eq_ok_iff.mpr rfl, rfl⟩

end ProcessingRecord

/-- The fields of an `ExecutionAttempt`, before `__post_init__` has looked at them. -/
structure AttemptFields where
  attemptId : UUID
  processingId : UUID
  attemptNumber : Int
  operationKey : UUID
  backend : String
  state : ExecutionAttemptState
  createdAt : Datetime
  startedAt : Option Datetime
  submittedAt : Option Datetime
  lastPolledAt : Option Datetime
  completedAt : Option Datetime
  failedAt : Option Datetime
  externalOperationId : Option String
  lastRemoteState : Option String
  errorCategory : Option String
  errorDetail : Option String
deriving DecidableEq

namespace AttemptFields

variable (f : AttemptFields)

def commonChecks : List (Bool × String) := [
  (1 ≤ f.attemptNumber, "attempt_number must be positive"),
  (!isBlank f.backend, "backend must be non-empty"),
  requireAware (some f.createdAt) "created_at",
  requireAware f.startedAt "started_at",
  requireAware f.submittedAt "submitted_at",
  requireAware f.lastPolledAt "last_polled_at",
  requireAware f.completedAt "completed_at",
  requireAware f.failedAt "failed_at",
  requireBoundedError f.lastRemoteState "last_remote_state",
  requireBoundedError f.errorCategory "error_category",
  requireBoundedError f.errorDetail "error_detail",
  (f.errorCategory.isNone = f.errorDetail.isNone,
    "error category and detail must be present together"),
  (ifPresent f.externalOperationId fun id => !isBlank id && id.length ≤ 512,
    "external_operation_id must contain 1-512 characters")]

def stateChecks : List (Bool × String) :=
  match f.state with
  | .planned => [
      (f.startedAt.isNone && f.submittedAt.isNone && f.externalOperationId.isNone
        && f.completedAt.isNone && f.failedAt.isNone,
        "planned attempt contains execution fields")]
  | .submitting => [
      (f.startedAt.isSome && f.externalOperationId.isNone,
        "submitting attempt requires only a start time")]
  | .submitted => [
      (f.startedAt.isSome && f.submittedAt.isSome && f.externalOperationId.isSome,
        "submitted attempt requires durable operation identity"),
      (f.completedAt.isNone && f.failedAt.isNone,
        "submitted attempt cannot contain terminal timestamps")]
  | .completed => [
      (f.startedAt.isSome && f.submittedAt.isSome && f.externalOperationId.isSome
        && f.completedAt.isSome, "completed attempt is missing required fields"),
      (f.failedAt.isNone, "completed attempt cannot contain failed_at")]
  | .failed => [
      (f.failedAt.isSome && f.errorCategory.isSome, "failed attempt requires failure metadata"),
      (f.completedAt.isNone, "failed attempt cannot contain completed_at")]
  | .recoveryRequired => [
      (f.startedAt.isSome && f.errorCategory.isSome,
        "recovery-required attempt requires recovery metadata"),
      (f.completedAt.isNone && f.failedAt.isNone, "recovery-required attempt is nonterminal")]

def postInit : Except PyError Unit := checks (f.commonChecks ++ f.stateChecks)

end AttemptFields

structure ExecutionAttempt extends AttemptFields where
  valid : toAttemptFields.postInit = .ok ()
deriving DecidableEq

namespace ExecutionAttempt

/-- The constructor, and with it `dataclasses.replace`. -/
def make (f : AttemptFields) : Except PyError ExecutionAttempt :=
  match h : f.postInit with
  | .ok () => .ok ⟨f, h⟩
  | .error e => .error e

theorem make_eq_ok_iff {f : AttemptFields} {a : ExecutionAttempt} :
    make f = .ok a ↔ a.toAttemptFields = f := by
  constructor
  · intro h
    unfold make at h
    split at h
    · cases h
      rfl
    · cases h
  · rintro rfl
    unfold make
    split
    · rfl
    · next h => simp [a.valid] at h

theorem exists_make_of_postInit {f : AttemptFields} (h : f.postInit = .ok ()) :
    ∃ a, make f = .ok a ∧ a.toAttemptFields = f :=
  ⟨⟨f, h⟩, make_eq_ok_iff.mpr rfl, rfl⟩

theorem fields_injective : Function.Injective ExecutionAttempt.toAttemptFields := by
  rintro ⟨f, hf⟩ ⟨g, hg⟩ rfl
  rfl

end ExecutionAttempt

structure ProcessingAcceptance where
  record : ProcessingRecord
  created : Bool
deriving DecidableEq

structure PlannedProcessing where
  record : ProcessingRecord
  attempt : ExecutionAttempt
deriving DecidableEq

end Alert2IR
