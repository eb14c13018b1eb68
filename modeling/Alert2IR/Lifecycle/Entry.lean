import Alert2IR.Application.Repository

/-!
# One durable processing and what may happen to it

The purpose of the two repositories, stated once and without tables: an entry is a processing with
its execution attempt, and a lifecycle operation either finds the entry in a state it expects and
moves it, or leaves it alone. Two entries are told apart only as far as Python's `==` and the
columns of PostgreSQL tell them apart: datetimes are instants, and a completed processing has its
plan in its result alone.
-/

namespace Alert2IR

/-- The durable content of a processing. -/
def ProcessingFields.durable (f : ProcessingFields) : ProcessingFields :=
  { f with
    createdAt := f.createdAt.utc
    updatedAt := f.updatedAt.utc
    alert := f.alert.utc
    plannedDecision := if f.completedResult.isNone then f.plannedDecision else none
    plannedIncident := if f.completedResult.isNone then f.plannedIncident.map Incident.utc else none
    plannedRequest :=
      if f.completedResult.isNone then f.plannedRequest.map InvestigationRequest.utc else none
    completedResult := f.completedResult.map OrchestrationResult.utc
    completedAt := f.completedAt.map Datetime.utc
    failedAt := f.failedAt.map Datetime.utc }

/-- The durable content of an execution attempt. -/
def AttemptFields.durable (f : AttemptFields) : AttemptFields :=
  { f with
    createdAt := f.createdAt.utc
    startedAt := f.startedAt.map Datetime.utc
    submittedAt := f.submittedAt.map Datetime.utc
    lastPolledAt := f.lastPolledAt.map Datetime.utc
    completedAt := f.completedAt.map Datetime.utc
    failedAt := f.failedAt.map Datetime.utc }

@[simp]
theorem ProcessingFields.durable_durable (f : ProcessingFields) :
    f.durable.durable = f.durable := by
  cases h : f.completedResult <;> simp [durable, h, Function.comp_def]

@[simp]
theorem ProcessingFields.durable_decision (f : ProcessingFields) :
    f.durable.decision = f.decision := by
  cases h : f.completedResult <;> simp [decision, durable, h, OrchestrationResult.utc]

@[simp]
theorem ProcessingFields.durable_incident (f : ProcessingFields) :
    f.durable.incident = f.incident.map Incident.utc := by
  cases h : f.completedResult <;> simp [incident, durable, h, OrchestrationResult.utc]

@[simp]
theorem ProcessingFields.durable_investigationRequest (f : ProcessingFields) :
    f.durable.investigationRequest = f.investigationRequest.map InvestigationRequest.utc := by
  cases h : f.completedResult <;> simp [investigationRequest, durable, h, OrchestrationResult.utc]

@[simp]
theorem AttemptFields.durable_durable (f : AttemptFields) : f.durable.durable = f.durable := by
  simp [durable, Function.comp_def]

/-- The processing state of the same name. -/
def ExecutionAttemptState.processingState : ExecutionAttemptState → ProcessingState
  | .planned => .planned
  | .submitting => .submitting
  | .submitted => .submitted
  | .completed => .completed
  | .failed => .failed
  | .recoveryRequired => .recoveryRequired

@[simp]
theorem ExecutionAttemptState.value_processingState (s : ExecutionAttemptState) :
    s.processingState.value = s.value := by
  cases s <;> rfl

theorem ExecutionAttemptState.processingState_injective :
    Function.Injective ExecutionAttemptState.processingState := by
  intro s s' h
  apply value_injective
  rw [← value_processingState, h, value_processingState]

/-- The states in which an attempt has not ended. -/
def ExecutionAttemptState.active : List ExecutionAttemptState :=
  [.planned, .submitting, .submitted, .recoveryRequired]

/-! ### What each operation sets -/

namespace AttemptFields

def claim (now : Int) (a : AttemptFields) : AttemptFields :=
  { a with state := .submitting, startedAt := some (.ofInstant now) }

def markSubmitted (now : Int) (externalOperationId : String) (a : AttemptFields) : AttemptFields :=
  { a with
    state := .submitted
    externalOperationId := some externalOperationId
    submittedAt := some (.ofInstant now) }

def recordPoll (now : Int) (remoteState : String) (category detail : Option String)
    (a : AttemptFields) : AttemptFields :=
  { a with
    lastPolledAt := some (.ofInstant now)
    lastRemoteState := some remoteState
    errorCategory := category
    errorDetail := detail }

def complete (now : Int) (a : AttemptFields) : AttemptFields :=
  { a with
    state := .completed
    completedAt := some (.ofInstant now)
    lastPolledAt := some (.ofInstant now)
    lastRemoteState := some "succeeded"
    errorCategory := none
    errorDetail := none }

def fail (now : Int) (category detail : String) (a : AttemptFields) : AttemptFields :=
  { a with
    state := .failed
    failedAt := some (.ofInstant now)
    errorCategory := some category
    errorDetail := some detail }

def markRecoveryRequired (category detail : String) (a : AttemptFields) : AttemptFields :=
  { a with
    state := .recoveryRequired
    errorCategory := some category
    errorDetail := some detail }

end AttemptFields

namespace ProcessingFields

def claim (now : Int) (p : ProcessingFields) : ProcessingFields :=
  { p with state := .submitting, updatedAt := .ofInstant now }

def markSubmitted (now : Int) (p : ProcessingFields) : ProcessingFields :=
  { p with state := .submitted, updatedAt := .ofInstant now }

def recordPoll (now : Int) (category detail : Option String) (p : ProcessingFields) :
    ProcessingFields :=
  { p with updatedAt := .ofInstant now, errorCategory := category, errorDetail := detail }

def complete (now : Int) (result : OrchestrationResult) (p : ProcessingFields) :
    ProcessingFields :=
  { p with
    state := .completed
    updatedAt := .ofInstant now
    plannedDecision := none
    plannedIncident := none
    plannedRequest := none
    completedResult := some result.utc
    completedAt := some (.ofInstant now)
    errorCategory := none
    errorDetail := none }

def fail (now : Int) (category detail : String) (p : ProcessingFields) : ProcessingFields :=
  { p with
    state := .failed
    updatedAt := .ofInstant now
    failedAt := some (.ofInstant now)
    errorCategory := some category
    errorDetail := some detail }

def markRecoveryRequired (now : Int) (category detail : String) (p : ProcessingFields) :
    ProcessingFields :=
  { p with
    state := .recoveryRequired
    updatedAt := .ofInstant now
    errorCategory := some category
    errorDetail := some detail }

def storeNoActionResult (now : Int) (result : OrchestrationResult) (p : ProcessingFields) :
    ProcessingFields :=
  { p with
    state := .completed
    updatedAt := .ofInstant now
    completedResult := some result.utc
    completedAt := some (.ofInstant now) }

def storePlan (now : Int) (decision : Decision) (incident : Incident)
    (request : InvestigationRequest) (backend : String) (p : ProcessingFields) :
    ProcessingFields :=
  { p with
    state := .planned
    updatedAt := .ofInstant now
    plannedDecision := some decision
    plannedIncident := some incident.utc
    plannedRequest := some request.utc
    selectedBackend := some backend }

end ProcessingFields

structure Entry where
  processing : ProcessingFields
  attempt : Option AttemptFields
deriving DecidableEq

namespace Entry

/-- A processing that has just been accepted. -/
def accepted (now : Int) (processingId : UUID) (alert : CanonicalAlert)
    (idempotencyScope idempotencyKey : String) (fingerprintVersion : Int)
    (requestFingerprint : List UInt8) : Entry where
  processing := {
    processingId
    createdAt := .ofInstant now
    updatedAt := .ofInstant now
    alert := alert.utc
    state := .accepted
    idempotencyScope := some idempotencyScope
    idempotencyKey := some idempotencyKey
    fingerprintVersion := some fingerprintVersion
    requestFingerprint := some requestFingerprint
    plannedDecision := none
    plannedIncident := none
    plannedRequest := none
    selectedBackend := none
    completedResult := none
    completedAt := none
    failedAt := none
    errorCategory := none
    errorDetail := none }
  attempt := none

/-- The attempt a plan comes with. -/
def plannedAttempt (now : Int) (processingId attemptId operationKey : UUID) (backend : String) :
    AttemptFields where
  attemptId := attemptId
  processingId := processingId
  attemptNumber := 1
  operationKey := operationKey
  backend := backend
  state := .planned
  createdAt := .ofInstant now
  startedAt := none
  submittedAt := none
  lastPolledAt := none
  completedAt := none
  failedAt := none
  externalOperationId := none
  lastRemoteState := none
  errorCategory := none
  errorDetail := none

/-- Move an attempt and its processing together, if the attempt is in one of the expected states. -/
def move (e : Entry) (attemptId : UUID) (expected : List ExecutionAttemptState)
    (attemptSet : AttemptFields → AttemptFields)
    (processingSet : ProcessingFields → ProcessingFields) : Option Entry :=
  match e.attempt with
  | none => none
  | some attempt =>
      if attempt.attemptId = attemptId ∧ attempt.state ∈ expected then
        some ⟨processingSet e.processing, some (attemptSet attempt)⟩
      else none

theorem move_eq_some_iff {e e' : Entry} {attemptId : UUID} {expected : List ExecutionAttemptState}
    {attemptSet : AttemptFields → AttemptFields}
    {processingSet : ProcessingFields → ProcessingFields} :
    e.move attemptId expected attemptSet processingSet = some e' ↔
      ∃ attempt, e.attempt = some attempt ∧ attempt.attemptId = attemptId ∧
        attempt.state ∈ expected ∧ e' = ⟨processingSet e.processing,
          some (attemptSet attempt)⟩ := by
  unfold move
  cases e.attempt with
  | none => simp
  | some attempt => simp [and_assoc, eq_comm]

/-- What a lifecycle operation makes of an entry at time `now`, if the entry is the one it is about
and in a state it expects. -/
def advance (now : Int) (e : Entry) : RepositoryCall → Option Entry
  | .storeNoActionResult processingId result =>
      if e.processing.processingId = processingId ∧ e.processing.state = .accepted then
        some { e with processing := e.processing.storeNoActionResult now result }
      else none
  | .storePlan processingId decision incident request backend attemptId operationKey =>
      if e.processing.processingId = processingId ∧ e.processing.state = .accepted then
        some {
          processing := e.processing.storePlan now decision incident request backend
          attempt := some (plannedAttempt now processingId attemptId operationKey backend) }
      else none
  | .claimAttemptForSubmission attemptId =>
      e.move attemptId [.planned] (.claim now) (.claim now)
  | .markAttemptSubmitted attemptId externalOperationId =>
      e.move attemptId [.submitting] (.markSubmitted now externalOperationId) (.markSubmitted now)
  | .recordPoll attemptId remoteState category detail =>
      e.move attemptId [.submitted] (.recordPoll now remoteState category detail)
        (.recordPoll now category detail)
  | .completeProcessing attemptId result =>
      e.move attemptId [.submitted] (.complete now) (.complete now result)
  | .failProcessing processingId expected category detail attemptId =>
      if e.processing.processingId = processingId ∧ e.processing.state ∈ expected then
        match attemptId with
        | none => some { e with processing := e.processing.fail now category detail }
        | some attemptId =>
            e.move attemptId ExecutionAttemptState.active (.fail now category detail)
              (.fail now category detail)
      else none
  | .markRecoveryRequired attemptId expected category detail =>
      e.move attemptId expected (.markRecoveryRequired category detail)
        (.markRecoveryRequired now category detail)
  | .acceptProcessing .. | .get _ | .getAttemptForProcessing _ | .findReconcilable .. => none

end Entry

/-- Whether a call is about an entry. -/
def RepositoryCall.Concerns (e : Entry) : RepositoryCall → Prop
  | .acceptProcessing _ _ scope key _ _ =>
      e.processing.idempotencyScope = some scope ∧ e.processing.idempotencyKey = some key
  | .get processingId | .getAttemptForProcessing processingId
  | .storeNoActionResult processingId _ | .storePlan processingId ..
  | .failProcessing processingId .. => e.processing.processingId = processingId
  | .claimAttemptForSubmission attemptId | .markAttemptSubmitted attemptId _
  | .recordPoll attemptId .. | .completeProcessing attemptId _
  | .markRecoveryRequired attemptId .. => e.attempt.map (·.attemptId) = some attemptId
  | .findReconcilable .. => True

/-- What the callers of an operation see to: values that belong to the entry it is about, and
expected states that the lifecycle lets it leave. -/
def RepositoryCall.Fits (e : Entry) : RepositoryCall → Prop
  | .storeNoActionResult _ result =>
      result.decision.outcome = .noAction ∧ result.decision.source = e.processing.alert.source
  | .storePlan _ decision incident request .. =>
      incident.alert.utc = e.processing.alert ∧ incident.decision = decision ∧
        request.incident.utc = incident.utc
  | .completeProcessing _ result =>
      e.processing.decision = some result.decision ∧
        e.processing.incident = result.incident.map Incident.utc ∧
        e.processing.investigationRequest
          = result.investigationRequest.map InvestigationRequest.utc
  | .failProcessing _ expected _ _ none => expected = [.accepted]
  | .failProcessing _ expected _ _ (some _) =>
      ∀ state ∈ expected, state ∈ [ProcessingState.planned, .submitting, .submitted]
  | .markRecoveryRequired _ expected .. =>
      ∀ state ∈ expected, state ∈ [ExecutionAttemptState.submitting, .submitted]
  | _ => True

/-! ### Coherent entries -/

/-- A processing that has not been planned. -/
structure ProcessingFields.Unplanned (p : ProcessingFields) : Prop where
  decision : p.plannedDecision = none
  incident : p.plannedIncident = none
  request : p.plannedRequest = none
  backend : p.selectedBackend = none
  result : p.completedResult = none

/-- A processing that executes the request `q` on the backend named `b`. -/
structure ProcessingFields.Executes (p : ProcessingFields) (q : InvestigationRequest)
    (b : String) : Prop where
  decision : p.decision = some q.incident.decision
  incident : p.incident = some q.incident
  request : p.investigationRequest = some q
  backend : p.selectedBackend = some b
  alert : q.incident.alert = p.alert
  result : p.completedResult.isSome = decide (p.state = .completed)

/-- An attempt in step with the processing it belongs to. -/
structure AttemptFields.Serves (a : AttemptFields) (p : ProcessingFields) (b : String) :
    Prop where
  processing : a.processingId = p.processingId
  number : a.attemptNumber = 1
  backend : a.backend = b
  state : p.state = a.state.processingState
  submitted : a.externalOperationId.isSome = a.submittedAt.isSome
  unsubmitted : a.state = .planned ∨ a.state = .submitting → a.externalOperationId = none
  identified : a.state = .submitted ∨ a.state = .completed → a.externalOperationId.isSome = true
  unstarted : a.state = .planned → a.startedAt = none
  started : a.state ≠ .planned → a.state ≠ .failed → a.startedAt.isSome = true
  completedAt : a.completedAt.isSome = decide (a.state = .completed)
  failedAt : a.failedAt.isSome = decide (a.state = .failed)

/-- How a processing and its attempt may stand to each other. -/
inductive Entry.Phase (p : ProcessingFields) : Option AttemptFields → Prop
  | accepted (hstate : p.state = .accepted) (hplan : p.Unplanned) : Phase p none
  | noAction (result : OrchestrationResult) (hstate : p.state = .completed)
      (hresult : p.completedResult = some result)
      (houtcome : result.decision.outcome = .noAction)
      (hsource : result.decision.source = p.alert.source)
      (hbackend : p.selectedBackend = none) : Phase p none
  | rejected (hstate : p.state = .failed) (hplan : p.Unplanned) : Phase p none
  | executing (q : InvestigationRequest) (b : String) (a : AttemptFields)
      (hexecutes : p.Executes q b) (hserves : a.Serves p b) : Phase p (some a)

structure Entry.Coherent (e : Entry) : Prop where
  durable : e.processing.durable = e.processing
  attemptDurable : e.attempt.map AttemptFields.durable = e.attempt
  completedAt : e.processing.completedAt.isSome = decide (e.processing.state = .completed)
  failedAt : e.processing.failedAt.isSome = decide (e.processing.state = .failed)
  phase : Entry.Phase e.processing e.attempt

end Alert2IR
