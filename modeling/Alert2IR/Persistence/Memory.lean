import Mathlib.Data.List.Sort
import Alert2IR.Application.Repository
import Alert2IR.Core.Uuid
import Alert2IR.Sql.Table

/-!
# The in-memory repository

Guarded updates of dicts, in the order the source makes them. What has been stored before an
exception stays stored. The injected clock is asked at most once in an operation and answers `now`.
-/

namespace Alert2IR

/-- The fields of `InMemoryProcessingRepository`. -/
structure Memory where
  records : Table UUID ProcessingRecord
  idempotency : Table (String × String) UUID
  attempts : Table UUID ExecutionAttempt
  attemptByProcessing : Table UUID UUID
  operationKeys : List UUID

namespace Memory

abbrev Op (α : Type) := ExceptT PyError (StateM Memory) α

def empty : Memory := ⟨∅, ∅, ∅, ∅, []⟩

def ofExcept {α : Type} (x : Except PyError α) : Op α := ExceptT.mk (pure x)

/-- The dict itself raises `KeyError` for a missing key. -/
def item {α : Type} (found : Option α) : Except PyError α :=
  match found with
  | some a => .ok a
  | none => .error (.other "KeyError")

def setRecord (processingId : UUID) (record : ProcessingRecord) : Op Unit :=
  modify fun m => { m with records := m.records.insert processingId record }

def setAttempt (attemptId : UUID) (attempt : ExecutionAttempt) : Op Unit :=
  modify fun m => { m with attempts := m.attempts.insert attemptId attempt }

def getMemory : Op Memory := get

theorem run_bind {α β : Type} {m : Memory} (x : Op α) (f : α → Op β) : (x >>= f).run m =
    match x.run m with
    | (.ok a, m') => (f a).run m'
    | (.error e, m') => (.error e, m') := by
  change (ExceptT.bindCont f (x.run m).1) (x.run m).2 = _
  rcases x.run m with ⟨⟨e⟩ | ⟨a⟩, m'⟩ <;> rfl

@[simp]
theorem run_ofExcept {α : Type} {m : Memory} (x : Except PyError α) :
    (ofExcept x).run m = (x, m) := rfl

@[simp]
theorem run_getMemory {m : Memory} : getMemory.run m = (.ok m, m) := rfl

/-- The sort key of `find_reconcilable`, `(updated_at, str(processing_id))`, compared. -/
def precedes (r s : ProcessingRecord) : Prop :=
  r.updatedAt.instant < s.updatedAt.instant ∨
    (r.updatedAt.instant = s.updatedAt.instant ∧
      uuidString r.processingId ≤ uuidString s.processingId)

instance (r s : ProcessingRecord) : Decidable (precedes r s) :=
  inferInstanceAs (Decidable (_ ∨ _))

/-- `left <= right` on datetimes. -/
def datetimeLe (left right : Datetime) : Except PyError Bool :=
  if left.isAware = right.isAware then .ok (left.instant ≤ right.instant)
  else .error (.typeError "can't compare offset-naive and offset-aware datetimes")

def acceptProcessing (processingId : UUID) (alert : CanonicalAlert)
    (idempotencyScope idempotencyKey : String) (fingerprintVersion : Int)
    (requestFingerprint : List UInt8) (now : Datetime) : Op ProcessingAcceptance := do
  ofExcept (checks [
    (idempotencyScope = alert.source.source, "idempotency scope must equal canonical source"),
    (visibleKey idempotencyKey, "idempotency key must be visible ASCII")])
  let m ← getMemory
  match m.idempotency.lookup (idempotencyScope, idempotencyKey) with
  | some existingId => do
      let record ← ofExcept (item (m.records.lookup existingId))
      return ⟨record, false⟩
  | none =>
      if (m.records.lookup processingId).isSome then
        throw (.valueError "processing ID already exists")
      else do
        let record ← ofExcept (ProcessingRecord.make {
          processingId
          createdAt := now
          updatedAt := now
          alert
          state := .accepted
          idempotencyScope := some idempotencyScope
          idempotencyKey := some idempotencyKey
          fingerprintVersion := some fingerprintVersion
          requestFingerprint := some requestFingerprint
          plannedDecision := none
          plannedIncident := none
          plannedRequest := none
          selectedBackend := none
          completedResult := none
          completedAt := none
          failedAt := none
          errorCategory := none
          errorDetail := none })
        setRecord processingId record
        modify fun m => { m with
          idempotency := m.idempotency.insert (idempotencyScope, idempotencyKey) processingId }
        return ⟨record, true⟩

def storeNoActionResult (processingId : UUID) (result : OrchestrationResult) (now : Datetime) :
    Op (Option ProcessingRecord) := do
  ofExcept (checks [(result.decision.outcome = .noAction,
    "no-action completion requires a no_action result")])
  match (← getMemory).records.lookup processingId with
  | none => return none
  | some current =>
      if current.state ≠ .accepted then return none
      else do
        let updated ← ofExcept (ProcessingRecord.make { current.toProcessingFields with
          state := .completed
          updatedAt := now
          completedResult := some result
          completedAt := some now })
        setRecord processingId updated
        return some updated

def storePlan (processingId : UUID) (decision : Decision) (incident : Incident)
    (request : InvestigationRequest) (selectedBackend : String) (attemptId operationKey : UUID)
    (now : Datetime) : Op (Option PlannedProcessing) := do
  ofExcept (checks [(decision.outcome = .investigate,
    "execution plan requires an investigate decision")])
  let m ← getMemory
  match m.records.lookup processingId with
  | none => return none
  | some current =>
      if current.state ≠ .accepted then return none
      else if (m.attemptByProcessing.lookup processingId).isSome then return none
      else if (m.attempts.lookup attemptId).isSome ∨ operationKey ∈ m.operationKeys then
        throw (.valueError "attempt or operation key already exists")
      else do
        let record ← ofExcept (ProcessingRecord.make { current.toProcessingFields with
          state := .planned
          updatedAt := now
          plannedDecision := some decision
          plannedIncident := some incident
          plannedRequest := some request
          selectedBackend := some selectedBackend })
        let attempt ← ofExcept (ExecutionAttempt.make {
          attemptId
          processingId
          attemptNumber := 1
          operationKey
          backend := selectedBackend
          state := .planned
          createdAt := now
          startedAt := none
          submittedAt := none
          lastPolledAt := none
          completedAt := none
          failedAt := none
          externalOperationId := none
          lastRemoteState := none
          errorCategory := none
          errorDetail := none })
        setRecord processingId record
        setAttempt attemptId attempt
        modify fun m => { m with
          attemptByProcessing := m.attemptByProcessing.insert processingId attemptId
          operationKeys := operationKey :: m.operationKeys }
        return some ⟨record, attempt⟩

/-- `get_attempt_for_processing`, which `find_reconcilable` also uses. -/
def attemptForProcessing (m : Memory) (processingId : UUID) :
    Except PyError (Option ExecutionAttempt) :=
  match m.attemptByProcessing.lookup processingId with
  | none => .ok none
  | some attemptId => some <$> item (m.attempts.lookup attemptId)

def getAttemptForProcessing (processingId : UUID) : Op (Option ExecutionAttempt) := do
  ofExcept ((← getMemory).attemptForProcessing processingId)

/-- The opening lines of the operations on an attempt: the attempt and its record, if each is in the
state the operation expects. -/
def lookupBoth (attemptId : UUID) (attemptExpected : AttemptFields → Bool)
    (recordExpected : AttemptFields → ProcessingFields → Bool) :
    Op (Option (ExecutionAttempt × ProcessingRecord)) := do
  let m ← getMemory
  match m.attempts.lookup attemptId with
  | none => return none
  | some attempt =>
      if !attemptExpected attempt.toAttemptFields then return none
      else do
        let record ← ofExcept (item (m.records.lookup attempt.processingId))
        if !recordExpected attempt.toAttemptFields record.toProcessingFields then return none
        else return some (attempt, record)

def claimAttemptForSubmission (attemptId : UUID) (now : Datetime) :
    Op (Option ExecutionAttempt) := do
  match ← lookupBoth attemptId (·.state = .planned) fun _ record => record.state = .planned with
  | none => return none
  | some (attempt, record) => do
      let claimed ← ofExcept (ExecutionAttempt.make { attempt.toAttemptFields with
        state := .submitting, startedAt := some now })
      setAttempt attemptId claimed
      let updated ← ofExcept (ProcessingRecord.make { record.toProcessingFields with
        state := .submitting, updatedAt := now })
      setRecord record.processingId updated
      return some claimed

def markAttemptSubmitted (attemptId : UUID) (externalOperationId : String) (now : Datetime) :
    Op (Option ExecutionAttempt) := do
  match ← lookupBoth attemptId (·.state = .submitting)
      fun _ record => record.state = .submitting with
  | none => return none
  | some (attempt, record) => do
      let submitted ← ofExcept (ExecutionAttempt.make { attempt.toAttemptFields with
        state := .submitted
        externalOperationId := some externalOperationId
        submittedAt := some now })
      setAttempt attemptId submitted
      let updated ← ofExcept (ProcessingRecord.make { record.toProcessingFields with
        state := .submitted, updatedAt := now })
      setRecord record.processingId updated
      return some submitted

def recordPoll (attemptId : UUID) (remoteState : String) (errorCategory errorDetail : Option String)
    (now : Datetime) : Op (Option ExecutionAttempt) := do
  match ← lookupBoth attemptId (·.state = .submitted)
      fun _ record => record.state = .submitted with
  | none => return none
  | some (attempt, record) => do
      let polled ← ofExcept (ExecutionAttempt.make { attempt.toAttemptFields with
        lastPolledAt := some now
        lastRemoteState := some remoteState
        errorCategory := errorCategory
        errorDetail := errorDetail })
      setAttempt attemptId polled
      let updated ← ofExcept (ProcessingRecord.make { record.toProcessingFields with
        updatedAt := now, errorCategory := errorCategory, errorDetail := errorDetail })
      setRecord record.processingId updated
      return some polled

def completeProcessing (attemptId : UUID) (result : OrchestrationResult) (now : Datetime) :
    Op (Option ProcessingRecord) := do
  ofExcept (checks [(result.decision.outcome = .investigate,
    "attempt completion requires an investigate result")])
  match ← lookupBoth attemptId (·.state = .submitted)
      fun _ record => record.state = .submitted with
  | none => return none
  | some (attempt, record) => do
      let completedAttempt ← ofExcept (ExecutionAttempt.make { attempt.toAttemptFields with
        state := .completed
        completedAt := some now
        lastPolledAt := some now
        lastRemoteState := some "succeeded"
        errorCategory := none
        errorDetail := none })
      let completedRecord ← ofExcept (ProcessingRecord.make { record.toProcessingFields with
        state := .completed
        updatedAt := now
        completedAt := some now
        completedResult := some result
        errorCategory := none
        errorDetail := none })
      setAttempt attemptId completedAttempt
      setRecord record.processingId completedRecord
      return some completedRecord

def activeAttemptStates : List ExecutionAttemptState :=
  [.planned, .submitting, .submitted, .recoveryRequired]

/-- The attempt `fail_processing` is to fail along with the record, or `none` to return `None`. -/
def attemptToFail (m : Memory) (processingId : UUID) :
    Option UUID → Option (Option (UUID × ExecutionAttempt))
  | none => some none
  | some attemptId =>
      match m.attempts.lookup attemptId with
      | none => none
      | some attempt =>
          if attempt.processingId ≠ processingId then none
          else if attempt.state ∉ activeAttemptStates then none
          else some (some (attemptId, attempt))

def failProcessing (processingId : UUID) (expectedStates : List ProcessingState)
    (errorCategory errorDetail : String) (attemptId : Option UUID) (now : Datetime) :
    Op (Option ProcessingRecord) := do
  let m ← getMemory
  match m.records.lookup processingId with
  | none => return none
  | some record =>
      if record.state ∉ expectedStates then return none
      else
        match m.attemptToFail processingId attemptId with
        | none => return none
        | some attempt => do
            let failedRecord ← ofExcept (ProcessingRecord.make { record.toProcessingFields with
              state := .failed
              updatedAt := now
              failedAt := some now
              errorCategory := some errorCategory
              errorDetail := some errorDetail })
            setRecord processingId failedRecord
            match attempt with
            | none => return some failedRecord
            | some (attemptId, attempt) => do
                let failedAttempt ← ofExcept (ExecutionAttempt.make { attempt.toAttemptFields with
                  state := .failed
                  failedAt := some now
                  errorCategory := some errorCategory
                  errorDetail := some errorDetail })
                setAttempt attemptId failedAttempt
                return some failedRecord

/-- `expected_processing`. -/
def expectedProcessing : ExecutionAttemptState → Option ProcessingState
  | .submitting => some .submitting
  | .submitted => some .submitted
  | _ => none

def markRecoveryRequired (attemptId : UUID) (expectedStates : List ExecutionAttemptState)
    (errorCategory errorDetail : String) (now : Datetime) : Op (Option ProcessingRecord) := do
  match ← lookupBoth attemptId (·.state ∈ expectedStates)
      fun attempt record => some record.state = expectedProcessing attempt.state with
  | none => return none
  | some (attempt, record) => do
      let recoveryAttempt ← ofExcept (ExecutionAttempt.make { attempt.toAttemptFields with
        state := .recoveryRequired
        errorCategory := some errorCategory
        errorDetail := some errorDetail })
      setAttempt attemptId recoveryAttempt
      let recovery ← ofExcept (ProcessingRecord.make { record.toProcessingFields with
        state := .recoveryRequired
        updatedAt := now
        errorCategory := some errorCategory
        errorDetail := some errorDetail })
      setRecord record.processingId recovery
      return some recovery

/-- Whether the loop of `find_reconcilable` keeps a record. -/
def isReconcilable (m : Memory) (staleSubmittingBefore : Datetime) (record : ProcessingRecord) :
    Except PyError Bool :=
  match record.state with
  | .accepted | .planned | .submitted => .ok true
  | .submitting => do
      match ← m.attemptForProcessing record.processingId with
      | none => return false
      | some attempt =>
          match attempt.startedAt with
          | none => return false
          | some startedAt => datetimeLe startedAt staleSubmittingBefore
  | .completed | .failed | .recoveryRequired => .ok false

def findReconcilable (limit : Int) (staleSubmittingBefore : Datetime) :
    Op (List ProcessingRecord) := do
  ofExcept (checks [(decide (1 ≤ limit), "reconciliation limit must be positive")])
  let m ← getMemory
  let values ← ofExcept (m.records.rows.filterM (m.isReconcilable staleSubmittingBefore))
  return (values.insertionSort precedes).take limit.toNat

/-- A batch is a read, which raises or takes as many records as the limit allows. -/
theorem findReconcilable_run (m : Memory) (limit : Int) (staleBefore : Datetime) :
    (findReconcilable limit staleBefore).run m =
      ((do
        checks [(decide (1 ≤ limit), "reconciliation limit must be positive")]
        let values ← m.records.rows.filterM (m.isReconcilable staleBefore)
        return (values.insertionSort precedes).take limit.toNat : Except PyError _), m) := by
  rw [findReconcilable, run_bind, run_ofExcept]
  cases checks [(decide (1 ≤ limit), "reconciliation limit must be positive")] with
  | error e => rfl
  | ok u =>
      dsimp only
      rw [run_bind, run_getMemory]
      dsimp only
      rw [run_bind, run_ofExcept]
      cases m.records.rows.filterM (m.isReconcilable staleBefore) <;> rfl

/-- One call of the repository, with `now` for the clock. -/
def op (now : Datetime) : (c : RepositoryCall) → Op c.Result
  | .acceptProcessing processingId alert scope key version digest =>
      acceptProcessing processingId alert scope key version digest now
  | .get processingId => do return (← getMemory).records.lookup processingId
  | .storeNoActionResult processingId result => storeNoActionResult processingId result now
  | .storePlan processingId decision incident request backend attemptId operationKey =>
      storePlan processingId decision incident request backend attemptId operationKey now
  | .getAttemptForProcessing processingId => getAttemptForProcessing processingId
  | .claimAttemptForSubmission attemptId => claimAttemptForSubmission attemptId now
  | .markAttemptSubmitted attemptId externalOperationId =>
      markAttemptSubmitted attemptId externalOperationId now
  | .recordPoll attemptId remoteState category detail =>
      recordPoll attemptId remoteState category detail now
  | .completeProcessing attemptId result => completeProcessing attemptId result now
  | .failProcessing processingId expected category detail attemptId =>
      failProcessing processingId expected category detail attemptId now
  | .markRecoveryRequired attemptId expected category detail =>
      markRecoveryRequired attemptId expected category detail now
  | .findReconcilable limit staleBefore => findReconcilable limit staleBefore

def exec (now : Datetime) (c : RepositoryCall) (m : Memory) : Except PyError c.Result × Memory :=
  (op now c).run.run m

/-- The repository over an arbitrary clock. -/
def repository : Repository Memory where
  init := empty
  step m c r m' := ∃ now : Datetime, exec now c m = (r, m')

/-- A repository together with the last reading of its clock. -/
structure Clocked where
  memory : Memory
  time : Int

/-- The repository over a non-decreasing timezone-aware clock that starts at `start`. -/
def clockedRepository (start : Int) : Repository Clocked where
  init := ⟨empty, start⟩
  step s c r s' := ∃ now : Datetime, now.isAware = true ∧ s.time ≤ now.instant ∧
    exec now c s.memory = (r, s'.memory) ∧ s'.time = now.instant

end Memory

end Alert2IR
