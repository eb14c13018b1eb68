import Mathlib.Data.List.Sort
import Alert2IR.Application.Repository
import Alert2IR.Persistence.Codec

/-!
# The PostgreSQL repository

One transaction for each lifecycle operation, statement by statement. A statement is refused before
it runs if one of its text parameters holds U+0000, and rolls its transaction back if a row it
writes violates a constraint. Rows are decoded after the commit, so an operation that raises in
decoding has happened all the same. `CURRENT_TIMESTAMP` is the number `now`, one for a transaction.
-/

namespace Alert2IR

open Sql

namespace Postgres

abbrev Tx (α : Type) := StateT Db (Except PyError) α

/-- `with self._connect() as connection`, and what follows the block: an exception inside it rolls
back, one after it does not. -/
def transaction {α β : Type} (body : Tx α) (after : α → Except PyError β) (db : Db) :
    Except PyError β × Db :=
  match body db with
  | .ok (a, db') => (after a, db')
  | .error e => (.error e, db)

/-- A text parameter that PostgreSQL can store. -/
def nulFree (value : String) : Bool := !value.toList.contains (Char.ofNat 0)

def bindText (values : List String) : Tx Unit :=
  if values.all nulFree then return
  else throw (.dataError "PostgreSQL text fields cannot contain NUL (0x00) bytes")

def checkConstraints (constraints : List (String × Truth)) : Tx Unit :=
  match constraints.find? fun constraint => !constraint.2.passes with
  | none => return
  | some (name, _) => throw (.integrityError name)

def getDb : Tx Db := get

def putProcessing (row : ProcessingRow) : Tx Unit :=
  modify fun db => { db with processings := db.processings.insert row.id row }

def putAttempt (row : AttemptRow) : Tx Unit :=
  modify fun db => { db with attempts := db.attempts.insert row.attemptId row }

/-- `_SELECT_IDEMPOTENCY_SQL`. -/
def selectIdempotency (db : Db) (scope key : String) : Option ProcessingRow :=
  db.processings.rows.find? fun row =>
    row.idempotencyScope = some scope && row.idempotencyKey = some key

/-- `_SELECT_PROCESSING_ATTEMPT_SQL`. -/
def selectProcessingAttempt (db : Db) (processingId : UUID) : Option AttemptRow :=
  ((db.attempts.rows.filter fun row => row.processingId = processingId).insertionSort
    fun a b => b.attemptNumber ≤ a.attemptNumber).head?

section Statements

variable (d : Dialect)

/-- `_INSERT_ACCEPT_SQL`: whether the row was inserted. The constraints of the proposed row are
checked before the conflict is looked for, and the primary key after it. -/
def insertAccept (row : ProcessingRow) (scope key : String) : Tx Bool := do
  checkConstraints (Schema.processingConstraints d row)
  let db ← getDb
  if (selectIdempotency db scope key).isSome then return false
  else if (db.processings.lookup row.id).isSome then
    throw (.integrityError "processing_records_pkey")
  else do
    putProcessing row
    return true

/-- `UPDATE processing_records SET … WHERE id = … AND … RETURNING …`. -/
def updateProcessing (processingId : UUID) (condition : ProcessingRow → Bool)
    (set : ProcessingRow → ProcessingRow) : Tx (Option ProcessingRow) := do
  match (← getDb).processings.lookup processingId with
  | none => return none
  | some row =>
      if condition row then do
        checkConstraints (Schema.processingConstraints d (set row))
        putProcessing (set row)
        return some (set row)
      else return none

/-- `uq_execution_attempts_active_processing`. -/
def checkActive (row : AttemptRow) : Tx Unit := do
  let db ← getDb
  if Schema.activeAttemptStates.contains row.state
      && db.attempts.rows.any fun other => other.attemptId ≠ row.attemptId
        && other.processingId = row.processingId
        && Schema.activeAttemptStates.contains other.state then
    throw (.integrityError "uq_execution_attempts_active_processing")
  else return

/-- `UPDATE execution_attempts SET … WHERE attempt_id = … AND … RETURNING …`. -/
def updateAttempt (attemptId : UUID) (condition : AttemptRow → Bool)
    (set : AttemptRow → AttemptRow) : Tx (Option AttemptRow) := do
  match (← getDb).attempts.lookup attemptId with
  | none => return none
  | some row =>
      if condition row then do
        checkConstraints (Schema.attemptConstraints d (set row))
        checkActive (set row)
        putAttempt (set row)
        return some (set row)
      else return none

/-- `INSERT INTO execution_attempts … RETURNING …`. -/
def insertAttempt (row : AttemptRow) : Tx AttemptRow := do
  checkConstraints (Schema.attemptConstraints d row)
  let db ← getDb
  if (db.attempts.lookup row.attemptId).isSome then
    throw (.integrityError "execution_attempts_pkey")
  else if db.attempts.rows.any fun other => other.operationKey = row.operationKey then
    throw (.integrityError "execution_attempts_operation_key_key")
  else if db.attempts.rows.any fun other =>
      other.processingId = row.processingId && other.attemptNumber = row.attemptNumber then
    throw (.integrityError "uq_execution_attempts_number")
  else do
    checkActive row
    if (db.processings.lookup row.processingId).isNone then
      throw (.integrityError "execution_attempts_processing_id_fkey")
    else do
      putAttempt row
      return row

/-- An update of an attempt and then of its processing. An attempt that does not match ends the
transaction; a processing that does not match although its attempt did raises. -/
def updateBoth (attemptId : UUID) (condition : AttemptRow → Bool) (set : AttemptRow → AttemptRow)
    (processingCondition : ProcessingRow → Bool) (processingSet : ProcessingRow → ProcessingRow)
    (diverged : String) (processingText : List String) :
    Tx (Option (AttemptRow × ProcessingRow)) := do
  match ← updateAttempt d attemptId condition set with
  | none => return none
  | some attempt => do
      bindText processingText
      match ← updateProcessing d attempt.processingId processingCondition processingSet with
      | none => throw (.runtimeError diverged)
      | some processing => return some (attempt, processing)

end Statements

/-! ### The operations -/

def entityText (values : List Entity) : List String :=
  values.flatMap fun value => [value.kind, value.value]

def evidenceText (values : List EvidenceReference) : List String :=
  values.flatMap fun value => value.reference :: value.kind.toList

/-- The text parameters of `_canonical_values`. -/
def canonicalText (alert : CanonicalAlert) (scope key : String) : List String :=
  [alert.detection.identifier, alert.source.source, alert.severity.value, scope, key]
    ++ alert.detection.name.toList ++ alert.source.sourceAlertId.toList
    ++ entityText alert.entities ++ evidenceText alert.evidence

/-- The text parameters of `_decision_values`. -/
def decisionText (decision : Decision) : List String :=
  decision.outcome.value :: decision.policyId :: decision.reasons

/-- The text parameters of `_request_values`. -/
def requestText (request : InvestigationRequest) : List String :=
  request.desiredOutcome :: request.requiredCapabilities ++ entityText request.targets

/-- The text parameters of `_result_values`. -/
def resultText (result : InvestigationResult) : List String :=
  result.backend :: result.completedCapabilities ++ evidenceText result.evidence

/-- `_validate_error`. -/
def validateError (errorCategory errorDetail : String) : Except PyError Unit :=
  checks [
    (errorCategory ≠ "" && errorCategory.length ≤ 256,
      "error_category must contain 1-256 characters"),
    (errorDetail ≠ "" && errorDetail.length ≤ 256, "error_detail must contain 1-256 characters")]

def decodeProcessing (row : Option ProcessingRow) : Except PyError (Option ProcessingRecord) :=
  match row with
  | none => .ok none
  | some row => some <$> deserializeProcessing row

def decodeAttempt (row : Option AttemptRow) : Except PyError (Option ExecutionAttempt) :=
  match row with
  | none => .ok none
  | some row => some <$> deserializeAttempt row

def decodePlan (rows : Option (ProcessingRow × AttemptRow)) :
    Except PyError (Option PlannedProcessing) :=
  match rows with
  | none => .ok none
  | some (processing, attempt) => do
      let record ← deserializeProcessing processing
      let attempt ← deserializeAttempt attempt
      return some ⟨record, attempt⟩

/-- What follows a check made before the connection is opened. -/
def guarded {α : Type} (check : Except PyError Unit) (db : Db)
    (rest : Except PyError α × Db) : Except PyError α × Db :=
  match check with
  | .ok () => rest
  | .error e => (.error e, db)

section Operations

variable (d : Dialect)

def acceptProcessing (processingId : UUID) (alert : CanonicalAlert)
    (idempotencyScope idempotencyKey : String) (fingerprintVersion : Int)
    (requestFingerprint : List UInt8) (now : Int) : Db → Except PyError ProcessingAcceptance × Db :=
  transaction
    (do
      bindText (canonicalText alert idempotencyScope idempotencyKey)
      let row := canonicalValues processingId alert idempotencyScope idempotencyKey
        fingerprintVersion requestFingerprint now
      if ← insertAccept d row idempotencyScope idempotencyKey then return (row, true)
      else
        match selectIdempotency (← getDb) idempotencyScope idempotencyKey with
        | none => throw (.runtimeError "idempotency conflict row could not be read")
        | some row => return (row, false))
    (fun (row, created) => do
      let record ← deserializeProcessing row
      return ⟨record, created⟩)

def getRecord (processingId : UUID) : Db → Except PyError (Option ProcessingRecord) × Db :=
  transaction (do return (← getDb).processings.lookup processingId) decodeProcessing

def storeNoActionResult (processingId : UUID) (result : OrchestrationResult) (now : Int) (db : Db) :
    Except PyError (Option ProcessingRecord) × Db :=
  guarded
    (checks [(result.decision.outcome = .noAction,
      "no-action completion requires a no_action result")]) db <|
  transaction
    (do
      bindText (decisionText result.decision)
      updateProcessing d processingId (fun row => row.state = "accepted") fun row =>
        decisionValues result.decision
          { row with state := "completed", updatedAt := now, completedAt := some now })
    decodeProcessing db

/-- The values of `insert_attempt` in `store_plan`. -/
def plannedAttemptRow (now : Int) (processingId attemptId operationKey : UUID)
    (selectedBackend : String) : AttemptRow where
  attemptId := attemptId
  processingId := processingId
  attemptNumber := 1
  operationKey := operationKey
  backend := selectedBackend
  state := "planned"
  externalOperationId := none
  createdAt := now
  startedAt := none
  submittedAt := none
  lastPolledAt := none
  completedAt := none
  failedAt := none
  lastRemoteState := none
  errorCategory := none
  errorDetail := none

def storePlan (processingId : UUID) (decision : Decision) (incident : Incident)
    (request : InvestigationRequest) (selectedBackend : String) (attemptId operationKey : UUID)
    (now : Int) (db : Db) : Except PyError (Option PlannedProcessing) × Db :=
  guarded
    (checks [
      (decision.outcome = .investigate, "execution plan requires an investigate decision"),
      (incident.alert.source = decision.source && request.incident.utc = incident.utc,
        "plan graph is inconsistent")]) db <|
  transaction
    (do
      bindText (selectedBackend :: decisionText decision ++ requestText request)
      let updated ← updateProcessing d processingId (fun row => row.state = "accepted") fun row =>
        decisionValues decision (requestValues request
          { row with
            state := "planned", updatedAt := now, selectedBackend := some selectedBackend })
      match updated with
      | none => return none
      | some processing => do
          let attempt ← insertAttempt d
            (plannedAttemptRow now processingId attemptId operationKey selectedBackend)
          return some (processing, attempt))
    decodePlan db

def getAttemptForProcessing (processingId : UUID) :
    Db → Except PyError (Option ExecutionAttempt) × Db :=
  transaction (do return selectProcessingAttempt (← getDb) processingId) decodeAttempt

/-- An operation on an attempt and its processing that answers with the attempt. -/
def returningAttempt (body : Tx (Option (AttemptRow × ProcessingRow))) :
    Db → Except PyError (Option ExecutionAttempt) × Db :=
  transaction body fun updated => decodeAttempt (updated.map Prod.fst)

/-- An operation on an attempt and its processing that answers with the processing. -/
def returningProcessing (body : Tx (Option (AttemptRow × ProcessingRow))) :
    Db → Except PyError (Option ProcessingRecord) × Db :=
  transaction body fun updated => decodeProcessing (updated.map Prod.snd)

def claimAttemptForSubmission (attemptId : UUID) (now : Int) :
    Db → Except PyError (Option ExecutionAttempt) × Db :=
  returningAttempt <|
    updateBoth d attemptId
      (fun row => row.state = "planned")
      (fun row => { row with state := "submitting", startedAt := some now })
      (fun row => row.state = "planned")
      (fun row => { row with state := "submitting", updatedAt := now })
      "processing and attempt claim states diverged" []

def markAttemptSubmitted (attemptId : UUID) (externalOperationId : String) (now : Int) :
    Db → Except PyError (Option ExecutionAttempt) × Db :=
  returningAttempt do
    bindText [externalOperationId]
    updateBoth d attemptId
      (fun row => row.state = "submitting")
      (fun row => { row with
        state := "submitted"
        externalOperationId := some externalOperationId
        submittedAt := some now })
      (fun row => row.state = "submitting")
      (fun row => { row with state := "submitted", updatedAt := now })
      "processing and submitted attempt states diverged" []

/-- The checks `record_poll` makes on its error pair. -/
def validatePollError : Option String → Option String → Except PyError Unit
  | none, none => .ok ()
  | some errorCategory, some errorDetail => validateError errorCategory errorDetail
  | _, _ => .error (.valueError "poll error category and detail must be present together")

def recordPoll (attemptId : UUID) (remoteState : String) (errorCategory errorDetail : Option String)
    (now : Int) (db : Db) : Except PyError (Option ExecutionAttempt) × Db :=
  guarded (validatePollError errorCategory errorDetail) db <|
  returningAttempt
    (do
      bindText (remoteState :: errorCategory.toList ++ errorDetail.toList)
      updateBoth d attemptId
        (fun row => row.state = "submitted")
        (fun row => { row with
          lastPolledAt := some now
          lastRemoteState := some remoteState
          errorCategory := errorCategory
          errorDetail := errorDetail })
        (fun row => row.state = "submitted")
        (fun row => { row with
          updatedAt := now, errorCategory := errorCategory, errorDetail := errorDetail })
        "processing and polled attempt states diverged" []) db

def completeProcessing (attemptId : UUID) (result : OrchestrationResult) (now : Int) (db : Db) :
    Except PyError (Option ProcessingRecord) × Db :=
  match result.decision.outcome, result.investigationResult with
  | .investigate, some investigationResult =>
      transaction
        (updateBoth d attemptId
          (fun row => row.state = "submitted")
          (fun row => { row with
            state := "completed"
            completedAt := some now
            lastPolledAt := some now
            lastRemoteState := some "succeeded"
            errorCategory := none
            errorDetail := none })
          (fun row => row.state = "submitted")
          (fun row => resultValues investigationResult { row with
            state := "completed"
            updatedAt := now
            completedAt := some now
            errorCategory := none
            errorDetail := none })
          "processing and completed attempt states diverged" (resultText investigationResult))
        (fun
          | none => .ok none
          | some (_, row) => do
              let completed ← deserializeProcessing row
              if completed.completedResult.map OrchestrationResult.utc ≠ some result.utc then
                throw (.valueError "terminal result does not match the durable processing plan")
              else return some completed) db
  | _, _ => (.error (.valueError "attempt completion requires an investigate result"), db)

def failProcessing (processingId : UUID) (expectedStates : List ProcessingState)
    (errorCategory errorDetail : String) (attemptId : Option UUID) (now : Int) (db : Db) :
    Except PyError (Option ProcessingRecord) × Db :=
  guarded
    (do
      validateError errorCategory errorDetail
      checks [(!expectedStates.isEmpty, "expected processing states cannot be empty")]) db <|
  transaction
    (do
      bindText [errorCategory, errorDetail]
      let failed ← match attemptId with
        | none => pure true
        | some attemptId => do
            let updated ← updateAttempt d attemptId
              (fun row => row.processingId = processingId
                && Schema.activeAttemptStates.contains row.state)
              (fun row => { row with
                state := "failed"
                failedAt := some now
                errorCategory := some errorCategory
                errorDetail := some errorDetail })
            pure updated.isSome
      if failed then do
        let updated ← updateProcessing d processingId
          (fun row => (expectedStates.map ProcessingState.value).contains row.state)
          (fun row => { row with
            state := "failed"
            updatedAt := now
            failedAt := some now
            errorCategory := some errorCategory
            errorDetail := some errorDetail })
        if updated.isNone && attemptId.isSome then
          throw (.runtimeError "processing and failed attempt states diverged")
        else return updated
      else return none)
    decodeProcessing db

def markRecoveryRequired (attemptId : UUID) (expectedStates : List ExecutionAttemptState)
    (errorCategory errorDetail : String) (now : Int) (db : Db) :
    Except PyError (Option ProcessingRecord) × Db :=
  guarded
    (do
      validateError errorCategory errorDetail
      checks [(!expectedStates.isEmpty && expectedStates.all [.submitting, .submitted].contains,
        "invalid recovery-required expected states")]) db <|
  returningProcessing
    (do
      bindText [errorCategory, errorDetail]
      updateBoth d attemptId
        (fun row => (expectedStates.map ExecutionAttemptState.value).contains row.state)
        (fun row => { row with
          state := "recovery_required"
          errorCategory := some errorCategory
          errorDetail := some errorDetail })
        (fun row => (expectedStates.map ExecutionAttemptState.value).contains row.state)
        (fun row => { row with
          state := "recovery_required"
          updatedAt := now
          errorCategory := some errorCategory
          errorDetail := some errorDetail })
        "processing and recovery attempt states diverged" []) db

/-- The rows of `processing_records AS p LEFT JOIN execution_attempts AS a`. -/
def joined (db : Db) : List (ProcessingRow × Option AttemptRow) :=
  db.processings.rows.flatMap fun p =>
    match db.attempts.rows.filter fun a => a.processingId = p.id with
    | [] => [(p, none)]
    | attempts => attempts.map fun a => (p, some a)

/-- The `WHERE` clause of `find_reconcilable`. -/
def isReconcilable (staleBefore : Int) (row : ProcessingRow × Option AttemptRow) : Truth :=
  (Schema.isIn (some row.1.state) ["accepted", "planned", "submitted"]).or
    (Truth.all [
      test (some row.1.state) (· = "submitting"),
      test (row.2.map (·.state)) (· = "submitting"),
      test (row.2.bind (·.startedAt)) (· ≤ staleBefore)])

/-- `ORDER BY p.updated_at, p.id`. -/
def precedes (p q : ProcessingRow) : Prop :=
  p.updatedAt < q.updatedAt ∨ (p.updatedAt = q.updatedAt ∧ p.id ≤ q.id)

instance (p q : ProcessingRow) : Decidable (precedes p q) :=
  inferInstanceAs (Decidable (_ ∨ _))

def reconcilableRows (db : Db) (limit : Int) (staleBefore : Int) : List ProcessingRow :=
  ((((joined db).filter fun row => (isReconcilable staleBefore row).selects).map
    Prod.fst).insertionSort precedes).take limit.toNat

/-- A naive cut-off is read in the time zone of the session, which is taken to be UTC. -/
def findReconcilable (limit : Int) (staleSubmittingBefore : Datetime) (db : Db) :
    Except PyError (List ProcessingRecord) × Db :=
  guarded (checks [(decide (1 ≤ limit), "reconciliation limit must be positive")]) db <|
  transaction (do return reconcilableRows (← getDb) limit staleSubmittingBefore.instant)
    (fun rows => rows.mapM deserializeProcessing) db

end Operations

/-- One call of the repository, as one transaction at time `now`. -/
def exec (d : Dialect) (now : Int) : (c : RepositoryCall) → Db → Except PyError c.Result × Db
  | .acceptProcessing processingId alert scope key version digest, db =>
      acceptProcessing d processingId alert scope key version digest now db
  | .get processingId, db => getRecord processingId db
  | .storeNoActionResult processingId result, db => storeNoActionResult d processingId result now db
  | .storePlan processingId decision incident request backend attemptId operationKey, db =>
      storePlan d processingId decision incident request backend attemptId operationKey now db
  | .getAttemptForProcessing processingId, db => getAttemptForProcessing processingId db
  | .claimAttemptForSubmission attemptId, db => claimAttemptForSubmission d attemptId now db
  | .markAttemptSubmitted attemptId externalOperationId, db =>
      markAttemptSubmitted d attemptId externalOperationId now db
  | .recordPoll attemptId remoteState category detail, db =>
      recordPoll d attemptId remoteState category detail now db
  | .completeProcessing attemptId result, db => completeProcessing d attemptId result now db
  | .failProcessing processingId expected category detail attemptId, db =>
      failProcessing d processingId expected category detail attemptId now db
  | .markRecoveryRequired attemptId expected category detail, db =>
      markRecoveryRequired d attemptId expected category detail now db
  | .findReconcilable limit staleBefore, db => findReconcilable limit staleBefore db

/-- The repository as its callers meet it: a call answers as its transaction does, or the connection
fails before the commit or after it. -/
def repository (d : Dialect) : Repository Db where
  init := ⟨∅, ∅⟩
  step db c r db' := ∃ now : Int,
    exec d now c db = (r, db') ∨
      ∃ e, r = .error e ∧ (db' = db ∨ db' = (exec d now c db).2)

end Postgres

end Alert2IR
