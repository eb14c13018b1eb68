import Alert2IR.Application.Persistence
import Alert2IR.Interleaving.Pool

/-!
# The repository protocol, and the calls a processor makes

Each lifecycle operation is one atomic call. A repository is a state and a relation that says how a
call may be answered and what it may leave behind; PostgreSQL, the in-memory repository and the
abstract store of the lifecycle are three of them.
-/

namespace Alert2IR

/-- `ProcessingRepository`, with the arguments of each operation. -/
inductive RepositoryCall
  | acceptProcessing (processingId : UUID) (alert : CanonicalAlert) (idempotencyScope : String)
      (idempotencyKey : String) (fingerprintVersion : Int) (requestFingerprint : List UInt8)
  | get (processingId : UUID)
  | storeNoActionResult (processingId : UUID) (result : OrchestrationResult)
  | storePlan (processingId : UUID) (decision : Decision) (incident : Incident)
      (request : InvestigationRequest) (selectedBackend : String) (attemptId operationKey : UUID)
  | getAttemptForProcessing (processingId : UUID)
  | claimAttemptForSubmission (attemptId : UUID)
  | markAttemptSubmitted (attemptId : UUID) (externalOperationId : String)
  | recordPoll (attemptId : UUID) (remoteState : String) (errorCategory errorDetail : Option String)
  | completeProcessing (attemptId : UUID) (result : OrchestrationResult)
  | failProcessing (processingId : UUID) (expectedStates : List ProcessingState)
      (errorCategory errorDetail : String) (attemptId : Option UUID)
  | markRecoveryRequired (attemptId : UUID) (expectedStates : List ExecutionAttemptState)
      (errorCategory errorDetail : String)
  | findReconcilable (limit : Int) (staleSubmittingBefore : Datetime)

namespace RepositoryCall

/-- What an operation returns when it does not raise. -/
def Result : RepositoryCall → Type
  | acceptProcessing .. => ProcessingAcceptance
  | get _ => Option ProcessingRecord
  | storeNoActionResult .. => Option ProcessingRecord
  | storePlan .. => Option PlannedProcessing
  | getAttemptForProcessing _ => Option ExecutionAttempt
  | claimAttemptForSubmission _ => Option ExecutionAttempt
  | markAttemptSubmitted .. => Option ExecutionAttempt
  | recordPoll .. => Option ExecutionAttempt
  | completeProcessing .. => Option ProcessingRecord
  | failProcessing .. => Option ProcessingRecord
  | markRecoveryRequired .. => Option ProcessingRecord
  | findReconcilable .. => List ProcessingRecord

/-- The records handed over by an answer. -/
def records : (c : RepositoryCall) → c.Result → List ProcessingRecord
  | acceptProcessing .., acceptance => [acceptance.record]
  | get _, found => found.toList
  | storeNoActionResult .., updated => updated.toList
  | storePlan .., planned => (planned.map PlannedProcessing.record).toList
  | getAttemptForProcessing _, _ => []
  | claimAttemptForSubmission _, _ => []
  | markAttemptSubmitted .., _ => []
  | recordPoll .., _ => []
  | completeProcessing .., updated => updated.toList
  | failProcessing .., updated => updated.toList
  | markRecoveryRequired .., updated => updated.toList
  | findReconcilable .., records => records

/-- The attempts handed over by an answer. -/
def attempts : (c : RepositoryCall) → c.Result → List ExecutionAttempt
  | acceptProcessing .., _ => []
  | get _, _ => []
  | storeNoActionResult .., _ => []
  | storePlan .., planned => (planned.map PlannedProcessing.attempt).toList
  | getAttemptForProcessing _, found => found.toList
  | claimAttemptForSubmission _, updated => updated.toList
  | markAttemptSubmitted .., updated => updated.toList
  | recordPoll .., updated => updated.toList
  | completeProcessing .., _ => []
  | failProcessing .., _ => []
  | markRecoveryRequired .., _ => []
  | findReconcilable .., _ => []

/-- The operations that expect the processing or its attempt in some state and change it. -/
def isLifecycle : RepositoryCall → Bool
  | acceptProcessing .. | get _ | getAttemptForProcessing _ | findReconcilable .. => false
  | _ => true

end RepositoryCall

/-- A repository: how its state answers calls. -/
structure Repository (σ : Type) where
  init : σ
  step : σ → (c : RepositoryCall) → Except PyError c.Result → σ → Prop

/-- The three UUID factories of a processor. -/
inductive UuidKind
  | processing
  | attempt
  | operation
deriving DecidableEq

/-- The counters a processor bumps. -/
inductive Observed
  | transition (state toState : String)
  | idempotency (outcome : String)
  | submission (backend outcome : String)
  | recoveryRequired (backend errorCategory : String)
  | stale (state : String)
  | reconciliation (state outcome : String)
deriving DecidableEq

/-- Every call a processor makes to something outside itself. A backend call names the processing
it is made on behalf of, which the backend itself is not told. -/
inductive Call
  | repository (c : RepositoryCall)
  | decide (alert : CanonicalAlert)
  | requestFactory (incident : Incident)
  | newUuid (kind : UuidKind)
  | submit (processingId : UUID) (backend : Backend) (request : InvestigationRequest)
      (operationKey : UUID) (timeoutSeconds : Option Rat)
  | poll (processingId : UUID) (backend : Backend) (request : InvestigationRequest)
      (externalOperationId : String) (timeoutSeconds : Option Rat)
  | collectResult (processingId : UUID) (backend : Backend) (request : InvestigationRequest)
      (externalOperationId : String)
  | monotonic
  | wallClock
  | observe (what : Observed)

/-- The answers. A backend may also return a value of the wrong class, which is `none`. -/
def Call.Response : Call → Type
  | repository c => Except PyError c.Result
  | decide _ => Except PyError Decision
  | requestFactory _ => Except PyError InvestigationRequest
  | newUuid _ => UUID
  | submit .. => Except PyError (Option SubmittedOperation)
  | poll .. => Except PyError (Option OperationStatus)
  | collectResult .. => Except PyError (Option InvestigationResult)
  | monotonic => Rat
  | wallClock => Datetime
  | observe _ => Unit

/-- The repository, and the UUIDs each factory has handed out. -/
structure World (σ : Type) where
  store : σ
  issued : UuidKind → List UUID

/-- How the world answers. A factory returns a UUID it has not returned before; the policy, the
backends and the clocks answer anything and change nothing durable. -/
def Repository.worldStep {σ : Type} (M : Repository σ) (w : World σ) :
    (c : Call) → c.Response → World σ → Prop
  | .repository c, r, w' => M.step w.store c r w'.store ∧ w'.issued = w.issued
  | .newUuid kind, (id : UUID), w' =>
      id ∉ w.issued kind ∧
        w' = { w with issued := Function.update w.issued kind (id :: w.issued kind) }
  | _, _, w' => w' = w

end Alert2IR
