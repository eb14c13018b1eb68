import Mathlib.Data.Rat.Defs
import Alert2IR.Application.Repository

/-!
# Durable, idempotent alert processing and bounded reconciliation

`PersistentAlertProcessor`, as programs over the calls of `Application.Repository`. A `try` block is
an `attempt` whose exception is matched on. Spans, durations and correlation context are left out:
they reach neither the repository nor a backend.
-/

namespace Alert2IR

open Interleaving

/-- A procedure of the processor. -/
abbrev Proc (α : Type) := Interleaving.Proc Call Call.Response PyError α

namespace Proc

def repository (c : RepositoryCall) : Proc c.Result :=
  ExceptT.mk (Prog.perform (R := Call.Response) (.repository c))

def decide (alert : CanonicalAlert) : Proc Decision :=
  ExceptT.mk (Prog.perform (R := Call.Response) (.decide alert))

def requestFactory (incident : Incident) : Proc InvestigationRequest :=
  ExceptT.mk (Prog.perform (R := Call.Response) (.requestFactory incident))

def newUuid (kind : UuidKind) : Proc UUID :=
  Interleaving.Proc.perform (R := Call.Response) (.newUuid kind)

def monotonic : Proc Rat := Interleaving.Proc.perform (R := Call.Response) .monotonic

def wallClock : Proc Datetime := Interleaving.Proc.perform (R := Call.Response) .wallClock

def observe (what : Observed) : Proc Unit :=
  Interleaving.Proc.perform (R := Call.Response) (.observe what)

def observeWhen (condition : Bool) (what : Observed) : Proc Unit :=
  if condition then observe what else pure ()

/-- A computation of plain Python, which may raise. -/
def evaluate {α : Type} (x : Except PyError α) : Proc α :=
  match x with
  | .ok a => pure a
  | .error e => throw e

end Proc

open Proc Interleaving.Proc

/-- `AlertOrchestrator.plan`. -/
def AlertOrchestrator.plan (o : AlertOrchestrator) (alert : CanonicalAlert) :
    Proc PlanningResult := do
  let decision ← Proc.decide alert
  if decision.source ≠ alert.source then
    throw (.valueError "decision source must match alert source")
  else
    match decision.outcome with
    | .noAction => evaluate (PlanningResult.make decision none none none)
    | .investigate => do
        let incident ← evaluate (Incident.make alert decision)
        let request ← requestFactory incident
        if request.incident.utc ≠ incident.utc then
          throw (.valueError "investigation request incident must match incident")
        else do
          let backend ← evaluate (o.router.select request)
          evaluate (PlanningResult.make decision (some incident) (some request) (some backend))

structure ProcessingOutcome where
  record : ProcessingRecord
  replayed : Bool
deriving DecidableEq

structure ReconciliationReport where
  examined : Nat
  advanced : Nat
  failed : Nat
  timeLimitReached : Bool
deriving DecidableEq

namespace PersistentAlertProcessor

variable (o : AlertOrchestrator)

/-- `_reread`. -/
def reread (processingId : UUID) : Proc ProcessingRecord := do
  match ← repository (.get processingId) with
  | none => throw (.persistenceUnavailable "durable processing could not be read")
  | some record => return record

/-- `updated or self._reread(processing_id)`. -/
def orReread (updated : Option ProcessingRecord) (processingId : UUID) : Proc ProcessingRecord :=
  match updated with
  | some record => return record
  | none => reread processingId

/-- `_remaining_reconciliation_seconds`. -/
def remainingReconciliationSeconds (deadline : Option Rat) : Proc (Option Rat) :=
  match deadline with
  | none => return none
  | some deadline => do
      let now ← monotonic
      return some (deadline - now)

/-- `remaining is not None and remaining <= 0`. -/
def exhausted : Option Rat → Bool
  | none => false
  | some remaining => remaining ≤ 0

/-- `backend_name or "other"`. -/
def orOther : Option String → String
  | some name => if name = "" then "other" else name
  | none => "other"

/-- Move an attempt out of `expected` into `recovery_required`, and report what is durable then. -/
def recover (attemptId : UUID) (expected : ExecutionAttemptState) (category detail : String)
    (processingId : UUID) (backendName : String) : Proc ProcessingRecord := do
  let recovery ← repository (.markRecoveryRequired attemptId [expected] category detail)
  let durable ← orReread recovery processingId
  observeWhen (durable.state = .recoveryRequired) (.recoveryRequired backendName category)
  return durable

/-- `_poll_submitted` after a poll that returned `SUCCEEDED`. -/
def collect (record : ProcessingRecord) (attempt : ExecutionAttempt) (backend : Backend)
    (request : InvestigationRequest) (backendName externalOperationId remoteState : String)
    (deadline : Option Rat) : Proc ProcessingRecord := do
  let _ ← repository (.recordPoll attempt.attemptId remoteState none none)
  let budget ← remainingReconciliationSeconds deadline
  if exhausted budget then reread record.processingId
  else do
    let collected : Proc OrchestrationResult := do
      let answer ← ExceptT.mk (Prog.perform (R := Call.Response)
        (.collectResult record.processingId backend request externalOperationId))
      match (answer : Option InvestigationResult) with
      | none => throw (.attributeError "backend")
      | some investigationResult =>
          if investigationResult.backend ≠ backendName then
            throw (.valueError "backend result identity does not match its plan")
          else
            match record.decision, record.incident with
            | some decision, some incident =>
                evaluate (OrchestrationResult.make decision (some incident) (some request)
                  (some investigationResult))
            | _, _ => throw (.valueError "durable processing plan is incomplete")
    match ← catching collected with
    | .error _ =>
        recover attempt.attemptId .submitted "backend_protocol_error"
          "backend result could not be collected safely" record.processingId backendName
    | .ok result => do
        let completed ← repository (.completeProcessing attempt.attemptId result)
        let durable ← orReread completed record.processingId
        observeWhen (durable.state = .completed) (.transition "submitted" "completed")
        return durable

/-- `_poll_submitted`. -/
def pollSubmitted (record : ProcessingRecord) (attempt : ExecutionAttempt)
    (deadline : Option Rat) : Proc ProcessingRecord :=
  match record.investigationRequest, record.selectedBackend, attempt.externalOperationId with
  | some request, some backendName, some externalOperationId =>
      match o.backendForName backendName with
      | none =>
          recover attempt.attemptId .submitted "recovery_required"
            "persisted backend is not configured" record.processingId backendName
      | some backend => do
          let pollTimeout ← remainingReconciliationSeconds deadline
          if exhausted pollTimeout then return record
          else do
            let polled : Proc OperationStatus := do
              let answer ← ExceptT.mk (Prog.perform (R := Call.Response)
                (.poll record.processingId backend request externalOperationId pollTimeout))
              match (answer : Option OperationStatus) with
              | none => throw (.typeError "backend returned an invalid operation status")
              | some status => return status
            match ← catching polled with
            | .error .timeoutError => do
                let _ ← repository (.recordPoll attempt.attemptId "timeout"
                  (some "backend_timeout") (some "known backend operation poll timed out"))
                reread record.processingId
            | .error _ =>
                recover attempt.attemptId .submitted "backend_protocol_error"
                  "known backend operation status was not safely interpretable"
                  record.processingId backendName
            | .ok status =>
                match status.state with
                | some .nonterminal => do
                    let _ ← repository (.recordPoll attempt.attemptId status.remoteState none none)
                    reread record.processingId
                | some .failed => do
                    let _ ← repository (.recordPoll attempt.attemptId status.remoteState none none)
                    let failed ← repository (.failProcessing record.processingId [.submitted]
                      "backend_execution_failed"
                      "known backend operation reached terminal failure" (some attempt.attemptId))
                    let durable ← orReread failed record.processingId
                    observeWhen (durable.state = .failed) (.transition "submitted" "failed")
                    return durable
                | some .succeeded =>
                    collect record attempt backend request backendName externalOperationId
                      status.remoteState deadline
                | none =>
                    recover attempt.attemptId .submitted "backend_protocol_error"
                      "known backend operation returned an unknown status"
                      record.processingId backendName
  | _, backendName, _ =>
      recover attempt.attemptId .submitted "recovery_required"
        "submitted execution metadata is incomplete" record.processingId
        (orOther backendName)

/-- `_submit` once the backend has returned an operation. -/
def persistSubmitted (record : ProcessingRecord) (claimed : ExecutionAttempt)
    (backendName : String) (submitted : SubmittedOperation) (deadline : Option Rat) :
    Proc ProcessingRecord := do
  observe (.submission backendName "success")
  match ← catching (repository
      (.markAttemptSubmitted claimed.attemptId submitted.externalOperationId)) with
  | .error _ => do
      let _ ← catching (repository (.markRecoveryRequired claimed.attemptId [.submitting]
        "backend_submission_unknown" "external operation identity could not be persisted"))
      throw (.persistenceUnavailable "external operation identity could not be persisted")
  | .ok none => reread record.processingId
  | .ok (some durableAttempt) => do
      observe (.transition "submitting" "submitted")
      let durableRecord ← reread record.processingId
      pollSubmitted o durableRecord durableAttempt deadline

/-- `_submit` once the attempt has been claimed. -/
def submitClaimed (record : ProcessingRecord) (claimed : ExecutionAttempt) (backend : Backend)
    (request : InvestigationRequest) (backendName : String) (deadline : Option Rat) :
    Proc ProcessingRecord := do
  observe (.transition "planned" "submitting")
  let operationTimeout ← remainingReconciliationSeconds deadline
  if exhausted operationTimeout then
    recover claimed.attemptId .submitting "recovery_required"
      "reconciliation deadline expired before backend submission" record.processingId backendName
  else do
    let submission : Proc SubmittedOperation := do
      let answer ← ExceptT.mk (Prog.perform (R := Call.Response)
        (.submit record.processingId backend request claimed.operationKey operationTimeout))
      match (answer : Option SubmittedOperation) with
      | none => throw (.typeError "backend returned an invalid submission response")
      | some submitted => return submitted
    match ← catching submission with
    | .error .backendSubmissionRejected => do
        observe (.submission backendName "error")
        let failed ← repository (.failProcessing record.processingId [.submitting]
          "backend_submission_failed" "backend definitively rejected submission"
          (some claimed.attemptId))
        let durable ← orReread failed record.processingId
        observeWhen (durable.state = .failed) (.transition "submitting" "failed")
        return durable
    | .error _ => do
        observe (.submission backendName "error")
        let recovery ← repository (.markRecoveryRequired claimed.attemptId [.submitting]
          "backend_submission_unknown" "backend submission outcome is unknown")
        let durable ← orReread recovery record.processingId
        observeWhen (durable.state = .recoveryRequired)
          (.transition "submitting" "recovery_required")
        observeWhen (durable.state = .recoveryRequired)
          (.recoveryRequired backendName "backend_submission_unknown")
        return durable
    | .ok submitted => persistSubmitted o record claimed backendName submitted deadline

/-- `_submit`. -/
def submit (record : ProcessingRecord) (attempt : ExecutionAttempt) (deadline : Option Rat) :
    Proc ProcessingRecord :=
  match record.investigationRequest, record.selectedBackend with
  | some request, some backendName =>
      match o.backendForName backendName with
      | none => do
          let failed ← repository (.failProcessing record.processingId [.planned]
            "backend_selection_error" "persisted backend is not configured"
            (some attempt.attemptId))
          orReread failed record.processingId
      | some backend => do
          let operationTimeout ← remainingReconciliationSeconds deadline
          if exhausted operationTimeout then return record
          else do
            match ← catching (repository (.claimAttemptForSubmission attempt.attemptId)) with
            | .error _ =>
                throw (.persistenceUnavailable "execution attempt claim could not be persisted")
            | .ok none => reread record.processingId
            | .ok (some claimed) =>
                submitClaimed o record claimed backend request backendName deadline
  | _, _ => throw (.runtimeError "planned processing is missing execution data")

/-- `_fail_without_attempt`. -/
def failWithoutAttempt (record : ProcessingRecord) (category detail : String) :
    Proc (Option ProcessingRecord) := do
  match ← catching (repository
      (.failProcessing record.processingId [.accepted] category detail none)) with
  | .error _ => throw (.persistenceUnavailable "planning failure could not be persisted")
  | .ok none => return none
  | .ok (some failed) => do
      observe (.transition record.state.value "failed")
      return some failed

/-- `failed.state if failed is not None else ProcessingState.ACCEPTED`. -/
def stateAfterFailing : Option ProcessingRecord → ProcessingState
  | some failed => failed.state
  | none => .accepted

/-- `_advance_accepted` once planning has succeeded. -/
def carryOut (record : ProcessingRecord) (plan : PlanningResult) (deadline : Option Rat) :
    Proc ProcessingRecord := do
  if plan.decision.outcome = .noAction then do
    let result ← evaluate (OrchestrationResult.make plan.decision none none none)
    match ← catching (repository (.storeNoActionResult record.processingId result)) with
    | .error _ => throw (.persistenceUnavailable "no-action completion could not be persisted")
    | .ok completed => do
        let durable ← orReread completed record.processingId
        observeWhen (durable.state = .completed) (.transition "accepted" "completed")
        return durable
  else
    match plan.incident, plan.investigationRequest, plan.backend with
    | some incident, some request, some backend => do
        let attemptId ← newUuid .attempt
        let operationKey ← newUuid .operation
        match ← catching (repository (.storePlan record.processingId plan.decision incident request
            backend.name attemptId operationKey)) with
        | .error _ => throw (.persistenceUnavailable "execution plan could not be persisted")
        | .ok none => reread record.processingId
        | .ok (some planned) => do
            observe (.transition "accepted" "planned")
            submit o planned.record planned.attempt deadline
    | _, _, _ => throw (.runtimeError "investigation plan is incomplete")

/-- `_advance_accepted`. -/
def advanceAccepted (record : ProcessingRecord) (deadline : Option Rat) :
    Proc ProcessingRecord := do
  match ← catching (o.plan record.alert) with
  | .error (.unsupportedCapabilities requested _) => do
      let failed ← failWithoutAttempt record "unsupported_capability"
        "no configured backend supports the required capability"
      throw (.unsupportedCapabilities requested
        (some (record.processingId, stateAfterFailing failed)))
  | .error (.ambiguousBackend requested eligible _) => do
      let failed ← failWithoutAttempt record "backend_selection_error"
        "backend selection was ambiguous"
      throw (.ambiguousBackend requested eligible
        (some (record.processingId, stateAfterFailing failed)))
  | .error _ => do
      match ← failWithoutAttempt record "backend_selection_error" "processing planning failed" with
      | none => reread record.processingId
      | some _ => throw (.runtimeError "processing planning failed")
  | .ok plan => carryOut o record plan deadline

/-- `process`, which is `_process` wrapped in telemetry. The fingerprint of an alert is a parameter:
its version and digest, or the exception its computation raises. -/
def process (fingerprintCanonicalAlert : CanonicalAlert → Except PyError (Int × List UInt8))
    (alert : CanonicalAlert) (idempotencyKey : String) : Proc ProcessingOutcome := do
  let (version, digest) ← evaluate (fingerprintCanonicalAlert alert)
  let processingId ← newUuid .processing
  match ← catching (repository (.acceptProcessing processingId alert alert.source.source
      idempotencyKey version digest)) with
  | .error _ => throw (.persistenceUnavailable "durable processing acceptance failed")
  | .ok acceptance =>
      let record : ProcessingRecord := acceptance.record
      if record.fingerprintVersion ≠ some version ∨ record.requestFingerprint ≠ some digest then do
        observe (.idempotency "conflict")
        throw (.idempotencyConflict record.processingId)
      else if acceptance.created = false then do
        observe (.idempotency "replayed")
        return ⟨record, true⟩
      else do
        observe (.idempotency "accepted")
        observe (.transition "unknown" "accepted")
        let advanced ← advanceAccepted o record none
        return ⟨advanced, false⟩

/-- The work of one pass on one record, by the state it was found in. -/
def reconcileRecord (record : ProcessingRecord) (deadline : Rat) : Proc ProcessingRecord := do
  match record.state with
  | .accepted => advanceAccepted o record (some deadline)
  | .planned => do
      match ← repository (.getAttemptForProcessing record.processingId) with
      | none => return record
      | some attempt => submit o record attempt (some deadline)
  | .submitting => do
      observe (.stale "submitting")
      match ← repository (.getAttemptForProcessing record.processingId) with
      | none => return record
      | some attempt =>
          recover attempt.attemptId .submitting "backend_submission_unknown"
            "stale submission has no discoverable operation" record.processingId
            (orOther record.selectedBackend)
  | .submitted => do
      match ← repository (.getAttemptForProcessing record.processingId) with
      | none => return record
      | some attempt => pollSubmitted o record attempt (some deadline)
  | _ => return record

/-- The loop of a pass over the records still to be examined. -/
def examine (deadline : Rat) : List ProcessingRecord → ReconciliationReport →
    Proc ReconciliationReport
  | [], report => return report
  | record :: rest, report => do
      let remaining ← remainingReconciliationSeconds (some deadline)
      if exhausted remaining then return { report with timeLimitReached := true }
      else do
        -- The attempt is read for the correlation context, outside the handler of the record.
        let _ ← repository (.getAttemptForProcessing record.processingId)
        let report := { report with examined := report.examined + 1 }
        let report ← match ← catching (reconcileRecord o record deadline) with
          | .ok after => do
              observe (.reconciliation record.state.value "success")
              pure (if after.state ≠ record.state
                then { report with advanced := report.advanced + 1 } else report)
          | .error _ => do
              observe (.reconciliation record.state.value "error")
              pure { report with failed := report.failed + 1 }
        let remaining ← remainingReconciliationSeconds (some deadline)
        if exhausted remaining then return { report with timeLimitReached := true }
        else examine deadline rest report

/-- Run one bounded, failure-isolated pass over incomplete durable work. `stale_after` is in
microseconds. -/
def reconcileOnce (limit : Int) (maxSeconds : Rat) (staleAfter : Int) :
    Proc ReconciliationReport := do
  if limit < 1 ∨ maxSeconds ≤ 0 then
    throw (.valueError "reconciliation bounds must be positive")
  else do
    let started ← monotonic
    let now ← wallClock
    let staleBefore : Datetime := { now with micros := now.micros - staleAfter }
    let records ← repository (.findReconcilable limit staleBefore)
    examine o (started + maxSeconds) records ⟨0, 0, 0, false⟩

end PersistentAlertProcessor

/-- A call of one of the two entry points of a processor, with the collaborators of that
processor. -/
inductive Invocation
  | process (o : AlertOrchestrator) (alert : CanonicalAlert) (idempotencyKey : String)
  | reconcileOnce (o : AlertOrchestrator) (limit : Int) (maxSeconds : Rat) (staleAfter : Int)
deriving DecidableEq

inductive Outcome
  | processed (outcome : ProcessingOutcome)
  | reconciled (report : ReconciliationReport)
deriving DecidableEq

def Invocation.procedure
    (fingerprintCanonicalAlert : CanonicalAlert → Except PyError (Int × List UInt8)) :
    Invocation → Proc Outcome
  | process o alert key => do
      return .processed
        (← PersistentAlertProcessor.process o fingerprintCanonicalAlert alert key)
  | reconcileOnce o limit maxSeconds staleAfter => do
      return .reconciled
        (← PersistentAlertProcessor.reconcileOnce o limit maxSeconds staleAfter)

/-- How far the processors over one repository have come. -/
abbrev Configuration (σ : Type) :=
  Config (World σ) Invocation Call Call.Response (Except PyError Outcome)

/-- Any number of processors over one repository. -/
def Repository.system {σ : Type} (M : Repository σ)
    (fingerprintCanonicalAlert : CanonicalAlert → Except PyError (Int × List UInt8)) :
    System (World σ) Invocation Call Call.Response (Except PyError Outcome) where
  init := ⟨M.init, fun _ => []⟩
  step := M.worldStep
  entry i := (i.procedure fingerprintCanonicalAlert).run

end Alert2IR
