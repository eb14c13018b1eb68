import Alert2IR.Application.Processing

/-!
# The call sites of a processor

What a processor may call next is a relation on its own calls so far, and has one constructor for
each call site. It speaks of nothing else: what the answers say about the durable state by then is
another question, which depends on the repository and on every other processor.
-/

namespace Alert2IR

open Interleaving

/-- Whether a call reaches the repository or a backend. -/
def Call.isAct : Call → Bool
  | .repository _ | .submit .. | .poll .. | .collectResult .. => true
  | _ => false

/-- The processing a call submits, if it submits one. -/
def Call.submits : Call → Option UUID
  | .submit processingId .. => some processingId
  | _ => none

/-- A call of a processor, with its answer. -/
abbrev Observation := Interleaving.Observation Call Call.Response

namespace Observation

abbrev repository (c : RepositoryCall) (r : Except PyError c.Result) : Observation :=
  ⟨.repository c, r⟩

abbrev submit (processingId : UUID) (backend : Backend) (request : InvestigationRequest)
    (operationKey : UUID) (timeoutSeconds : Option Rat)
    (r : Except PyError (Option SubmittedOperation)) : Observation :=
  ⟨.submit processingId backend request operationKey timeoutSeconds, r⟩

abbrev poll (processingId : UUID) (backend : Backend) (request : InvestigationRequest)
    (externalOperationId : String) (timeoutSeconds : Option Rat)
    (r : Except PyError (Option OperationStatus)) : Observation :=
  ⟨.poll processingId backend request externalOperationId timeoutSeconds, r⟩

abbrev collectResult (processingId : UUID) (backend : Backend) (request : InvestigationRequest)
    (externalOperationId : String) (r : Except PyError (Option InvestigationResult)) :
    Observation :=
  ⟨.collectResult processingId backend request externalOperationId, r⟩

abbrev newUuid (kind : UuidKind) (id : UUID) : Observation := ⟨.newUuid kind, id⟩

def isAct (o : Observation) : Bool := o.call.isAct

/-- The records an answer hands over. -/
def records : Observation → List ProcessingRecord
  | ⟨.repository c, .ok x⟩ => c.records x
  | _ => []

/-- The operation a submission returned. -/
def submitted : Observation → Option SubmittedOperation
  | ⟨.submit .., .ok submitted⟩ => submitted
  | _ => none

/-- Whether this was a repository call that raised. -/
def repositoryRaised : Observation → Bool
  | ⟨.repository _, .error _⟩ => true
  | _ => false

theorem exists_of_submitted {o : Observation} {s : SubmittedOperation} {k : UUID}
    (hsubmits : o.call.submits = some k) (hsubmitted : o.submitted = some s) :
    ∃ backend request key timeout, o = .submit k backend request key timeout (.ok (some s)) := by
  obtain ⟨c, r⟩ := o
  cases c with
  | submit k' backend request key timeout =>
      cases hsubmits
      rcases r with e | answer
      · cases hsubmitted
      · cases hsubmitted
        exact ⟨backend, request, key, timeout, rfl⟩
  | _ => cases hsubmits

end Observation

/-- The calls among one's own that reach the repository or a backend. -/
def acts (h : List Observation) : List Observation := h.filter Observation.isAct

@[simp]
theorem acts_append (h h' : List Observation) : acts (h ++ h') = acts h ++ acts h' :=
  List.filter_append ..

@[simp]
theorem acts_singleton_repository (c : RepositoryCall) (r : Call.Response (.repository c)) :
    acts [⟨.repository c, r⟩] = [⟨.repository c, r⟩] := rfl

/-- Where in the history one's own calls of consequence lie. -/
theorem exists_of_acts_eq {σ : Type} {t : Nat}
    {history : List (Interleaving.Event σ Call Call.Response)} {o : Observation}
    {first last : List Observation} (h : acts (own t history) = first ++ o :: last) :
    ∃ h₁ event h₂, history = h₁ ++ event :: h₂ ∧ event.thread = t ∧ event.observed = o ∧
      acts (own t h₁) = first ∧ acts (own t h₂) = last := by
  obtain ⟨l₁, l₂, hown, hfirst, hrest⟩ := List.filter_eq_append_iff.mp h
  obtain ⟨l₃, l₄, rfl, hskip, -, hlast⟩ := List.filter_eq_cons_iff.mp hrest
  obtain ⟨h₁, event, h₂, rfl, hthread, hobserved, hown₁, hown₂⟩ :=
    exists_of_own_eq (show own t history = (l₁ ++ l₃) ++ o :: l₄ by
      rw [hown, List.append_assoc])
  refine ⟨h₁, event, h₂, rfl, hthread, hobserved, ?_, by rw [hown₂]; exact hlast⟩
  rw [hown₁, acts_append, acts, hfirst, acts, List.filter_eq_nil_iff.mpr hskip, List.append_nil]

theorem mem_of_acts_suffix {h last : List Observation} (hlast : last <:+ acts h) {o : Observation}
    (ho : o ∈ last) : o ∈ h :=
  List.mem_of_mem_filter (hlast.subset ho)

/-- A record some answer has handed over. -/
def Handed (h : List Observation) (r : ProcessingRecord) : Prop := ∃ o ∈ h, r ∈ o.records

/-- An attempt the answers tie to a processing ID. -/
inductive Belongs (h : List Observation) : UUID → ExecutionAttempt → Prop
  | planned {processingId : UUID} {decision : Decision} {incident : Incident}
      {request : InvestigationRequest} {backend : String} {attemptId operationKey : UUID}
      {planned : PlannedProcessing}
      (hplanned : Observation.repository (.storePlan processingId decision incident request backend
        attemptId operationKey) (.ok (some planned)) ∈ h) :
      Belongs h planned.record.processingId planned.attempt
  | read {processingId : UUID} {attempt : ExecutionAttempt}
      (hread : Observation.repository (.getAttemptForProcessing processingId)
        (.ok (some attempt)) ∈ h) : Belongs h processingId attempt
  | claimed {processingId : UUID} {attempt claimed : ExecutionAttempt}
      (hattempt : Belongs h processingId attempt)
      (hclaimed : Observation.repository (.claimAttemptForSubmission attempt.attemptId)
        (.ok (some claimed)) ∈ h) : Belongs h processingId claimed
  | submitted {processingId : UUID} {attempt submitted : ExecutionAttempt}
      {externalOperationId : String} (hattempt : Belongs h processingId attempt)
      (hsubmitted : Observation.repository (.markAttemptSubmitted attempt.attemptId
        externalOperationId) (.ok (some submitted)) ∈ h) : Belongs h processingId submitted
  | reread {processingId : UUID} {attempt : ExecutionAttempt} {record : ProcessingRecord}
      (hattempt : Belongs h processingId attempt)
      (hread : Observation.repository (.get processingId) (.ok (some record)) ∈ h) :
      Belongs h record.processingId attempt

def Invocation.orchestrator : Invocation → AlertOrchestrator
  | .process o _ _ => o
  | .reconcileOnce o _ _ _ => o

section CallSites

variable (fingerprintCanonicalAlert : CanonicalAlert → Except PyError (Int × List UInt8))
  (i : Invocation) (h : List Observation)

/-- The invocation has been let in: it created the processing it is to advance, or its search for
work was answered. -/
inductive Opened : Prop
  | created {o : AlertOrchestrator} {alert : CanonicalAlert} {key : String} {version : Int}
      {digest : List UInt8} {processingId : UUID} {acceptance : ProcessingAcceptance}
      {rest : List Observation} (hinvocation : i = .process o alert key)
      (hfingerprint : fingerprintCanonicalAlert alert = .ok (version, digest))
      (hfirst : acts h = .repository (.acceptProcessing processingId alert alert.source.source key
        version digest) (.ok acceptance) :: rest)
      (hcreated : acceptance.created = true)
      (hversion : acceptance.record.fingerprintVersion = some version)
      (hdigest : acceptance.record.requestFingerprint = some digest)
  | found {o : AlertOrchestrator} {limit : Int} {maxSeconds : Rat} {staleAfter : Int}
      {staleBefore : Datetime} {records : List ProcessingRecord} {rest : List Observation}
      (hinvocation : i = .reconcileOnce o limit maxSeconds staleAfter)
      (hfirst : acts h = .repository (.findReconcilable limit staleBefore) (.ok records) :: rest)

/-- No operation has been returned that its submitter has yet to persist. -/
def Unburdened : Prop := ∀ o, (acts h).getLast? = some o → o.submitted = none

structure Acting : Prop where
  opened : Opened fingerprintCanonicalAlert i h
  unburdened : Unburdened h

/-- A record and its attempt, with what it takes to execute them. -/
structure Executing (record : ProcessingRecord) (attempt : ExecutionAttempt) (backend : Backend)
    (request : InvestigationRequest) (backendName : String) : Prop where
  handed : Handed h record
  belongs : Belongs h record.processingId attempt
  requested : record.investigationRequest = some request
  selected : record.selectedBackend = some backendName
  resolved : i.orchestrator.backendForName backendName = some backend

/-- What `_poll_submitted` polls for. -/
structure Polling (record : ProcessingRecord) (attempt : ExecutionAttempt) (backend : Backend)
    (request : InvestigationRequest) (backendName externalOperationId : String) : Prop
    extends Executing i h record attempt backend request backendName where
  identified : attempt.externalOperationId = some externalOperationId

/-- What a processor may call next. -/
inductive Issues : Call → Prop
  | quiet {c : Call} (hquiet : c.isAct = false) : Issues c
  -- `process` and `reconcile_once`
  | accept {o : AlertOrchestrator} {alert : CanonicalAlert} {key : String} {version : Int}
      {digest : List UInt8} {processingId : UUID} (hinvocation : i = .process o alert key)
      (hfingerprint : fingerprintCanonicalAlert alert = .ok (version, digest))
      (hfirst : acts h = []) (hnew : [.newUuid .processing processingId] <:+ h) :
      Issues (.repository (.acceptProcessing processingId alert alert.source.source key version
        digest))
  | findReconcilable {o : AlertOrchestrator} {limit : Int} {maxSeconds : Rat} {staleAfter : Int}
      {now : Datetime} (hinvocation : i = .reconcileOnce o limit maxSeconds staleAfter)
      (hlimit : 1 ≤ limit) (hfirst : acts h = []) (hnow : [⟨.wallClock, now⟩] <:+ h) :
      Issues (.repository (.findReconcilable limit { now with micros := now.micros - staleAfter }))
  | get {record : ProcessingRecord} (hacting : Acting fingerprintCanonicalAlert i h)
      (hrecord : Handed h record) : Issues (.repository (.get record.processingId))
  | getAttempt {record : ProcessingRecord} (hacting : Acting fingerprintCanonicalAlert i h)
      (hrecord : Handed h record) :
      Issues (.repository (.getAttemptForProcessing record.processingId))
  -- `_advance_accepted`
  | failPlanning {record : ProcessingRecord} {category detail : String}
      (hacting : Acting fingerprintCanonicalAlert i h) (hrecord : Handed h record)
      (herror : (category, detail) ∈ [
        ("unsupported_capability", "no configured backend supports the required capability"),
        ("backend_selection_error", "backend selection was ambiguous"),
        ("backend_selection_error", "processing planning failed")]) :
      Issues (.repository (.failProcessing record.processingId [.accepted] category detail none))
  | storeNoActionResult {record : ProcessingRecord} {result : OrchestrationResult}
      (hacting : Acting fingerprintCanonicalAlert i h) (hrecord : Handed h record)
      (houtcome : result.decision.outcome = .noAction)
      (hsource : result.decision.source = record.alert.source) :
      Issues (.repository (.storeNoActionResult record.processingId result))
  | storePlan {record : ProcessingRecord} {decision : Decision} {incident : Incident}
      {request : InvestigationRequest} {backend : Backend} {attemptId operationKey : UUID}
      (hacting : Acting fingerprintCanonicalAlert i h) (hrecord : Handed h record)
      (houtcome : decision.outcome = .investigate) (halert : incident.alert = record.alert)
      (hdecision : incident.decision = decision)
      (hincident : request.incident.utc = incident.utc)
      (hbackend : i.orchestrator.router.select request = .ok backend)
      (hnew : [.newUuid .attempt attemptId, .newUuid .operation operationKey] <:+ h) :
      Issues (.repository (.storePlan record.processingId decision incident request backend.name
        attemptId operationKey))
  -- `_submit`
  | failUnconfigured {record : ProcessingRecord} {attempt : ExecutionAttempt}
      (hacting : Acting fingerprintCanonicalAlert i h) (hrecord : Handed h record)
      (hattempt : Belongs h record.processingId attempt) :
      Issues (.repository (.failProcessing record.processingId [.planned]
        "backend_selection_error" "persisted backend is not configured" (some attempt.attemptId)))
  | claim {record : ProcessingRecord} {attempt : ExecutionAttempt} {backend : Backend}
      {request : InvestigationRequest} {backendName : String}
      (hacting : Acting fingerprintCanonicalAlert i h)
      (hexecuting : Executing i h record attempt backend request backendName) :
      Issues (.repository (.claimAttemptForSubmission attempt.attemptId))
  | recoverExpired {record : ProcessingRecord} {attempt claimed : ExecutionAttempt}
      {backend : Backend} {request : InvestigationRequest} {backendName : String}
      (hacting : Acting fingerprintCanonicalAlert i h)
      (hexecuting : Executing i h record attempt backend request backendName)
      (hclaimed : [.repository (.claimAttemptForSubmission attempt.attemptId) (.ok (some claimed))]
        <:+ acts h) :
      Issues (.repository (.markRecoveryRequired claimed.attemptId [.submitting]
        "recovery_required" "reconciliation deadline expired before backend submission"))
  | submit {record : ProcessingRecord} {attempt claimed : ExecutionAttempt} {backend : Backend}
      {request : InvestigationRequest} {backendName : String} {timeout : Option Rat}
      (hacting : Acting fingerprintCanonicalAlert i h)
      (hexecuting : Executing i h record attempt backend request backendName)
      (hclaimed : [.repository (.claimAttemptForSubmission attempt.attemptId) (.ok (some claimed))]
        <:+ acts h) :
      Issues (.submit record.processingId backend request claimed.operationKey timeout)
  | failRejected {record : ProcessingRecord} {attempt claimed : ExecutionAttempt}
      {backend : Backend} {request : InvestigationRequest} {backendName : String}
      {timeout : Option Rat} (hacting : Acting fingerprintCanonicalAlert i h)
      (hexecuting : Executing i h record attempt backend request backendName)
      (hsubmitted : [
        .repository (.claimAttemptForSubmission attempt.attemptId) (.ok (some claimed)),
        .submit record.processingId backend request claimed.operationKey timeout
          (.error .backendSubmissionRejected)] <:+ acts h) :
      Issues (.repository (.failProcessing record.processingId [.submitting]
        "backend_submission_failed" "backend definitively rejected submission"
        (some claimed.attemptId)))
  | recoverUnknown {record : ProcessingRecord} {attempt claimed : ExecutionAttempt}
      {backend : Backend} {request : InvestigationRequest} {backendName : String}
      {timeout : Option Rat} {answer : Except PyError (Option SubmittedOperation)}
      (hacting : Acting fingerprintCanonicalAlert i h)
      (hexecuting : Executing i h record attempt backend request backendName)
      (hsubmitted : [
        .repository (.claimAttemptForSubmission attempt.attemptId) (.ok (some claimed)),
        .submit record.processingId backend request claimed.operationKey timeout answer]
        <:+ acts h)
      (hanswer : answer ≠ .error .backendSubmissionRejected) :
      Issues (.repository (.markRecoveryRequired claimed.attemptId [.submitting]
        "backend_submission_unknown" "backend submission outcome is unknown"))
  | markSubmitted {record : ProcessingRecord} {attempt claimed : ExecutionAttempt}
      {backend : Backend} {request : InvestigationRequest} {backendName : String}
      {timeout : Option Rat} {submitted : SubmittedOperation}
      (hopened : Opened fingerprintCanonicalAlert i h)
      (hexecuting : Executing i h record attempt backend request backendName)
      (hsubmitted : [
        .repository (.claimAttemptForSubmission attempt.attemptId) (.ok (some claimed)),
        .submit record.processingId backend request claimed.operationKey timeout
          (.ok (some submitted))] <:+ acts h) :
      Issues (.repository (.markAttemptSubmitted claimed.attemptId submitted.externalOperationId))
  | recoverUnpersisted {record : ProcessingRecord} {attempt claimed : ExecutionAttempt}
      {backend : Backend} {request : InvestigationRequest} {backendName : String}
      {timeout : Option Rat} {submitted : SubmittedOperation} {error : PyError}
      (hacting : Acting fingerprintCanonicalAlert i h)
      (hexecuting : Executing i h record attempt backend request backendName)
      (hsubmitted : [
        .repository (.claimAttemptForSubmission attempt.attemptId) (.ok (some claimed)),
        .submit record.processingId backend request claimed.operationKey timeout
          (.ok (some submitted)),
        .repository (.markAttemptSubmitted claimed.attemptId submitted.externalOperationId)
          (.error error)] <:+ acts h) :
      Issues (.repository (.markRecoveryRequired claimed.attemptId [.submitting]
        "backend_submission_unknown" "external operation identity could not be persisted"))
  -- `reconcile_once` on a stale submission
  | recoverStale {record : ProcessingRecord} {attempt : ExecutionAttempt}
      (hacting : Acting fingerprintCanonicalAlert i h) (hrecord : Handed h record)
      (hstate : record.state = .submitting) (hattempt : Belongs h record.processingId attempt) :
      Issues (.repository (.markRecoveryRequired attempt.attemptId [.submitting]
        "backend_submission_unknown" "stale submission has no discoverable operation"))
  -- `_poll_submitted`
  | recoverIncomplete {record : ProcessingRecord} {attempt : ExecutionAttempt} {detail : String}
      (hacting : Acting fingerprintCanonicalAlert i h) (hrecord : Handed h record)
      (hattempt : Belongs h record.processingId attempt)
      (hdetail : detail ∈ ["submitted execution metadata is incomplete",
        "persisted backend is not configured"]) :
      Issues (.repository (.markRecoveryRequired attempt.attemptId [.submitted]
        "recovery_required" detail))
  | poll {record : ProcessingRecord} {attempt : ExecutionAttempt} {backend : Backend}
      {request : InvestigationRequest} {backendName externalOperationId : String}
      {timeout : Option Rat} (hacting : Acting fingerprintCanonicalAlert i h)
      (hpolling : Polling i h record attempt backend request backendName externalOperationId) :
      Issues (.poll record.processingId backend request externalOperationId timeout)
  | recordTimeout {record : ProcessingRecord} {attempt : ExecutionAttempt} {backend : Backend}
      {request : InvestigationRequest} {backendName externalOperationId : String}
      {timeout : Option Rat} (hacting : Acting fingerprintCanonicalAlert i h)
      (hpolling : Polling i h record attempt backend request backendName externalOperationId)
      (hpolled : [.poll record.processingId backend request externalOperationId timeout
        (.error .timeoutError)] <:+ acts h) :
      Issues (.repository (.recordPoll attempt.attemptId "timeout" (some "backend_timeout")
        (some "known backend operation poll timed out")))
  | recordStatus {record : ProcessingRecord} {attempt : ExecutionAttempt} {backend : Backend}
      {request : InvestigationRequest} {backendName externalOperationId : String}
      {timeout : Option Rat} {status : OperationStatus}
      (hacting : Acting fingerprintCanonicalAlert i h)
      (hpolling : Polling i h record attempt backend request backendName externalOperationId)
      (hpolled : [.poll record.processingId backend request externalOperationId timeout
        (.ok (some status))] <:+ acts h) :
      Issues (.repository (.recordPoll attempt.attemptId status.remoteState none none))
  | recoverStatus {record : ProcessingRecord} {attempt : ExecutionAttempt} {backend : Backend}
      {request : InvestigationRequest} {backendName externalOperationId detail : String}
      {timeout : Option Rat} {answer : Except PyError (Option OperationStatus)}
      (hacting : Acting fingerprintCanonicalAlert i h)
      (hpolling : Polling i h record attempt backend request backendName externalOperationId)
      (hpolled : [.poll record.processingId backend request externalOperationId timeout answer]
        <:+ acts h)
      (hdetail : detail ∈ ["known backend operation status was not safely interpretable",
        "known backend operation returned an unknown status"]) :
      Issues (.repository (.markRecoveryRequired attempt.attemptId [.submitted]
        "backend_protocol_error" detail))
  | failExecution {record : ProcessingRecord} {attempt : ExecutionAttempt} {backend : Backend}
      {request : InvestigationRequest} {backendName externalOperationId : String}
      {timeout : Option Rat} {status : OperationStatus} {recorded : Option ExecutionAttempt}
      (hacting : Acting fingerprintCanonicalAlert i h)
      (hpolling : Polling i h record attempt backend request backendName externalOperationId)
      (hstate : status.state = some .failed)
      (hpolled : [
        .poll record.processingId backend request externalOperationId timeout (.ok (some status)),
        .repository (.recordPoll attempt.attemptId status.remoteState none none) (.ok recorded)]
        <:+ acts h) :
      Issues (.repository (.failProcessing record.processingId [.submitted]
        "backend_execution_failed" "known backend operation reached terminal failure"
        (some attempt.attemptId)))
  | collectResult {record : ProcessingRecord} {attempt : ExecutionAttempt} {backend : Backend}
      {request : InvestigationRequest} {backendName externalOperationId : String}
      {timeout : Option Rat} {status : OperationStatus} {recorded : Option ExecutionAttempt}
      (hacting : Acting fingerprintCanonicalAlert i h)
      (hpolling : Polling i h record attempt backend request backendName externalOperationId)
      (hstate : status.state = some .succeeded)
      (hpolled : [
        .poll record.processingId backend request externalOperationId timeout (.ok (some status)),
        .repository (.recordPoll attempt.attemptId status.remoteState none none) (.ok recorded)]
        <:+ acts h) :
      Issues (.collectResult record.processingId backend request externalOperationId)
  | recoverCollection {record : ProcessingRecord} {attempt : ExecutionAttempt} {backend : Backend}
      {request : InvestigationRequest} {backendName externalOperationId : String}
      {timeout : Option Rat} {status : OperationStatus} {recorded : Option ExecutionAttempt}
      {answer : Except PyError (Option InvestigationResult)}
      (hacting : Acting fingerprintCanonicalAlert i h)
      (hpolling : Polling i h record attempt backend request backendName externalOperationId)
      (hstate : status.state = some .succeeded)
      (hcollected : [
        .poll record.processingId backend request externalOperationId timeout (.ok (some status)),
        .repository (.recordPoll attempt.attemptId status.remoteState none none) (.ok recorded),
        .collectResult record.processingId backend request externalOperationId answer]
        <:+ acts h) :
      Issues (.repository (.markRecoveryRequired attempt.attemptId [.submitted]
        "backend_protocol_error" "backend result could not be collected safely"))
  | complete {record : ProcessingRecord} {attempt : ExecutionAttempt} {backend : Backend}
      {request : InvestigationRequest} {backendName externalOperationId : String}
      {timeout : Option Rat} {status : OperationStatus} {recorded : Option ExecutionAttempt}
      {investigationResult : InvestigationResult} {result : OrchestrationResult}
      (hacting : Acting fingerprintCanonicalAlert i h)
      (hpolling : Polling i h record attempt backend request backendName externalOperationId)
      (hstate : status.state = some .succeeded)
      (hcollected : [
        .poll record.processingId backend request externalOperationId timeout (.ok (some status)),
        .repository (.recordPoll attempt.attemptId status.remoteState none none) (.ok recorded),
        .collectResult record.processingId backend request externalOperationId
          (.ok (some investigationResult))] <:+ acts h)
      (hbackend : investigationResult.backend = backendName)
      (hdecision : record.decision = some result.decision)
      (hincident : record.incident = result.incident)
      (hrequest : result.investigationRequest = some request)
      (hresult : result.investigationResult = some investigationResult)
      (hpresent : result.incident.isSome = true) :
      Issues (.repository (.completeProcessing attempt.attemptId result))

end CallSites

end Alert2IR
