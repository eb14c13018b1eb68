import Alert2IR.Application.Availability
import Alert2IR.Application.Discipline
import Alert2IR.Main

/-!
# What the service says of an alert

Over the answers of its own policy, request factory and router the planning of an alert succeeds,
and always in one way. What the service then asks of the repository says of a processing what
follows from its alert, and a processing fails only after it has been submitted.
-/

namespace Alert2IR

open Interleaving Interleaving.Proc

/-- A call that says nothing of why a processing is executed, and gives up no planned one. -/
def Call.isFree : Call → Bool
  | .repository (.failProcessing _ expected _ _ attemptId) =>
      attemptId.isSome && !expected.contains .planned
  | .repository (.storeNoActionResult ..) | .repository (.storePlan ..) => false
  | _ => true

/-- A procedure that makes only such calls. -/
abbrev Free {α : Type} (p : Proc α) : Prop := Only (fun c : Call => c.isFree = true) p

namespace PersistentAlertProcessor

variable {o : AlertOrchestrator} {record : ProcessingRecord} {attempt claimed : ExecutionAttempt}
  {backend : Backend} {request : InvestigationRequest} {backendName : String}
  {deadline : Option Rat}

theorem free_observeWhen (condition : Bool) (what : Observed) :
    Free (Proc.observeWhen condition what) := by
  unfold Proc.observeWhen
  split
  · exact .perform rfl
  · exact .pure ()

theorem free_reread (k : UUID) : Free (reread k) := by
  refine .bind ⟨rfl, fun _ => trivial⟩ fun found => ?_
  cases found with
  | none => exact .throw _
  | some record => exact .pure record

theorem free_orReread (updated : Option ProcessingRecord) (k : UUID) :
    Free (orReread updated k) := by
  cases updated with
  | none => exact free_reread k
  | some record => exact .pure record

theorem free_remaining (deadline : Option Rat) :
    Free (remainingReconciliationSeconds deadline) := by
  cases deadline with
  | none => exact .pure none
  | some deadline => exact .bind (.perform rfl) fun now => .pure _

/-- How the branches end that read again what another has done. -/
theorem free_settle (updated : Option ProcessingRecord) (k : UUID)
    (condition : ProcessingRecord → Bool) (what : Observed) :
    Free (orReread updated k >>= fun durable =>
      Proc.observeWhen (condition durable) what >>= fun _ => pure durable) := by
  refine .bind (free_orReread updated k) fun durable => ?_
  exact .bind (free_observeWhen _ what) fun _ => .pure durable

theorem free_recover {a : UUID} {expected : ExecutionAttemptState} {category detail : String}
    {k : UUID} : Free (recover a expected category detail k backendName) :=
  .bind ⟨rfl, fun _ => trivial⟩ fun recovery => free_settle recovery k _ _

theorem free_collect {externalOperationId remoteState : String} :
    Free (collect record attempt backend request backendName externalOperationId remoteState
      deadline) := by
  unfold collect
  refine .bind ⟨rfl, fun _ => trivial⟩ fun _ => .bind (free_remaining deadline) fun budget => ?_
  split
  · exact free_reread _
  refine .bind (.catching (.bind ⟨rfl, fun _ => trivial⟩ fun answer => ?_)) fun collected => ?_
  · cases answer with
    | none => exact .throw _
    | some result =>
        dsimp only
        split
        · exact .throw _
        split
        · exact only_evaluate _
        · exact .throw _
  cases collected with
  | error e => exact free_recover
  | ok result =>
      exact .bind ⟨rfl, fun _ => trivial⟩ fun completed => free_settle completed _ _ _

theorem free_pollSubmitted : Free (pollSubmitted o record attempt deadline) := by
  unfold pollSubmitted
  cases record.investigationRequest with
  | none => exact free_recover
  | some request =>
  cases record.selectedBackend with
  | none => exact free_recover
  | some backendName =>
  cases attempt.externalOperationId with
  | none => exact free_recover
  | some externalOperationId =>
  dsimp only
  cases o.backendForName backendName with
  | none => exact free_recover
  | some backend =>
  refine .bind (free_remaining deadline) fun pollTimeout => ?_
  split
  · exact .pure record
  refine .bind (.catching (.bind ⟨rfl, fun _ => trivial⟩ fun answer => ?_)) fun polled => ?_
  · cases answer with
    | none => exact .throw _
    | some status => exact .pure status
  have hpoll : ∀ (a : UUID) (remoteState : String) (category detail : Option String),
      Free (Proc.repository (.recordPoll a remoteState category detail)) :=
    fun _ _ _ _ => ⟨rfl, fun _ => trivial⟩
  rcases polled with error | status
  · cases error with
    | timeoutError => exact .bind (hpoll _ _ _ _) fun _ => free_reread _
    | _ => exact free_recover
  dsimp only
  cases status.state with
  | none => exact free_recover
  | some state =>
  cases state with
  | nonterminal => exact .bind (hpoll _ _ _ _) fun _ => free_reread _
  | failed =>
      refine .bind (hpoll _ _ _ _) fun _ => .bind ⟨rfl, fun _ => trivial⟩ fun failed => ?_
      exact free_settle failed _ _ _
  | succeeded => exact free_collect

theorem free_persistSubmitted {submitted : SubmittedOperation} :
    Free (persistSubmitted o record claimed backendName submitted deadline) := by
  refine .bind (.perform rfl) fun _ => .bind (.catching ⟨rfl, fun _ => trivial⟩) fun marked => ?_
  rcases marked with error | _ | durableAttempt
  · exact .bind (.catching ⟨rfl, fun _ => trivial⟩) fun _ => .throw _
  · exact free_reread _
  · exact .bind (.perform rfl) fun _ => .bind (free_reread _) fun _ => free_pollSubmitted

theorem free_submitClaimed :
    Free (submitClaimed o record claimed backend request backendName deadline) := by
  refine .bind (.perform rfl) fun _ => .bind (free_remaining deadline) fun operationTimeout => ?_
  split
  · exact free_recover
  refine .bind (.catching (.bind ⟨rfl, fun _ => trivial⟩ fun answer => ?_)) fun submission => ?_
  · cases answer with
    | none => exact .throw _
    | some submitted => exact .pure submitted
  rcases submission with error | submitted
  · cases error with
    | backendSubmissionRejected =>
        refine .bind (.perform rfl) fun _ => .bind ⟨rfl, fun _ => trivial⟩ fun failed => ?_
        exact free_settle failed _ _ _
    | _ =>
        refine .bind (.perform rfl) fun _ => .bind ⟨rfl, fun _ => trivial⟩ fun recovery => ?_
        refine .bind (free_orReread recovery _) fun durable => ?_
        exact .bind (free_observeWhen _ _) fun _ => .bind (free_observeWhen _ _) fun _ =>
          .pure durable
  · exact free_persistSubmitted

end PersistentAlertProcessor

namespace Main

open PersistentAlertProcessor

/-- What follows from an alert: the decision of the policy, the request of the factory and the one
backend. A planned processing is given up only if it was planned for another backend. -/
def Grounded (b : ConfiguredBackend) (h : List Observation) : Call → Prop
  | .repository (.failProcessing processingId expected _ _ attemptId) =>
      attemptId.isSome = true ∧ (ProcessingState.planned ∈ expected →
        ∃ record, Handed h record ∧ record.processingId = processingId ∧
          ∃ name, record.selectedBackend = some name ∧ name ≠ b.toBackend.name)
  | .repository (.storeNoActionResult processingId result) =>
      ∃ record, Handed h record ∧ record.processingId = processingId ∧
        result.decision = BaselineSeverityPolicy.decision record.alert
  | .repository (.storePlan processingId decision incident request name _ _) =>
      ∃ record, Handed h record ∧ record.processingId = processingId ∧
        decision = BaselineSeverityPolicy.decision record.alert ∧
        request = inventoryRequest incident ∧ name = b.toBackend.name
  | _ => True

theorem grounded_of_isFree {b : ConfiguredBackend} {h : List Observation} {c : Call}
    (hfree : c.isFree = true) : Grounded b h c := by
  cases c with
  | repository c =>
      cases c with
      | failProcessing k expected category detail attemptId =>
          simp only [Call.isFree, Bool.and_eq_true, Bool.not_eq_true', List.contains_eq_mem,
            decide_eq_false_iff_not] at hfree
          exact ⟨hfree.1, fun hplanned => absurd hplanned hfree.2⟩
      | storeNoActionResult | storePlan => cases hfree
      | _ => trivial
  | _ => trivial

section Rules

variable (lib : Velociraptor.Library) (router : ConfiguredRouter) (b : ConfiguredBackend)

/-- Everything a procedure says follows from what it was handed. -/
def Grounds (h : List Observation) {α : Type} (p : Proc α) : Prop :=
  Interleaving.Proc.wp (answeredStep (Answers lib router)) (Grounded b) (fun _ h' => h <+: h') p h

variable {lib router b} {α β : Type} {h h' : List Observation}

theorem Grounds.of_isPrefix {p : Proc α} (hp : Grounds lib router b h' p) (hinit : h <+: h') :
    Interleaving.Proc.wp (answeredStep (Answers lib router)) (Grounded b)
      (fun _ h'' => h <+: h'') p h' :=
  Interleaving.Proc.wp_mono hp fun _ _ hend => hinit.trans hend

theorem grounds_pure (a : α) : Grounds lib router b h (pure a : Proc α) := List.prefix_rfl

theorem grounds_throw (e : PyError) : Grounds lib router b h (throw e : Proc α) := List.prefix_rfl

theorem Grounds.bind {p : Proc α} {f : α → Proc β} (hp : Grounds lib router b h p)
    (hf : ∀ a h', h <+: h' → Grounds lib router b h' (f a)) : Grounds lib router b h (p >>= f) := by
  rw [Grounds, Interleaving.Proc.wp_bind]
  refine Interleaving.Proc.wp_mono hp fun r h' hinit => ?_
  cases r with
  | error e => exact hinit
  | ok a => exact (hf a h' hinit).of_isPrefix hinit

theorem Grounds.catching {p : Proc α} (hp : Grounds lib router b h p) :
    Grounds lib router b h (Interleaving.Proc.catching p) := by
  rw [Grounds, Interleaving.Proc.wp_catching]
  exact hp

theorem grounds_of_free {p : Proc α} (hfree : Free p) : Grounds lib router b h p := by
  have hprog : ∀ (p : Prog Call Call.Response (Except PyError α)) (h : List Observation),
      p.Only (fun c : Call => c.isFree = true) →
      p.wp (answeredStep (Answers lib router)) (Grounded b) (fun _ h' => h <+: h') h := by
    intro p
    induction p with
    | pure a => exact fun h _ => List.prefix_rfl
    | call c k ih =>
        refine fun h hp => ⟨grounded_of_isFree hp.1, fun r h' hstep => ?_⟩
        exact Prog.wp_mono (ih r h' (hp.2 r)) fun _ _ hinit => hstep.1.isPrefix.trans hinit
  exact hprog p.run h hfree

/-- A call of the repository whose answer matters to what follows. -/
theorem grounds_repository_bind {c : RepositoryCall} {f : c.Result → Proc α}
    (hgrounded : Grounded b h (.repository c))
    (hf : ∀ x h', ownStep h (.repository c) (Except.ok x : Except PyError c.Result) h' →
      Grounds lib router b h' (f x)) : Grounds lib router b h (Proc.repository c >>= f) := by
  rw [Grounds, Interleaving.Proc.wp_bind]
  refine ⟨hgrounded, fun r h' hstep => ?_⟩
  cases r with
  | error e => exact hstep.1.isPrefix
  | ok x => exact (hf x h' hstep.1).of_isPrefix hstep.1.isPrefix

/-- The same in a handler that replaces its exception. -/
theorem grounds_catching_repository_bind {c : RepositoryCall}
    {f : Except PyError c.Result → Proc α} (hgrounded : Grounded b h (.repository c))
    (hf : ∀ r h', ownStep h (.repository c) r h' → Grounds lib router b h' (f r)) :
    Grounds lib router b h (Interleaving.Proc.catching (Proc.repository c) >>= f) := by
  rw [Grounds, Interleaving.Proc.wp_bind, Interleaving.Proc.wp_catching]
  exact ⟨hgrounded, fun r h' hstep => (hf r h' hstep.1).of_isPrefix hstep.1.isPrefix⟩

end Rules

section Service

variable {lib : Velociraptor.Library} {router : ConfiguredRouter} {b : ConfiguredBackend}
  {h : List Observation} {record : ProcessingRecord} {attempt : ExecutionAttempt}
  {deadline : Option Rat}

/-- A plan that follows from the alert it is made for. -/
structure PlanOf (b : ConfiguredBackend) (alert : CanonicalAlert) (plan : PlanningResult) :
    Prop where
  decision : plan.decision = BaselineSeverityPolicy.decision alert
  request : ∀ incident request, plan.incident = some incident →
    plan.investigationRequest = some request → request = inventoryRequest incident
  backend : ∀ backend, plan.backend = some backend → backend = b.toBackend

theorem wp_decide_bind {alert : CanonicalAlert} {β : Type} {f : Decision → Proc β}
    {Q : Except PyError β → List Observation → Prop}
    (hf : ∀ h', h <+: h' → Interleaving.Proc.wp (answeredStep (Answers lib router)) (Grounded b) Q
      (f (BaselineSeverityPolicy.decision alert)) h') :
    Interleaving.Proc.wp (answeredStep (Answers lib router)) (Grounded b) Q
      (Proc.decide alert >>= f) h := by
  rw [Interleaving.Proc.wp_bind]
  refine ⟨trivial, fun answer h' hstep => ?_⟩
  have hanswer : answer = .ok (BaselineSeverityPolicy.decision alert) :=
    hstep.2.trans (BaselineSeverityPolicy.decide_eq alert)
  subst hanswer
  exact hf h' hstep.1.isPrefix

theorem wp_requestFactory_bind {incident : Incident} {β : Type}
    {f : InvestigationRequest → Proc β} {Q : Except PyError β → List Observation → Prop}
    (hf : ∀ h', h <+: h' → Interleaving.Proc.wp (answeredStep (Answers lib router)) (Grounded b) Q
      (f (inventoryRequest incident)) h') :
    Interleaving.Proc.wp (answeredStep (Answers lib router)) (Grounded b) Q
      (Proc.requestFactory incident >>= f) h := by
  rw [Interleaving.Proc.wp_bind]
  refine ⟨trivial, fun answer h' hstep => ?_⟩
  have hanswer : answer = .ok (inventoryRequest incident) :=
    hstep.2.trans (makeProcessInventoryRequest_eq incident)
  subst hanswer
  exact hf h' hstep.1.isPrefix

/-- **Planning succeeds**, and in one way. -/
theorem plan_grounds (hsole : router.Sole b) (alert : CanonicalAlert) :
    Interleaving.Proc.wp (answeredStep (Answers lib router)) (Grounded b)
      (fun r h' => h <+: h' ∧ ∃ plan, r = .ok plan ∧ PlanOf b alert plan)
      (router.orchestrator.plan alert) h := by
  refine wp_decide_bind fun h₁ hinit₁ => ?_
  have hsource : (BaselineSeverityPolicy.decision alert).source = alert.source := rfl
  rw [if_neg (not_not.mpr hsource)]
  cases houtcome : (BaselineSeverityPolicy.decision alert).outcome with
  | noAction =>
      have hvalid : PlanningResult.postInit (BaselineSeverityPolicy.decision alert) none none none =
          .ok () := by
        rw [PlanningResult.postInit, houtcome]
        rfl
      have hmake : PlanningResult.make (BaselineSeverityPolicy.decision alert) none none none =
          .ok ⟨_, _, _, _, hvalid⟩ := PlanningResult.make_eq_ok_iff.mpr ⟨rfl, rfl, rfl, rfl⟩
      dsimp only
      rw [hmake]
      refine ⟨hinit₁, _, rfl, rfl, ?_, ?_⟩
      · intro incident request hincident
        cases hincident
      · intro backend hbackend
        cases hbackend
  | investigate =>
      have hincident : Incident.postInit alert (BaselineSeverityPolicy.decision alert) =
        .ok () := by
        simp [Incident.postInit, checks_eq_ok_iff, houtcome, hsource]
      have hmake : Incident.make alert (BaselineSeverityPolicy.decision alert) =
          .ok ⟨_, _, hincident⟩ := Incident.make_eq_ok_iff.mpr ⟨rfl, rfl⟩
      dsimp only
      rw [hmake]
      refine wp_requestFactory_bind fun h₂ hinit₂ => ?_
      have hselect : router.orchestrator.router.select (inventoryRequest ⟨_, _, hincident⟩) =
          .ok b.toBackend := hsole.select rfl
      have hvalid : PlanningResult.postInit (BaselineSeverityPolicy.decision alert)
          (some ⟨_, _, hincident⟩) (some (inventoryRequest ⟨_, _, hincident⟩))
          (some b.toBackend) = .ok () := by
        rw [PlanningResult.postInit, houtcome]
        simp [checks_eq_ok_iff, inventoryRequest]
      have hplan : PlanningResult.make (BaselineSeverityPolicy.decision alert)
          (some ⟨_, _, hincident⟩) (some (inventoryRequest ⟨_, _, hincident⟩))
          (some b.toBackend) = .ok ⟨_, _, _, _, hvalid⟩ :=
        PlanningResult.make_eq_ok_iff.mpr ⟨rfl, rfl, rfl, rfl⟩
      have hsame : (inventoryRequest ⟨_, _, hincident⟩).incident.utc =
          Incident.utc ⟨_, _, hincident⟩ := rfl
      rw [if_neg (not_not.mpr hsame), hselect]
      simp only [Proc.evaluate, pure_bind]
      rw [hplan]
      refine ⟨hinit₁.trans hinit₂, _, rfl, rfl, ?_, ?_⟩
      · rintro incident request ⟨⟩ ⟨⟩
        rfl
      · rintro backend ⟨⟩
        rfl

theorem submit_grounds (hsole : router.Sole b) (hrecord : Handed h record) :
    Grounds lib router b h (submit router.orchestrator record attempt deadline) := by
  unfold submit
  cases record.investigationRequest with
  | none => exact grounds_throw _
  | some request =>
  cases hselected : record.selectedBackend with
  | none => exact grounds_throw _
  | some name =>
  dsimp only
  rw [hsole.backendForName]
  by_cases hname : b.toBackend.name = name
  case neg =>
    rw [if_neg hname]
    refine grounds_repository_bind ⟨rfl, fun _ => ?_⟩ fun failed h' hstep =>
      grounds_of_free (free_orReread failed _)
    exact ⟨record, hrecord, rfl, name, hselected, Ne.symm hname⟩
  rw [if_pos hname]
  refine (grounds_of_free (free_remaining deadline)).bind fun operationTimeout h₁ hinit₁ => ?_
  split
  · exact grounds_pure record
  refine grounds_catching_repository_bind trivial fun claimed h₂ hstep₂ => ?_
  rcases claimed with error | _ | claimed
  · exact grounds_throw _
  · exact grounds_of_free (free_reread _)
  · exact grounds_of_free free_submitClaimed

theorem carryOut_grounds (hsole : router.Sole b) (hrecord : Handed h record) {plan : PlanningResult}
    (hplan : PlanOf b record.alert plan) :
    Grounds lib router b h (carryOut router.orchestrator record plan deadline) := by
  unfold carryOut
  split
  · cases hresult : OrchestrationResult.make plan.decision none none none with
    | error e => exact grounds_throw e
    | ok result =>
        obtain ⟨hdecision, -⟩ := OrchestrationResult.make_eq_ok_iff.mp hresult
        simp only [Proc.evaluate, pure_bind]
        refine grounds_catching_repository_bind
          ⟨record, hrecord, rfl, hdecision.trans hplan.decision⟩ fun completed h' hstep => ?_
        rcases completed with error | completed
        · exact grounds_throw _
        · exact grounds_of_free (free_settle completed _ _ _)
  cases hincident : plan.incident with
  | none => exact grounds_throw _
  | some incident =>
  cases hrequest : plan.investigationRequest with
  | none => exact grounds_throw _
  | some request =>
  cases hbackend : plan.backend with
  | none => exact grounds_throw _
  | some backend =>
  dsimp only
  refine (grounds_of_free (.perform rfl)).bind fun attemptId h₁ hinit₁ => ?_
  refine (grounds_of_free (.perform rfl)).bind fun operationKey h₂ hinit₂ => ?_
  refine grounds_catching_repository_bind ⟨record, hrecord.mono (hinit₁.trans hinit₂), rfl,
    hplan.decision, hplan.request incident request hincident hrequest, ?_⟩ fun planned h₃
      hstep => ?_
  · rw [hplan.backend backend hbackend]
  rcases planned with error | _ | planned
  · exact grounds_throw _
  · exact grounds_of_free (free_reread _)
  refine (grounds_of_free (.perform rfl)).bind fun _ h₄ hinit₄ => ?_
  refine submit_grounds hsole ⟨_, hinit₄.subset hstep.mem, ?_⟩
  simp [Observation.records, RepositoryCall.records]

theorem advanceAccepted_grounds (hsole : router.Sole b) (hrecord : Handed h record) :
    Grounds lib router b h (advanceAccepted router.orchestrator record deadline) := by
  unfold advanceAccepted
  rw [Grounds, Interleaving.Proc.wp_bind, Interleaving.Proc.wp_catching]
  refine Interleaving.Proc.wp_mono (plan_grounds hsole record.alert) ?_
  rintro _ h₁ ⟨hinit, plan, rfl, hplan⟩
  exact (carryOut_grounds hsole (hrecord.mono hinit) hplan).of_isPrefix hinit

theorem reconcileRecord_grounds (hsole : router.Sole b) (hrecord : Handed h record)
    (deadline : Rat) :
    Grounds lib router b h (reconcileRecord router.orchestrator record deadline) := by
  unfold reconcileRecord
  cases record.state with
  | accepted => exact advanceAccepted_grounds hsole hrecord
  | planned =>
      refine grounds_repository_bind trivial fun found h' hstep => ?_
      cases found with
      | none => exact grounds_pure record
      | some attempt => exact submit_grounds hsole (hrecord.mono hstep.isPrefix)
  | submitting =>
      refine (grounds_of_free (.perform rfl)).bind fun _ h₁ hinit₁ => ?_
      refine grounds_repository_bind trivial fun found h' hstep => ?_
      cases found with
      | none => exact grounds_pure record
      | some attempt => exact grounds_of_free free_recover
  | submitted =>
      refine grounds_repository_bind trivial fun found h' hstep => ?_
      cases found with
      | none => exact grounds_pure record
      | some attempt => exact grounds_of_free free_pollSubmitted
  | _ => exact grounds_pure record

theorem examine_grounds (hsole : router.Sole b) (deadline : Rat) (records : List ProcessingRecord)
    (report : ReconciliationReport) (hrecords : ∀ record ∈ records, Handed h record) :
    Grounds lib router b h (examine router.orchestrator deadline records report) := by
  induction records generalizing h report with
  | nil => exact grounds_pure report
  | cons record rest ih =>
      obtain ⟨hrecord, hrest⟩ := List.forall_mem_cons.mp hrecords
      unfold examine
      refine (grounds_of_free (free_remaining _)).bind fun remaining h₁ hinit₁ => ?_
      split
      · exact grounds_pure _
      have hread : Free (Proc.repository (.getAttemptForProcessing record.processingId)) :=
        ⟨rfl, fun _ => trivial⟩
      refine (grounds_of_free hread).bind fun _ h₂ hinit₂ => ?_
      have hinit₂ := hinit₁.trans hinit₂
      refine (reconcileRecord_grounds hsole (hrecord.mono hinit₂) deadline).catching.bind
        fun outcome h₃ hinit₃ => ?_
      have hinit₃ := hinit₂.trans hinit₃
      have hcounted : ∀ report' h₄, h₃ <+: h₄ → Grounds lib router b h₄ (do
          let remaining ← remainingReconciliationSeconds (some deadline)
          if exhausted remaining then return { report' with timeLimitReached := true }
          else examine router.orchestrator deadline rest report') := by
        intro report' h₄ hinit₄
        refine (grounds_of_free (free_remaining _)).bind fun remaining h₅ hinit₅ => ?_
        split
        · exact grounds_pure _
        · exact ih report' fun record hmem =>
            (hrest record hmem).mono (hinit₃.trans (hinit₄.trans hinit₅))
      cases outcome with
      | error e =>
          refine (grounds_of_free (.perform rfl)).bind fun _ h₄ hinit₄ => ?_
          rw [pure_bind]
          exact hcounted _ h₄ hinit₄
      | ok after =>
          refine (grounds_of_free (.perform rfl)).bind fun _ h₄ hinit₄ => ?_
          rw [pure_bind]
          exact hcounted _ h₄ hinit₄

theorem reconcileOnce_grounds (hsole : router.Sole b) (limit : Int) (maxSeconds : Rat)
    (staleAfter : Int) :
    Grounds lib router b [] (reconcileOnce router.orchestrator limit maxSeconds staleAfter) := by
  unfold reconcileOnce
  split
  · exact grounds_throw _
  refine (grounds_of_free (.perform rfl)).bind fun started h₁ hinit₁ => ?_
  refine (grounds_of_free (.perform rfl)).bind fun now h₂ hinit₂ => ?_
  refine grounds_repository_bind trivial fun records h₃ hstep => ?_
  exact examine_grounds hsole _ _ _ fun record hmem => ⟨_, hstep.mem, hmem⟩

theorem process_grounds (hsole : router.Sole b)
    (fp : CanonicalAlert → Except PyError (Int × List UInt8)) (alert : CanonicalAlert)
    (idempotencyKey : String) :
    Grounds lib router b [] (process router.orchestrator fp alert idempotencyKey) := by
  unfold process
  cases fp alert with
  | error e => exact grounds_throw e
  | ok fingerprint =>
  simp only [Proc.evaluate, pure_bind]
  refine (grounds_of_free (.perform rfl)).bind fun processingId h₁ hinit₁ => ?_
  refine grounds_catching_repository_bind trivial fun answer h₂ hstep => ?_
  rcases answer with error | acceptance
  · exact grounds_throw _
  dsimp only
  split
  · exact (grounds_of_free (.perform rfl)).bind fun _ _ _ => grounds_throw _
  split
  · exact (grounds_of_free (.perform rfl)).bind fun _ _ _ => grounds_pure _
  refine (grounds_of_free (.perform rfl)).bind fun _ h₃ hinit₃ => ?_
  refine (grounds_of_free (.perform rfl)).bind fun _ h₄ hinit₄ => ?_
  have hrecord : Handed h₂ acceptance.record :=
    ⟨_, hstep.mem, by simp [Observation.records, RepositoryCall.records]⟩
  refine (advanceAccepted_grounds hsole (hrecord.mono (hinit₃.trans hinit₄))).bind
    fun advanced _ _ => grounds_pure _

/-- **Every job of the service** says only what follows from the alerts it is handed. -/
theorem job_grounds (hsole : router.Sole b)
    (fp : CanonicalAlert → Except PyError (Int × List UInt8)) (job : Job) :
    Grounds lib router b [] ((job.invocation router).procedure fp) := by
  cases job with
  | process alert idempotencyKey =>
      exact (process_grounds hsole fp alert idempotencyKey).bind fun _ _ _ => grounds_pure _
  | reconcileOnce =>
      exact (reconcileOnce_grounds hsole _ _ _).bind fun _ _ _ => grounds_pure _

/-- Every call in a run of the service is grounded. -/
theorem grounded_of_reachable {σ : Type} {M : Repository σ}
    {fp : CanonicalAlert → Except PyError (Int × List UInt8)}
    {cfg : Interleaving.Config (World σ) Job Call Call.Response (Except PyError Outcome)}
    (hsole : router.Sole b) (hreach : (service M fp lib router).Reachable cfg)
    {h₁ h₂ : List (Interleaving.Event (World σ) Call Call.Response)}
    {event : Interleaving.Event (World σ) Call Call.Response}
    (hsplit : cfg.history = h₁ ++ event :: h₂) :
    Grounded b (own event.thread h₁) event.call := by
  obtain ⟨-, hgrounded⟩ := hreach.serves (P := fun _ => Grounded b) (Q := fun _ _ _ => True)
    (fun job => Prog.wp_mono (job_grounds hsole fp job) fun _ _ _ => trivial) h₁ event h₂ hsplit
  exact hgrounded

end Service

end Main

end Alert2IR
