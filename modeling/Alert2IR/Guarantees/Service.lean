import Alert2IR.Application.Grounding
import Alert2IR.Guarantees.Outcomes
import Alert2IR.Lifecycle.Plans
import Alert2IR.Persistence.Scenario

/-!
# What the service makes of an alert

Whatever the environment the service was started with, the severity of an alert alone says whether
it is investigated, planning never fails, and what is recorded of an investigation is what the one
configured backend answered for the request that was made of the alert.
-/

namespace Alert2IR

open Interleaving

namespace ConfiguredBackend

variable {b : ConfiguredBackend} {lib : Velociraptor.Library} {request : InvestigationRequest}

/-! A backend does not look at the offset a request is dated with. -/

@[simp]
theorem submits_utc {key : UUID} {timeout : Option Rat}
    {answer : Except PyError (Option SubmittedOperation)} :
    b.Submits lib request.utc key timeout answer ↔ b.Submits lib request key timeout answer := by
  cases b <;> exact Iff.rfl

@[simp]
theorem polls_utc {x : String} {timeout : Option Rat}
    {answer : Except PyError (Option OperationStatus)} :
    b.Polls lib request.utc x timeout answer ↔ b.Polls lib request x timeout answer := by
  cases b <;> exact Iff.rfl

@[simp]
theorem collects_utc {x : String} {answer : Except PyError (Option InvestigationResult)} :
    b.Collects request.utc x answer ↔ b.Collects request x answer := by
  cases b <;> exact Iff.rfl

end ConfiguredBackend

namespace Main

open BaselineSeverityPolicy

/-- What the policy and the plan of a processing come to, in any state. -/
inductive Handled (b : ConfiguredBackend) (e : Entry) : Prop
  | accepted (hstate : e.processing.state = .accepted)
  | quiet (result : OrchestrationResult) (hquiet : ¬ investigates e.processing.alert)
      (hstate : e.processing.state = .completed) (hattempt : e.attempt = none)
      (hresult : e.processing.completedResult = some result)
      (hdecision : result.decision = decision e.processing.alert)
  | investigated (incident : Incident) (a : AttemptFields)
      (hurgent : investigates e.processing.alert) (halert : incident.alert = e.processing.alert)
      (hdecision : incident.decision = decision e.processing.alert) (ha : e.attempt = some a)
      (hexecutes : e.processing.Executes (inventoryRequest incident) b.toBackend.name)

/-- What is recorded of the execution of a request is what the backend answered. -/
structure Performed (lib : Velociraptor.Library) (b : ConfiguredBackend)
    (q : InvestigationRequest) (p : ProcessingFields) (a : AttemptFields) : Prop where
  submitted : ∀ x, a.externalOperationId = some x → ∃ timeout operation,
    b.Submits lib q a.operationKey timeout (.ok (some operation)) ∧
      operation.externalOperationId = x
  completed : p.state = .completed → ∃ x timeout status result found,
    a.externalOperationId = some x ∧ b.Polls lib q x timeout (.ok (some status)) ∧
      status.state = some .succeeded ∧ b.Collects q x (.ok (some found)) ∧
      p.completedResult = some result ∧ result.investigationResult = some found
  failed : p.state = .failed →
    (∃ timeout, b.Submits lib q a.operationKey timeout (.error .backendSubmissionRejected)) ∨
      ∃ x timeout status, a.externalOperationId = some x ∧
        b.Polls lib q x timeout (.ok (some status)) ∧ status.state = some .failed

section Runs

variable {σ : Type} {M : Repository σ} {fp : CanonicalAlert → Except PyError (Int × List UInt8)}
  {lib : Velociraptor.Library} {router : ConfiguredRouter} {b : ConfiguredBackend}
  {cfg : Interleaving.Config (World σ) Job Call Call.Response (Except PyError Outcome)}
  {k : UUID} {e : Entry}

theorem trace_of_reachable (hreach : (service M fp lib router).Reachable cfg) :
    ∃ is, (M.system fp).Trace (Issues fp) is cfg.history cfg.state :=
  ⟨_, (hreach.of_serving.1.disciplined invocation_disciplined).trace⟩

theorem sound_of_reachable (L : LawfulRepository M)
    (hreach : (service M fp lib router).Reachable cfg) : L.Sound cfg.history cfg.state := by
  obtain ⟨is, htrace⟩ := trace_of_reachable hreach
  exact LawfulRepository.sound_of_trace htrace

/-- What is handled goes on being handled. -/
theorem Handled.mono {e' : Entry} (h : Handled b e) (hcoherent : e'.Coherent)
    (hevolves : e.EvolvesTo e') (hstate : e.processing.state ≠ .accepted) : Handled b e' := by
  cases h with
  | accepted haccepted => exact absurd haccepted hstate
  | quiet result hquiet hcompleted hattempt hresult hdecision =>
      obtain rfl : e' = e := hevolves.settled (by rw [hcompleted]; rfl)
      exact .quiet result hquiet hcompleted hattempt hresult hdecision
  | investigated incident a hurgent halert hdecision ha hexecutes =>
      obtain ⟨hplan, a', ha', -⟩ := hevolves.plan a ha
      obtain ⟨q, name, hexecutes', -⟩ := hcoherent.executing ha'
      have hsame := hevolves.identity.alert
      obtain rfl : q = inventoryRequest incident := Option.some.inj
        (hexecutes'.request.symm.trans (hplan.request.trans hexecutes.request))
      obtain rfl : name = b.toBackend.name := Option.some.inj
        (hexecutes'.backend.symm.trans (hplan.backend.trans hexecutes.backend))
      exact .investigated incident a' (hsame ▸ hurgent) (halert.trans hsame.symm)
        (hdecision.trans (congrArg decision hsame.symm)) ha' hexecutes'

/-- The event that planned a processing handled it. -/
theorem handled_of_advance {c : RepositoryCall} {e' : Entry} {now : Int}
    (hcoherent : e.Coherent) (hcoherent' : e'.Coherent) (hfits : c.Fits e)
    (hadvance : e.advance now c = some e') (haccepted : e.processing.state = .accepted)
    (hgrounded : ∃ h, Grounded b h (.repository c) ∧ ∀ record, Handed h record →
      record.processingId = e.processing.processingId → e.processing.alert = record.alert.utc) :
    Handled b e' := by
  obtain ⟨hunplanned, hnone⟩ := hcoherent.phase.of_accepted haccepted
  obtain ⟨h, hgrounded, hhanded⟩ := hgrounded
  cases c <;> simp only [Entry.advance, Entry.move, hnone, reduceCtorEq,
    Option.ite_none_right_eq_some] at hadvance
  case storeNoActionResult processingId result =>
    obtain ⟨⟨rfl, -⟩, heq⟩ := hadvance
    cases heq
    obtain ⟨record, hrecord, hid, hdecision⟩ := hgrounded
    have halert := hhanded record hrecord hid
    have hdecision : result.utc.decision = decision e.processing.alert := by
      rw [halert, decision_utc]
      exact hdecision
    refine .quiet result.utc ?_ rfl rfl rfl hdecision
    rw [← outcome_eq_investigate_iff]
    change (decision e.processing.alert).outcome ≠ .investigate
    rw [← hdecision]
    change result.decision.outcome ≠ .investigate
    rw [hfits.1]
    decide
  case storePlan processingId chosen incident request name attemptId operationKey =>
    obtain ⟨⟨rfl, -⟩, heq⟩ := hadvance
    cases heq
    obtain ⟨record, hrecord, hid, hdecision, rfl, rfl⟩ := hgrounded
    have halert := hhanded record hrecord hid
    obtain ⟨hincident, hchosen, -⟩ := hfits
    obtain ⟨q, name, hexecutes, -⟩ := hcoherent'.executing rfl
    have hplanned := hexecutes.planned (show ProcessingState.planned ≠ .completed by decide)
    obtain rfl : q = inventoryRequest incident.utc := Option.some.inj hplanned.2.2.2.symm
    obtain rfl : name = b.toBackend.name := Option.some.inj hexecutes.backend.symm
    have hdecision : incident.decision = decision e.processing.alert := by
      rw [halert, decision_utc]
      exact hchosen.trans hdecision
    refine .investigated incident.utc _ ?_ hincident hdecision rfl hexecutes
    rw [← outcome_eq_investigate_iff]
    change (decision e.processing.alert).outcome = .investigate
    rw [← hdecision]
    exact incident.outcome_eq
  case failProcessing processingId expected category detail attemptId =>
    obtain ⟨attemptId, rfl⟩ := Option.isSome_iff_exists.mp hgrounded.1
    simp at hadvance

/-- **Every alert is handled as its severity says.** -/
theorem handled_of_reachable (L : LawfulRepository M) (hsole : router.Sole b)
    (hreach : (service M fp lib router).Reachable cfg) (he : L.store cfg.state k = some e) :
    Handled b e := by
  obtain ⟨is, htrace⟩ := trace_of_reachable hreach
  have hsound := sound_of_reachable L hreach
  by_cases hstate : e.processing.state = .accepted
  · exact .accepted hstate
  obtain ⟨h₁, event, h₂, c, e₀, e₁, hsplit, hoperates, haccepted, hplanned⟩ :=
    LawfulRepository.exists_operates L htrace (T := fun e => e.processing.state ≠ .accepted) he
      hstate (by simp [Entry.accepted])
  have hmem : event ∈ cfg.history := by simp [hsplit]
  have hsound₁ := hoperates.sound
  have hgrounded := grounded_of_reachable hsole hreach hsplit
  rw [hoperates.call] at hgrounded
  obtain ⟨now, hadvance⟩ := hoperates.advance
  have hcoherent₁ := (hsound.events event hmem).coherent.entry k e₁ hoperates.after
  have hhandled : Handled b e₁ := by
    refine handled_of_advance (hsound₁.coherent.entry k e₀ hoperates.before) hcoherent₁
      hoperates.fits hadvance (not_not.mp haccepted) ⟨_, hgrounded, fun record hrecord hid => ?_⟩
    refine (hsound₁.knows hrecord).alert ?_
    rw [hid, hsound₁.coherent.id k e₀ hoperates.before]
    exact hoperates.before
  obtain ⟨e', he', hevolves⟩ := hsound.evolves event hmem k e₁ hoperates.after
  obtain rfl := Option.some.inj (he.symm.trans he')
  exact hhandled.mono (hsound.coherent.entry k e he) hevolves hplanned

/-! ### What the backend answered -/

variable {q : InvestigationRequest} {a : AttemptFields} {name : String}

/-- Whoever called the backend for a processing was answered by the one there is, for the request
that is stored. -/
theorem answered_of_mem (L : LawfulRepository M)
    (hreach : (service M fp lib router).Reachable cfg) (he : L.store cfg.state k = some e)
    {event : Alert2IR.Event σ} (hmem : event ∈ cfg.history) (hbacks : event.call.backs = some k) :
    event.call.Executes e ∧ Answers lib router event.call event.response := by
  obtain ⟨is, htrace⟩ := trace_of_reachable hreach
  obtain ⟨e', he', hexecutes⟩ := LawfulRepository.executes_of_trace L htrace hmem hbacks
  obtain rfl := Option.some.inj (he.symm.trans he')
  exact ⟨hexecutes, hreach.of_serving.2 event hmem⟩

theorem submits_of_submitted (L : LawfulRepository M) (hsole : router.Sole b)
    (hreach : (service M fp lib router).Reachable cfg) (he : L.store cfg.state k = some e)
    (hq : e.processing.investigationRequest = some q) (ha : e.attempt = some a)
    {r : Except PyError (Option SubmittedOperation)} (hsubmitted : Submitted cfg.history k r) :
    ∃ timeout, b.Submits lib q a.operationKey timeout r := by
  obtain ⟨⟨t, w, c, answer, w'⟩, hmem, backend, request, key, timeout, hobserved⟩ := hsubmitted
  cases hobserved
  obtain ⟨⟨hplans, hkey⟩, b', hb', -, hsubmits⟩ := answered_of_mem L hreach he hmem rfl
  obtain rfl := hsole.eq_of_mem hb'
  rw [ha, Option.map_some, Option.some.injEq] at hkey
  rw [Option.some.inj (hq.symm.trans hplans.request), hkey]
  exact ⟨timeout, ConfiguredBackend.submits_utc.mpr hsubmits⟩

theorem polls_of_polled (L : LawfulRepository M) (hsole : router.Sole b)
    (hreach : (service M fp lib router).Reachable cfg) (he : L.store cfg.state k = some e)
    (hq : e.processing.investigationRequest = some q) (ha : e.attempt = some a) {x : String}
    {state : OperationState} (hpolled : Polled cfg.history k x state) :
    a.externalOperationId = some x ∧ ∃ timeout status,
      b.Polls lib q x timeout (.ok (some status)) ∧ status.state = some state := by
  obtain ⟨⟨t, w, c, answer, w'⟩, hmem, backend, request, timeout, status, hobserved, hstate⟩ :=
    hpolled
  cases hobserved
  obtain ⟨⟨hplans, hx⟩, b', hb', -, hpolls⟩ := answered_of_mem L hreach he hmem rfl
  obtain rfl := hsole.eq_of_mem hb'
  rw [ha, Option.bind_some] at hx
  rw [Option.some.inj (hq.symm.trans hplans.request)]
  exact ⟨hx, timeout, status, ConfiguredBackend.polls_utc.mpr hpolls, hstate⟩

theorem collects_of_collected (L : LawfulRepository M) (hsole : router.Sole b)
    (hreach : (service M fp lib router).Reachable cfg) (he : L.store cfg.state k = some e)
    (hq : e.processing.investigationRequest = some q) {x : String} {found : InvestigationResult}
    (hcollected : Collected cfg.history k x found) : b.Collects q x (.ok (some found)) := by
  obtain ⟨⟨t, w, c, answer, w'⟩, hmem, backend, request, hobserved⟩ := hcollected
  cases hobserved
  obtain ⟨⟨hplans, -⟩, b', hb', -, hcollects⟩ := answered_of_mem L hreach he hmem rfl
  obtain rfl := hsole.eq_of_mem hb'
  rw [Option.some.inj (hq.symm.trans hplans.request)]
  exact ConfiguredBackend.collects_utc.mpr hcollects

/-- **A processing fails only as the backend says**: it is never given up for want of one. -/
theorem failed_answer (L : LawfulRepository M) (hsole : router.Sole b)
    (hreach : (service M fp lib router).Reachable cfg) (he : L.store cfg.state k = some e)
    (hstate : e.processing.state = .failed) :
    Submitted cfg.history k (.error .backendSubmissionRejected) ∨
      ∃ x, Polled cfg.history k x .failed := by
  have hhandled := handled_of_reachable L hsole hreach he
  obtain ⟨is, htrace⟩ := trace_of_reachable hreach
  have hsound := sound_of_reachable L hreach
  obtain ⟨h₁, event, h₂, c, e₀, e₁, hsplit, hoperates, hnot, hstate₁⟩ :=
    LawfulRepository.exists_operates L htrace (T := fun e => e.processing.state = .failed) he hstate
      (by simp [Entry.accepted])
  have hsubset : h₁ ⊆ cfg.history := by
    rw [hsplit]
    exact List.subset_append_left ..
  have hgrounded := grounded_of_reachable hsole hreach hsplit
  rw [hoperates.call] at hgrounded
  have hsound₁ := hoperates.sound
  obtain ⟨now, hadvance⟩ := hoperates.advance
  obtain ⟨k', expected, category, detail, attemptId, rfl, hid, hexpected, -, -⟩ :=
    Entry.failed_of_advance hadvance hnot hstate₁
  have hk : k' = k := hid.symm.trans (hsound₁.coherent.id k e₀ hoperates.before)
  obtain ⟨hattempt, hunplanned⟩ := hgrounded
  obtain ⟨i, hissues⟩ := hoperates.issues
  cases hissues with
  | quiet hquiet => cases hquiet
  | failPlanning => cases hattempt
  | failUnconfigured =>
      obtain ⟨record, hrecord, hid', name, hname, hne⟩ := hunplanned (.head _)
      have hselected : e₀.processing.selectedBackend = some name := by
        refine (hsound₁.knows hrecord).backend ?_ hname
        rw [hid', hk]
        exact hoperates.before
      obtain ⟨a₀, ha₀⟩ := (hsound₁.coherent.entry k e₀ hoperates.before).selected hselected
      obtain ⟨e', he', hevolves⟩ := hsound.evolved (by simp [hsplit]) k e₀ hoperates.before
      obtain rfl := Option.some.inj (he.symm.trans he')
      have hselected := (hevolves.plan a₀ ha₀).1.backend.trans hselected
      cases hhandled with
      | accepted haccepted => cases hstate.symm.trans haccepted
      | quiet _ _ hcompleted => cases hstate.symm.trans hcompleted
      | investigated _ _ _ _ _ _ hexecutes =>
          exact absurd (Option.some.inj (hselected.symm.trans hexecutes.backend)) hne
  | failRejected _ _ hsubmitted =>
      subst hk
      exact .inl ((submitted_of_own
        (mem_of_acts_suffix hsubmitted (.tail _ (.head _)))).mono hsubset)
  | failExecution _ _ hfailed hpolled =>
      subst hk
      exact .inr ⟨_, (polled_of_own (mem_of_acts_suffix hpolled (.head _)) hfailed).mono hsubset⟩

/-- **What is recorded is what the backend answered.** -/
theorem performed_of_reachable (L : LawfulRepository M) (hsole : router.Sole b)
    (hreach : (service M fp lib router).Reachable cfg) (he : L.store cfg.state k = some e)
    (hq : e.processing.investigationRequest = some q) (ha : e.attempt = some a) :
    Performed lib b q e.processing a := by
  obtain ⟨is, htrace⟩ := trace_of_reachable hreach
  refine ⟨fun x hx => ?_, fun hstate => ?_, fun hstate => ?_⟩
  · obtain ⟨operation, hsubmitted, hid⟩ := LawfulRepository.identified L htrace he ha hx
    obtain ⟨timeout, hsubmits⟩ := submits_of_submitted L hsole hreach he hq ha hsubmitted
    exact ⟨timeout, operation, hsubmits, hid⟩
  · obtain ⟨-, x, result, found, -, -, hpolled, hcollected, -, hresult, hfound⟩ :=
      LawfulRepository.completed_collected L htrace he hstate ha
    obtain ⟨hx, timeout, status, hpolls, hsucceeded⟩ :=
      polls_of_polled L hsole hreach he hq ha hpolled
    exact ⟨x, timeout, status, result, found, hx, hpolls, hsucceeded,
      collects_of_collected L hsole hreach he hq hcollected, hresult, hfound⟩
  · rcases failed_answer L hsole hreach he hstate with hrejected | ⟨x, hpolled⟩
    · exact .inl (submits_of_submitted L hsole hreach he hq ha hrejected)
    · obtain ⟨hx, timeout, status, hpolls, hfailed⟩ :=
        polls_of_polled L hsole hreach he hq ha hpolled
      exact .inr ⟨x, timeout, status, hx, hpolls, hfailed⟩

/-- **What the service makes of its alerts.** Started with any environment, over any lawful
repository and in every run of any jobs: every processing is as its severity says, whatever is
recorded of the execution of its request is an answer of the one configured backend to that request,
and the backend is called for no other alerts than those to be investigated. -/
theorem alerts_handled (L : LawfulRepository M) {client : String → Except PyError Unit}
    {environ : Environ} (hstart : start client environ = .ok router)
    (hreach : (service M fp lib router).Reachable cfg) :
    ∃ b, router.backends = [b] ∧
      (∀ k e, L.store cfg.state k = some e → Handled b e ∧
        ∀ q a, e.processing.investigationRequest = some q → e.attempt = some a →
          Performed lib b q e.processing a) ∧
      ∀ event ∈ cfg.history, ∀ k, event.call.backs = some k →
        ∃ e, L.store cfg.state k = some e ∧ investigates e.processing.alert ∧
          event.call.Executes e := by
  obtain ⟨b, hsole⟩ := (started_of_start hstart).exists_sole
  refine ⟨b, hsole.backends, fun k e he => ⟨handled_of_reachable L hsole hreach he,
    fun q a hq ha => performed_of_reachable L hsole hreach he hq ha⟩, fun event hmem k hbacks => ?_⟩
  obtain ⟨is, htrace⟩ := trace_of_reachable hreach
  obtain ⟨e, he, hexecutes⟩ := LawfulRepository.executes_of_trace L htrace hmem hbacks
  refine ⟨e, he, ?_, hexecutes⟩
  have hattempt : e.attempt.isSome = true := hexecutes.attempted hbacks
  cases handled_of_reachable L hsole hreach he with
  | accepted hstate =>
      have hcoherent := (sound_of_reachable L hreach).coherent
      rw [((hcoherent.entry k e he).phase.of_accepted hstate).2] at hattempt
      cases hattempt
  | quiet _ _ _ hnone =>
      rw [hnone] at hattempt
      cases hattempt
  | investigated _ _ hurgent => exact hurgent

end Runs

end Main

namespace Scenario

open Main

def mock : MockBackend := ⟨"mock", ["process.list"], by decide +kernel⟩

def mockRouter : ConfiguredRouter := ⟨[.mock mock]⟩

/-- Nothing but the database is configured. -/
def environ : Environ := fun name =>
  if name = databaseUrlSetting then some "postgresql://alert2ir" else none

theorem start_mock : start (fun _ => .ok ()) environ = .ok mockRouter := rfl

/-- No response can be read. -/
def library : Velociraptor.Library := ⟨fun _ => .error .malformed, fun _ => "60.0"⟩

/-- The service with the mock backend, over PostgreSQL. -/
abbrev mockService := service (Postgres.repository dialect) fingerprint library mockRouter

/-- Transactions commit at time `now`, and the rest is answered as configured. -/
def mockEnvironment (now : Int) : Environment mockService where
  answer w
    | .decide alert => some (BaselineSeverityPolicy.decide alert, w)
    | .requestFactory incident => some (makeProcessInventoryRequest incident, w)
    | .submit _ backend request operationKey _ =>
        if backend = mock.toBackend then some ((mock.submit request operationKey).map some, w)
        else none
    | .poll _ backend request externalOperationId _ =>
        if backend = mock.toBackend then some ((mock.poll request externalOperationId).map some, w)
        else none
    | .collectResult _ backend request externalOperationId =>
        if backend = mock.toBackend then
          some ((mock.collectResult request externalOperationId).map some, w)
        else none
    | c => (Postgres.environment fingerprint answers dialect now).answer w c
  sound := by
    intro w c r w' h
    cases c with
    | decide alert =>
        cases h
        exact ⟨rfl, rfl⟩
    | requestFactory incident =>
        cases h
        exact ⟨rfl, rfl⟩
    | submit _ backend request operationKey timeout =>
        obtain ⟨hbackend, h⟩ := Option.ite_none_right_eq_some.mp h
        cases h
        exact ⟨rfl, .mock mock, .head _, hbackend.symm, rfl⟩
    | poll _ backend request externalOperationId timeout =>
        obtain ⟨hbackend, h⟩ := Option.ite_none_right_eq_some.mp h
        cases h
        exact ⟨rfl, .mock mock, .head _, hbackend.symm, rfl⟩
    | collectResult _ backend request externalOperationId =>
        obtain ⟨hbackend, h⟩ := Option.ite_none_right_eq_some.mp h
        cases h
        exact ⟨rfl, .mock mock, .head _, hbackend.symm, rfl⟩
    | _ => exact ⟨(Postgres.environment fingerprint answers dialect now).sound h, trivial⟩

/-- The alert arrives, and is processed. -/
def handled : Interleaving.Config (World Db) Job Call Call.Response (Except PyError Outcome) :=
  mockService.replay [.spawn (.process alert "key"), .run 0 30 (mockEnvironment 1)]

theorem handled_reachable : mockService.Reachable handled := System.reachable_replay _

theorem exists_handled : ∃ e, Postgres.view handled.state.store 0 = some e ∧
    e.processing.state = .completed := by
  have hcompleted : (Postgres.view handled.state.store 0).map (fun e => e.processing.state) =
      some .completed := by
    decide +kernel
  exact Option.map_eq_some_iff.mp hcompleted

theorem alerts_handled_mock : ∃ e, Postgres.view handled.state.store 0 = some e ∧
    e.processing.state = .completed ∧ Handled (.mock mock) e := by
  obtain ⟨e, he, hstate⟩ := exists_handled
  obtain ⟨b, hbackends, hhandled, -⟩ :=
    alerts_handled (Postgres.lawfulRepository dialect) start_mock handled_reachable
  obtain rfl : ConfiguredBackend.mock mock = b := (List.cons.inj hbackends).1
  exact ⟨e, he, hstate, (hhandled 0 e he).1⟩

end Scenario

end Alert2IR
