import Alert2IR.Lifecycle.Entry

namespace Alert2IR

theorem ProcessingFields.durable_eq_self_iff {p : ProcessingFields} : p.durable = p ↔
    p.createdAt.utc = p.createdAt ∧ p.updatedAt.utc = p.updatedAt ∧ p.alert.utc = p.alert ∧
    (p.completedResult.isSome = true → p.plannedDecision = none) ∧
    (if p.completedResult.isNone then p.plannedIncident.map Incident.utc else none)
      = p.plannedIncident ∧
    (if p.completedResult.isNone then p.plannedRequest.map InvestigationRequest.utc else none)
      = p.plannedRequest ∧
    p.completedResult.map OrchestrationResult.utc = p.completedResult ∧
    p.completedAt.map Datetime.utc = p.completedAt ∧ p.failedAt.map Datetime.utc = p.failedAt := by
  obtain ⟨_, _, _, _, _, _, _, _, _, _, _, _, _, result, _, _, _, _⟩ := p
  cases result <;> simp [durable, eq_comm]

theorem AttemptFields.durable_eq_self_iff {a : AttemptFields} : a.durable = a ↔
    a.createdAt.utc = a.createdAt ∧ a.startedAt.map Datetime.utc = a.startedAt ∧
    a.submittedAt.map Datetime.utc = a.submittedAt ∧
    a.lastPolledAt.map Datetime.utc = a.lastPolledAt ∧
    a.completedAt.map Datetime.utc = a.completedAt ∧
    a.failedAt.map Datetime.utc = a.failedAt := by
  obtain ⟨⟩ := a
  simp [durable]

namespace ProcessingFields

variable {p : ProcessingFields} {q : InvestigationRequest} {b : String}

theorem Executes.planned (h : p.Executes q b) (hstate : p.state ≠ .completed) :
    p.completedResult = none ∧ p.plannedDecision = some q.incident.decision ∧
      p.plannedIncident = some q.incident ∧ p.plannedRequest = some q := by
  obtain ⟨hdecision, hincident, hrequest, -, -, hresult⟩ := h
  have hnone : p.completedResult = none := by simpa [hstate] using hresult
  simp only [ProcessingFields.decision, hnone] at hdecision
  simp only [ProcessingFields.incident, hnone] at hincident
  simp only [ProcessingFields.investigationRequest, hnone] at hrequest
  exact ⟨hnone, hdecision, hincident, hrequest⟩

theorem Executes.of_planned (hresult : p.completedResult = none) (hstate : p.state ≠ .completed)
    (hdecision : p.plannedDecision = some q.incident.decision)
    (hincident : p.plannedIncident = some q.incident) (hrequest : p.plannedRequest = some q)
    (hbackend : p.selectedBackend = some b) (halert : q.incident.alert = p.alert) :
    p.Executes q b where
  decision := by simp [ProcessingFields.decision, hresult, hdecision]
  incident := by simp [ProcessingFields.incident, hresult, hincident]
  request := by simp [investigationRequest, hresult, hrequest]
  backend := hbackend
  alert := halert
  result := by simp [hresult, hstate]

/-- A processing goes on executing its plan in every state but `completed`. -/
theorem Executes.keep {p' : ProcessingFields} (h : p.Executes q b) (hstate : p.state ≠ .completed)
    (hstate' : p'.state ≠ .completed) (hresult : p'.completedResult = p.completedResult)
    (hdecision : p'.plannedDecision = p.plannedDecision)
    (hincident : p'.plannedIncident = p.plannedIncident)
    (hrequest : p'.plannedRequest = p.plannedRequest)
    (hbackend : p'.selectedBackend = p.selectedBackend) (halert : p'.alert = p.alert) :
    p'.Executes q b := by
  obtain ⟨hnone, hd, hi, hr⟩ := h.planned hstate
  exact .of_planned (hresult.trans hnone) hstate' (hdecision.trans hd) (hincident.trans hi)
    (hrequest.trans hr) (hbackend.trans h.backend) (h.alert.trans halert.symm)

end ProcessingFields

namespace Entry

variable {now : Int} {c : RepositoryCall} {e e' : Entry}

theorem Phase.of_accepted {p : ProcessingFields} {a : Option AttemptFields} (h : Phase p a)
    (hstate : p.state = .accepted) : p.Unplanned ∧ a = none := by
  cases h with
  | accepted _ hplan => exact ⟨hplan, rfl⟩
  | noAction _ hstate' => simp [hstate] at hstate'
  | rejected hstate' => simp [hstate] at hstate'
  | executing q b a hexecutes hserves =>
      have hnone : a.state.processingState ≠ .accepted := by cases a.state <;> decide
      exact absurd (hserves.state.symm.trans hstate) hnone

theorem concerns_of_advance (h : e.advance now c = some e') : c.Concerns e := by
  cases c <;> simp only [advance, reduceCtorEq, Option.ite_none_right_eq_some,
    move_eq_some_iff] at h
  case storeNoActionResult => exact h.1.1
  case storePlan => exact h.1.1
  case failProcessing => exact h.1.1
  all_goals
    obtain ⟨attempt, hattempt, hid, -, -⟩ := h
    simp [RepositoryCall.Concerns, hattempt, hid]

/-- A call is about what it has made of an entry. -/
theorem concerns_of_advanced (h : e.advance now c = some e') : c.Concerns e' := by
  cases c <;> simp only [advance, reduceCtorEq, Option.ite_none_right_eq_some,
    move_eq_some_iff] at h
  case storeNoActionResult =>
    obtain ⟨⟨hid, -⟩, heq⟩ := h
    cases heq
    exact hid
  case storePlan =>
    obtain ⟨⟨hid, -⟩, heq⟩ := h
    cases heq
    exact hid
  case failProcessing k expected category detail attemptId =>
    obtain ⟨⟨hid, -⟩, h⟩ := h
    cases attemptId with
    | none =>
        cases h
        exact hid
    | some attemptId =>
        obtain ⟨a, -, -, -, rfl⟩ := move_eq_some_iff.mp h
        exact hid
  all_goals
    obtain ⟨attempt, -, hid, -, rfl⟩ := h
    exact congrArg some hid

theorem accepted_coherent (processingId : UUID) (alert : CanonicalAlert) (scope key : String)
    (version : Int) (digest : List UInt8) :
    (accepted now processingId alert scope key version digest).Coherent where
  durable := by simp [accepted, ProcessingFields.durable]
  attemptDurable := rfl
  completedAt := rfl
  failedAt := rfl
  phase := .accepted rfl ⟨rfl, rfl, rfl, rfl, rfl⟩

theorem Coherent.executing (h : e.Coherent) {a : AttemptFields} (hattempt : e.attempt = some a) :
    ∃ q b, e.processing.Executes q b ∧ a.Serves e.processing b := by
  have hphase := h.phase
  rw [hattempt] at hphase
  cases hphase with
  | executing q b _ hexecutes hserves => exact ⟨q, b, hexecutes, hserves⟩

/-- A processing with a request has been planned. -/
theorem Coherent.planned (h : e.Coherent) {q : InvestigationRequest}
    (hrequest : e.processing.investigationRequest = some q) : ∃ a, e.attempt = some a := by
  cases hattempt : e.attempt with
  | some a => exact ⟨a, rfl⟩
  | none =>
      have hphase := h.phase
      rw [hattempt] at hphase
      have hunplanned : ¬ e.processing.Unplanned := by
        intro hplan
        simp [ProcessingFields.investigationRequest, hplan.result, hplan.request] at hrequest
      cases hphase with
      | accepted _ hplan => exact absurd hplan hunplanned
      | rejected _ hplan => exact absurd hplan hunplanned
      | noAction result _ hresult houtcome =>
          simp [ProcessingFields.investigationRequest, hresult,
            (result.of_noAction houtcome).2.1] at hrequest

/-- A processing completed with an investigate decision has been executed. -/
theorem Coherent.executed (h : e.Coherent) (hstate : e.processing.state = .completed)
    (hdecision : e.processing.decision.map (·.outcome) = some .investigate) :
    ∃ a, e.attempt = some a := by
  obtain ⟨processing, attempt⟩ := e
  cases h.phase with
  | accepted hstate' => exact absurd (hstate.symm.trans hstate') (by decide)
  | noAction result _ hresult houtcome =>
      have hnone : processing.decision = some result.decision := by
        have hresult : processing.completedResult = some result := hresult
        simp [ProcessingFields.decision, hresult]
      rw [show (Entry.mk processing none).processing.decision = _ from hnone] at hdecision
      rw [Option.map_some, houtcome] at hdecision
      cases hdecision
  | rejected hstate' => exact absurd (hstate.symm.trans hstate') (by decide)
  | executing q b a => exact ⟨a, rfl⟩

/-- A processing is submitting once its attempt has been claimed. -/
theorem Coherent.started (h : e.Coherent) (hstate : e.processing.state = .submitting) :
    ∃ a, e.attempt = some a ∧ a.startedAt.isSome = true := by
  obtain ⟨processing, attempt⟩ := e
  cases h.phase with
  | accepted hstate' => exact absurd (hstate.symm.trans hstate') (by decide)
  | noAction _ hstate' => exact absurd (hstate.symm.trans hstate') (by decide)
  | rejected hstate' => exact absurd (hstate.symm.trans hstate') (by decide)
  | executing q b a _ hserves =>
      have ha : a.state = .submitting := by
        apply ExecutionAttemptState.processingState_injective
        rw [← hserves.state, hstate]
        rfl
      exact ⟨a, rfl, hserves.started (by simp [ha]) (by simp [ha])⟩

/-- An attempt that has not ended belongs to a processing that has not ended. -/
theorem Coherent.unended (h : e.Coherent) {a : AttemptFields} (hattempt : e.attempt = some a)
    (hstate : a.state ∈ ExecutionAttemptState.active) :
    e.processing.state ≠ .completed ∧ e.processing.failedAt = none := by
  obtain ⟨q, b, -, hserves⟩ := h.executing hattempt
  have hprocessing : e.processing.state ≠ .completed ∧ e.processing.state ≠ .failed := by
    rw [hserves.state]
    revert hstate
    cases a.state <;> decide
  exact ⟨hprocessing.1, by simpa [hprocessing.2] using h.failedAt⟩

/-- An attempt and its processing that move together, short of completion, stay coherent. -/
theorem Coherent.moved (h : e.Coherent) {a a' : AttemptFields} {p' : ProcessingFields}
    (hattempt : e.attempt = some a) (hstate : e.processing.state ≠ .completed)
    (hp : p' = { e.processing with
      state := p'.state
      updatedAt := p'.updatedAt
      failedAt := p'.failedAt
      errorCategory := p'.errorCategory
      errorDetail := p'.errorDetail })
    (hstate' : p'.state ≠ .completed) (hupdatedAt : p'.updatedAt.utc = p'.updatedAt)
    (hfailedAt : p'.failedAt.map Datetime.utc = p'.failedAt)
    (hfailed : p'.failedAt.isSome = decide (p'.state = .failed))
    (ha' : a.durable = a → a'.durable = a')
    (hserves : ∀ b, a.Serves e.processing b → a'.Serves p' b) : Coherent ⟨p', some a'⟩ := by
  have ha : a.durable = a := by simpa [hattempt] using h.attemptDurable
  obtain ⟨q, b, hexecutes, hserves'⟩ := h.executing hattempt
  have hcompleted : e.processing.completedAt = none := by simpa [hstate] using h.completedAt
  obtain ⟨h₁, -, h₃, h₄, h₅, h₆, h₇, h₈, -⟩ := ProcessingFields.durable_eq_self_iff.mp h.durable
  refine ⟨?_, by simp [ha' ha], ?_, hfailed, .executing q b a' ?_ (hserves b hserves')⟩
  · rw [hp, ProcessingFields.durable_eq_self_iff]
    exact ⟨h₁, hupdatedAt, h₃, h₄, h₅, h₆, h₇, h₈, hfailedAt⟩
  · rw [hp]
    simp [hcompleted, hstate']
  · rw [hp]
    exact hexecutes.keep hstate hstate' rfl rfl rfl rfl rfl rfl

/-- An attempt that has not ended fails with its processing. -/
theorem Coherent.fail_active (now : Int) (h : e.Coherent) {a : AttemptFields}
    (hattempt : e.attempt = some a)
    (hactive : a.state ∈ ExecutionAttemptState.active) (category detail : String) :
    Coherent ⟨e.processing.fail now category detail, some (a.fail now category detail)⟩ := by
  have hopen : a.state ≠ .completed := by
    intro hcompleted
    simp [hcompleted, ExecutionAttemptState.active] at hactive
  simp only [ProcessingFields.fail, AttemptFields.fail]
  refine h.moved hattempt (h.unended hattempt hactive).1 rfl (by simp) (by simp) (by simp)
    (by simp) ?_ ?_
  · simp +contextual [AttemptFields.durable_eq_self_iff]
  · rintro b ⟨⟩
    constructor <;> simp_all [ExecutionAttemptState.processingState]

/-- A processing fails with the attempt it has, whatever that has come to. -/
theorem Coherent.fail (now : Int) (h : e.Coherent) (hopen : e.processing.state ≠ .completed)
    (category detail : String) :
    ∃ attempt, Coherent ⟨e.processing.fail now category detail, attempt⟩ ∧ ∀ a', attempt = some a' →
      ∃ a, e.attempt = some a ∧ (a' = a ∨ a' = a.fail now category detail) := by
  cases hattempt : e.attempt with
  | none =>
      have hplan : e.processing.Unplanned := by
        have hphase := h.phase
        rw [hattempt] at hphase
        cases hphase with
        | accepted _ hplan => exact hplan
        | rejected _ hplan => exact hplan
        | noAction _ hstate => exact absurd hstate hopen
      obtain ⟨h₁, -, h₃, h₄, h₅, h₆, h₇, h₈, -⟩ :=
        ProcessingFields.durable_eq_self_iff.mp h.durable
      refine ⟨none, ⟨?_, rfl, ?_, rfl, .rejected rfl ⟨hplan.decision, hplan.incident, hplan.request,
        hplan.backend, hplan.result⟩⟩, by simp⟩
      · rw [ProcessingFields.durable_eq_self_iff]
        exact ⟨h₁, by simp [ProcessingFields.fail], h₃, h₄, h₅, h₆, h₇, h₈,
          by simp [ProcessingFields.fail]⟩
      · simpa [ProcessingFields.fail, hopen] using h.completedAt
  | some a =>
      by_cases hactive : a.state ∈ ExecutionAttemptState.active
      · exact ⟨_, h.fail_active now hattempt hactive category detail, by simp⟩
      · obtain ⟨q, b, -, hserves⟩ := h.executing hattempt
        have hfailed : a.state = .failed := by
          have hstate := hserves.state
          revert hstate hactive
          cases a.state <;> simp_all [ExecutionAttemptState.active,
            ExecutionAttemptState.processingState]
        refine ⟨some a, ?_, by simp⟩
        refine h.moved hattempt hopen rfl (by simp [ProcessingFields.fail])
          (by simp [ProcessingFields.fail]) (by simp [ProcessingFields.fail]) rfl (fun h => h) fun b
            hserves => ?_
        exact { hserves with state := by rw [hfailed]; rfl }

theorem advance_coherent (h : e.Coherent) (hfits : c.Fits e)
    (hadvance : e.advance now c = some e') :
    e'.Coherent := by
  obtain ⟨hdurable, hattemptDurable, hcompletedAt, hfailedAt, hphase⟩ := id h
  cases c <;> simp only [advance, reduceCtorEq, Option.ite_none_right_eq_some, move_eq_some_iff,
    ProcessingFields.storeNoActionResult, ProcessingFields.storePlan, ProcessingFields.claim,
    ProcessingFields.markSubmitted, ProcessingFields.recordPoll, ProcessingFields.complete,
    ProcessingFields.markRecoveryRequired, AttemptFields.claim, AttemptFields.markSubmitted,
    AttemptFields.recordPoll, AttemptFields.complete, AttemptFields.markRecoveryRequired]
    at hadvance
  case storeNoActionResult k r =>
    obtain ⟨⟨hid, hstate⟩, heq⟩ := hadvance
    simp only [Option.some.injEq] at heq
    subst heq
    obtain ⟨hplan, hnone⟩ := hphase.of_accepted hstate
    rw [ProcessingFields.durable_eq_self_iff] at hdurable
    refine ⟨?_, hattemptDurable, rfl, by simpa [hstate] using hfailedAt, ?_⟩
    · simp [ProcessingFields.durable, hdurable, hplan.decision, hplan.incident, hplan.request]
    · rw [hnone]
      exact .noAction _ rfl rfl hfits.1 hfits.2 hplan.backend
  case storePlan k d i q b a op =>
    obtain ⟨⟨rfl, hstate⟩, heq⟩ := hadvance
    simp only [Option.some.injEq] at heq
    subst heq
    obtain ⟨hplan, hnone⟩ := hphase.of_accepted hstate
    obtain ⟨hi, hd, hq⟩ := hfits
    rw [ProcessingFields.durable_eq_self_iff] at hdurable
    refine ⟨?_, ?_, ?_, ?_, .executing q.utc b _ (.of_planned hplan.result ?_ ?_ ?_ rfl rfl ?_) ?_⟩
    · simp [ProcessingFields.durable, hdurable, hplan.result]
    · simp [plannedAttempt, AttemptFields.durable]
    · simpa [hstate] using hcompletedAt
    · simpa [hstate] using hfailedAt
    · simp
    · simp [hq, hd]
    · simp [hq]
    · simp [hq, hi]
    · constructor <;> simp [plannedAttempt, ExecutionAttemptState.processingState]
  case claimAttemptForSubmission _ =>
    obtain ⟨a, hattempt, rfl, hstate, rfl⟩ := hadvance
    have hstate : a.state = .planned := by simpa using hstate
    have hactive : a.state ∈ ExecutionAttemptState.active := by simp [hstate]; decide
    obtain ⟨hopen, hnotFailed⟩ := h.unended hattempt hactive
    refine h.moved hattempt hopen rfl (by simp) (by simp) ?_ ?_ ?_ ?_
    · simp [hnotFailed]
    · simp [hnotFailed]
    · simp +contextual [AttemptFields.durable_eq_self_iff]
    · rintro b ⟨⟩
      constructor <;> simp_all [ExecutionAttemptState.processingState]
  case markAttemptSubmitted _ x =>
    obtain ⟨a, hattempt, rfl, hstate, rfl⟩ := hadvance
    have hstate : a.state = .submitting := by simpa using hstate
    have hactive : a.state ∈ ExecutionAttemptState.active := by simp [hstate]; decide
    obtain ⟨hopen, hnotFailed⟩ := h.unended hattempt hactive
    refine h.moved hattempt hopen rfl (by simp) (by simp) ?_ ?_ ?_ ?_
    · simp [hnotFailed]
    · simp [hnotFailed]
    · simp +contextual [AttemptFields.durable_eq_self_iff]
    · rintro b ⟨⟩
      constructor <;> simp_all [ExecutionAttemptState.processingState]
  case recordPoll _ remote category detail =>
    obtain ⟨a, hattempt, rfl, hstate, rfl⟩ := hadvance
    have hstate : a.state = .submitted := by simpa using hstate
    have hactive : a.state ∈ ExecutionAttemptState.active := by simp [hstate]; decide
    obtain ⟨hnotCompleted, hnotFailed⟩ := h.unended hattempt hactive
    refine h.moved hattempt hnotCompleted rfl hnotCompleted (by simp) ?_ h.failedAt ?_ ?_
    · simp [hnotFailed]
    · simp +contextual [AttemptFields.durable_eq_self_iff]
    · rintro b ⟨⟩
      constructor <;> simp_all
  case completeProcessing _ r =>
    obtain ⟨a, hattempt, rfl, hstate, rfl⟩ := hadvance
    have hstate : a.state = .submitted := by simpa using hstate
    obtain ⟨q, b, hexecutes, hserves⟩ := h.executing hattempt
    have ha : a.durable = a := by simpa [hattempt] using h.attemptDurable
    rw [AttemptFields.durable_eq_self_iff] at ha
    rw [ProcessingFields.durable_eq_self_iff] at hdurable
    have hprocessing : e.processing.state = .submitted := by rw [hserves.state, hstate]; rfl
    obtain ⟨hd, hi, hq⟩ := hfits
    refine ⟨?_, ?_, rfl, ?_, .executing q b _ ⟨?_, ?_, ?_, ?_, ?_, rfl⟩ ?_⟩
    · simp [ProcessingFields.durable, hdurable]
    · simp [AttemptFields.durable, ha]
    · simpa [hprocessing] using hfailedAt
    · exact hd.symm.trans hexecutes.decision
    · exact hi.symm.trans hexecutes.incident
    · exact hq.symm.trans hexecutes.request
    · exact hexecutes.backend
    · exact hexecutes.alert
    · obtain ⟨⟩ := hserves
      constructor <;> simp_all [ExecutionAttemptState.processingState]
  case failProcessing k expected category detail attemptId =>
    obtain ⟨⟨hid, hexpected⟩, hadvance⟩ := hadvance
    cases attemptId with
    | none =>
        simp only [Option.some.injEq] at hadvance
        subst hadvance
        have hstate : e.processing.state = .accepted := by
          rw [show expected = [.accepted] from hfits] at hexpected
          simpa using hexpected
        obtain ⟨hplan, hnone⟩ := hphase.of_accepted hstate
        obtain ⟨attempt, hfailed, hkept⟩ := h.fail now (by simp [hstate]) category detail
        cases attempt with
        | none => rwa [hnone]
        | some a' =>
            obtain ⟨a, ha, -⟩ := hkept a' rfl
            cases hnone.symm.trans ha
    | some attemptId =>
        obtain ⟨a, hattempt, rfl, hactive, rfl⟩ := move_eq_some_iff.mp hadvance
        exact h.fail_active now hattempt hactive category detail
  case markRecoveryRequired _ expected category detail =>
    obtain ⟨a, hattempt, rfl, hexpected, rfl⟩ := hadvance
    have hstate : a.state = .submitting ∨ a.state = .submitted := by
      simpa using hfits _ hexpected
    have hactive : a.state ∈ ExecutionAttemptState.active := by
      rcases hstate with hstate | hstate <;> simp [hstate] <;> decide
    obtain ⟨hopen, hnotFailed⟩ := h.unended hattempt hactive
    refine h.moved hattempt hopen rfl (by simp) (by simp) ?_ ?_ ?_ ?_
    · simp [hnotFailed]
    · simp [hnotFailed]
    · simp +contextual [AttemptFields.durable_eq_self_iff]
    · rintro b ⟨⟩
      rcases hstate with hstate | hstate <;>
        constructor <;> simp_all [ExecutionAttemptState.processingState]

end Entry

/-! ### What never changes -/

/-- The states no processor moves a processing out of. -/
def ProcessingState.isSettled : ProcessingState → Bool
  | .completed | .failed | .recoveryRequired => true
  | _ => false

/-- How far a processing has come. -/
def ProcessingState.rank : ProcessingState → Nat
  | .accepted => 0
  | .planned => 1
  | .submitting => 2
  | .submitted => 3
  | .completed | .failed | .recoveryRequired => 4

/-- Only `mark_attempt_submitted` sets an operation ID. -/
theorem Entry.external_of_advance {now : Int} {c : RepositoryCall} {e e' : Entry}
    (hadvance : e.advance now c = some e') {a' : AttemptFields} (ha' : e'.attempt = some a')
    {x : String} (hx : a'.externalOperationId = some x) :
    ∃ a, e.attempt = some a ∧ (a.externalOperationId = some x ∨
      (c = .markAttemptSubmitted a.attemptId x ∧ a.state = .submitting)) := by
  cases c <;> simp only [advance, reduceCtorEq, Option.ite_none_right_eq_some, move_eq_some_iff]
    at hadvance
  case storeNoActionResult =>
    obtain ⟨-, heq⟩ := hadvance
    cases heq
    exact ⟨a', ha', .inl hx⟩
  case storePlan =>
    obtain ⟨-, heq⟩ := hadvance
    cases heq
    cases ha'
    cases hx
  case failProcessing k expected category detail attemptId =>
    obtain ⟨-, hadvance⟩ := hadvance
    cases attemptId with
    | none =>
        cases hadvance
        exact ⟨a', ha', .inl hx⟩
    | some attemptId =>
        obtain ⟨a, hattempt, -, -, rfl⟩ := Entry.move_eq_some_iff.mp hadvance
        cases ha'
        exact ⟨a, hattempt, .inl hx⟩
  case markAttemptSubmitted =>
    obtain ⟨a, hattempt, rfl, hstate, rfl⟩ := hadvance
    cases ha'
    cases hx
    exact ⟨a, hattempt, .inr ⟨rfl, List.mem_singleton.mp hstate⟩⟩
  all_goals
    obtain ⟨a, hattempt, -, -, rfl⟩ := hadvance
    cases ha'
    exact ⟨a, hattempt, .inl hx⟩

/-- A processing is completed by its no-action result, or together with its submitted attempt. -/
theorem Entry.completed_of_advance {now : Int} {c : RepositoryCall} {e e' : Entry}
    (hadvance : e.advance now c = some e') (hbefore : e.processing.state ≠ .completed)
    (hafter : e'.processing.state = .completed) :
    (e.processing.state = .accepted ∧ e'.attempt = e.attempt) ∨
      ∃ a result, e.attempt = some a ∧ c = .completeProcessing a.attemptId result ∧
        e' = ⟨e.processing.complete now result, some (a.complete now)⟩ := by
  cases c <;> simp only [advance, reduceCtorEq, Option.ite_none_right_eq_some, move_eq_some_iff]
    at hadvance
  case storeNoActionResult =>
    obtain ⟨⟨-, hstate⟩, heq⟩ := hadvance
    cases heq
    exact .inl ⟨hstate, rfl⟩
  case storePlan =>
    obtain ⟨-, heq⟩ := hadvance
    cases heq
    cases hafter
  case failProcessing k expected category detail attemptId =>
    obtain ⟨-, hadvance⟩ := hadvance
    cases attemptId with
    | none =>
        cases hadvance
        cases hafter
    | some attemptId =>
        obtain ⟨a, -, -, -, rfl⟩ := Entry.move_eq_some_iff.mp hadvance
        cases hafter
  case completeProcessing id result =>
    obtain ⟨a, hattempt, rfl, -, rfl⟩ := hadvance
    exact .inr ⟨a, result, hattempt, rfl, rfl⟩
  case recordPoll =>
    obtain ⟨a, -, -, -, rfl⟩ := hadvance
    exact absurd hafter hbefore
  all_goals
    obtain ⟨a, -, -, -, rfl⟩ := hadvance
    cases hafter

/-- Only `fail_processing` fails a processing, in a state it expects. -/
theorem Entry.failed_of_advance {now : Int} {c : RepositoryCall} {e e' : Entry}
    (hadvance : e.advance now c = some e') (hbefore : e.processing.state ≠ .failed)
    (hafter : e'.processing.state = .failed) :
    ∃ k expected category detail attemptId,
      c = .failProcessing k expected category detail attemptId ∧
      e.processing.processingId = k ∧ e.processing.state ∈ expected ∧
      e'.processing = e.processing.fail now category detail ∧
      ((attemptId = none ∧ e'.attempt = e.attempt) ∨ ∃ a, e.attempt = some a ∧
        attemptId = some a.attemptId ∧ e'.attempt = some (a.fail now category detail)) := by
  cases c <;> simp only [advance, reduceCtorEq, Option.ite_none_right_eq_some, move_eq_some_iff]
    at hadvance
  case storeNoActionResult =>
    obtain ⟨-, heq⟩ := hadvance
    cases heq
    cases hafter
  case storePlan =>
    obtain ⟨-, heq⟩ := hadvance
    cases heq
    cases hafter
  case failProcessing k expected category detail attemptId =>
    obtain ⟨⟨hid, hexpected⟩, hadvance⟩ := hadvance
    refine ⟨k, expected, category, detail, attemptId, rfl, hid, hexpected, ?_⟩
    cases attemptId with
    | none =>
        cases hadvance
        exact ⟨rfl, .inl ⟨rfl, rfl⟩⟩
    | some attemptId =>
        obtain ⟨a, hattempt, rfl, -, rfl⟩ := Entry.move_eq_some_iff.mp hadvance
        exact ⟨rfl, .inr ⟨a, hattempt, rfl, rfl⟩⟩
  case recordPoll =>
    obtain ⟨a, -, -, -, rfl⟩ := hadvance
    exact absurd hafter hbefore
  all_goals
    obtain ⟨a, -, -, -, rfl⟩ := hadvance
    cases hafter

/-- A claimed attempt stays claimed. -/
theorem Entry.started_of_advance {now : Int} {c : RepositoryCall} {e e' : Entry}
    (h : e.Coherent) (hadvance : e.advance now c = some e') {a : AttemptFields}
    (ha : e.attempt = some a) (hstarted : a.startedAt.isSome = true) :
    ∃ a', e'.attempt = some a' ∧ a'.startedAt.isSome = true := by
  cases c <;> simp only [advance, reduceCtorEq, Option.ite_none_right_eq_some, move_eq_some_iff]
    at hadvance
  case storeNoActionResult =>
    obtain ⟨-, heq⟩ := hadvance
    cases heq
    exact ⟨a, ha, hstarted⟩
  case storePlan =>
    obtain ⟨⟨-, hstate⟩, -⟩ := hadvance
    rw [(h.phase.of_accepted hstate).2] at ha
    cases ha
  case failProcessing k expected category detail attemptId =>
    obtain ⟨-, hadvance⟩ := hadvance
    cases attemptId with
    | none =>
        cases hadvance
        exact ⟨a, ha, hstarted⟩
    | some attemptId =>
        obtain ⟨b, hb, -, -, rfl⟩ := Entry.move_eq_some_iff.mp hadvance
        obtain rfl := Option.some.inj (ha.symm.trans hb)
        exact ⟨_, rfl, hstarted⟩
  case claimAttemptForSubmission =>
    obtain ⟨b, hb, -, -, rfl⟩ := hadvance
    exact ⟨_, rfl, rfl⟩
  all_goals
    obtain ⟨b, hb, -, -, rfl⟩ := hadvance
    obtain rfl := Option.some.inj (ha.symm.trans hb)
    exact ⟨_, rfl, hstarted⟩

/-- What acceptance fixes. -/
structure ProcessingFields.SameIdentity (p p' : ProcessingFields) : Prop where
  processingId : p'.processingId = p.processingId
  alert : p'.alert = p.alert
  scope : p'.idempotencyScope = p.idempotencyScope
  key : p'.idempotencyKey = p.idempotencyKey
  version : p'.fingerprintVersion = p.fingerprintVersion
  fingerprint : p'.requestFingerprint = p.requestFingerprint

/-- What planning fixes. -/
structure ProcessingFields.SamePlan (p p' : ProcessingFields) : Prop where
  decision : p'.decision = p.decision
  incident : p'.incident = p.incident
  request : p'.investigationRequest = p.investigationRequest
  backend : p'.selectedBackend = p.selectedBackend

/-- What claiming and submitting fix. -/
structure AttemptFields.SameOperation (a a' : AttemptFields) : Prop where
  attemptId : a'.attemptId = a.attemptId
  operationKey : a'.operationKey = a.operationKey
  external : ∀ x, a.externalOperationId = some x → a'.externalOperationId = some x

/-- An entry and what it may have become some steps later. -/
structure Entry.EvolvesTo (e e' : Entry) : Prop where
  identity : e.processing.SameIdentity e'.processing
  plan : ∀ a, e.attempt = some a →
    e.processing.SamePlan e'.processing ∧ ∃ a', e'.attempt = some a' ∧ a.SameOperation a'
  settled : e.processing.state.isSettled = true → e' = e
  rank : e.processing.state.rank ≤ e'.processing.state.rank

namespace Entry

variable {now : Int} {c : RepositoryCall} {e e' e'' : Entry}

theorem EvolvesTo.refl (e : Entry) : e.EvolvesTo e :=
  ⟨⟨rfl, rfl, rfl, rfl, rfl, rfl⟩,
    fun a ha => ⟨⟨rfl, rfl, rfl, rfl⟩, a, ha, rfl, rfl, fun _ h => h⟩, fun _ => rfl, le_rfl⟩

theorem EvolvesTo.trans (h : e.EvolvesTo e') (h' : e'.EvolvesTo e'') : e.EvolvesTo e'' where
  identity := ⟨h'.identity.1.trans h.identity.1, h'.identity.2.trans h.identity.2,
    h'.identity.3.trans h.identity.3, h'.identity.4.trans h.identity.4,
    h'.identity.5.trans h.identity.5, h'.identity.6.trans h.identity.6⟩
  plan a ha := by
    obtain ⟨hplan, a', ha', hsame⟩ := h.plan a ha
    obtain ⟨hplan', a'', ha'', hsame'⟩ := h'.plan a' ha'
    exact ⟨⟨hplan'.1.trans hplan.1, hplan'.2.trans hplan.2, hplan'.3.trans hplan.3,
        hplan'.4.trans hplan.4⟩,
      a'', ha'', hsame'.1.trans hsame.1, hsame'.2.trans hsame.2,
      fun x hx => hsame'.3 x (hsame.3 x hx)⟩
  settled hsettled := by
    have heq := h.settled hsettled
    subst heq
    exact h'.settled hsettled
  rank := h.rank.trans h'.rank

/-- An operation that moves an attempt and its processing together evolves the entry. -/
theorem EvolvesTo.of_move {a a' : AttemptFields} {p' : ProcessingFields}
    (hattempt : e.attempt = some a) (hidentity : e.processing.SameIdentity p')
    (hplan : e.processing.SamePlan p') (hoperation : a.SameOperation a')
    (hsettled : e.processing.state.isSettled = false)
    (hrank : e.processing.state.rank ≤ p'.state.rank) : e.EvolvesTo ⟨p', some a'⟩ where
  identity := hidentity
  plan b hb := by
    obtain rfl := Option.some.inj (hattempt.symm.trans hb)
    exact ⟨hplan, a', rfl, hoperation⟩
  settled h := by simp [hsettled] at h
  rank := hrank

/-- An operation on an entry without an attempt evolves it if it keeps its identity. -/
theorem EvolvesTo.of_unattempted (hattempt : e.attempt = none)
    (hidentity : e.processing.SameIdentity e'.processing)
    (hstate : e.processing.state = .accepted) : e.EvolvesTo e' where
  identity := hidentity
  plan b hb := by simp [hattempt] at hb
  settled h := by simp [hstate, ProcessingState.isSettled] at h
  rank := by simp [hstate, ProcessingState.rank]

/-- **Every move is an edge of the transition table out of an unsettled state**, and keeps what
acceptance, planning and submission have fixed. -/
theorem advance_evolves (h : e.Coherent) (hfits : c.Fits e) (hadvance : e.advance now c = some e') :
    processingTransitionAllowed e.processing.state e'.processing.state = true ∧
      e.processing.state.isSettled = false ∧ e.EvolvesTo e' := by
  cases c <;> simp only [advance, reduceCtorEq, Option.ite_none_right_eq_some, move_eq_some_iff,
    ProcessingFields.storeNoActionResult, ProcessingFields.storePlan, ProcessingFields.claim,
    ProcessingFields.markSubmitted, ProcessingFields.recordPoll, ProcessingFields.complete,
    ProcessingFields.markRecoveryRequired, AttemptFields.claim, AttemptFields.markSubmitted,
    AttemptFields.recordPoll, AttemptFields.complete, AttemptFields.markRecoveryRequired]
    at hadvance
  case storeNoActionResult k r =>
    obtain ⟨⟨rfl, hstate⟩, heq⟩ := hadvance
    simp only [Option.some.injEq] at heq
    subst heq
    obtain ⟨-, hnone⟩ := h.phase.of_accepted hstate
    refine ⟨by simp only [hstate]; decide, by simp only [hstate]; rfl,
      .of_unattempted hnone ⟨rfl, rfl, rfl, rfl, rfl, rfl⟩ hstate⟩
  case storePlan k d i q b a op =>
    obtain ⟨⟨rfl, hstate⟩, heq⟩ := hadvance
    simp only [Option.some.injEq] at heq
    subst heq
    obtain ⟨-, hnone⟩ := h.phase.of_accepted hstate
    refine ⟨by simp only [hstate]; decide, by simp only [hstate]; rfl,
      .of_unattempted hnone ⟨rfl, rfl, rfl, rfl, rfl, rfl⟩ hstate⟩
  case claimAttemptForSubmission _ =>
    obtain ⟨a, hattempt, rfl, hstate, rfl⟩ := hadvance
    obtain ⟨q, b, -, hserves⟩ := h.executing hattempt
    have hstate : e.processing.state = .planned := by
      rw [hserves.state, List.mem_singleton.mp hstate]
      rfl
    refine ⟨by simp only [hstate]; decide, by simp only [hstate]; rfl,
      .of_move hattempt ⟨rfl, rfl, rfl, rfl, rfl, rfl⟩ ⟨rfl, rfl, rfl, rfl⟩
        ⟨rfl, rfl, fun _ hx => hx⟩ (by simp only [hstate]; rfl) (by simp only [hstate]; decide)⟩
  case markAttemptSubmitted _ x =>
    obtain ⟨a, hattempt, rfl, hstate, rfl⟩ := hadvance
    obtain ⟨q, b, -, hserves⟩ := h.executing hattempt
    have hunsubmitted := hserves.unsubmitted (.inr (List.mem_singleton.mp hstate))
    have hstate : e.processing.state = .submitting := by
      rw [hserves.state, List.mem_singleton.mp hstate]
      rfl
    refine ⟨by simp only [hstate]; decide, by simp only [hstate]; rfl,
      .of_move hattempt ⟨rfl, rfl, rfl, rfl, rfl, rfl⟩ ⟨rfl, rfl, rfl, rfl⟩
        ⟨rfl, rfl, fun _ hx => ?_⟩ (by simp only [hstate]; rfl) (by simp only [hstate]; decide)⟩
    simp [hunsubmitted] at hx
  case recordPoll _ remote category detail =>
    obtain ⟨a, hattempt, rfl, hstate, rfl⟩ := hadvance
    obtain ⟨q, b, -, hserves⟩ := h.executing hattempt
    have hstate : e.processing.state = .submitted := by
      rw [hserves.state, List.mem_singleton.mp hstate]
      rfl
    refine ⟨by simp only [hstate]; decide, by simp only [hstate]; rfl,
      .of_move hattempt ⟨rfl, rfl, rfl, rfl, rfl, rfl⟩ ⟨rfl, rfl, rfl, rfl⟩
        ⟨rfl, rfl, fun _ hx => hx⟩ (by simp only [hstate]; rfl) (by simp only [hstate]; decide)⟩
  case completeProcessing _ r =>
    obtain ⟨a, hattempt, rfl, hstate, rfl⟩ := hadvance
    obtain ⟨q, b, -, hserves⟩ := h.executing hattempt
    have hstate : e.processing.state = .submitted := by
      rw [hserves.state, List.mem_singleton.mp hstate]
      rfl
    obtain ⟨hd, hi, hq⟩ := hfits
    refine ⟨by simp only [hstate]; decide, by simp only [hstate]; rfl,
      .of_move hattempt ⟨rfl, rfl, rfl, rfl, rfl, rfl⟩ ⟨hd.symm, hi.symm, hq.symm, rfl⟩
        ⟨rfl, rfl, fun _ hx => hx⟩ (by simp only [hstate]; rfl) (by simp only [hstate]; decide)⟩
  case failProcessing k expected category detail attemptId =>
    obtain ⟨⟨rfl, hexpected⟩, hadvance⟩ := hadvance
    cases attemptId with
    | none =>
        simp only [Option.some.injEq] at hadvance
        subst hadvance
        have hstate : e.processing.state = .accepted := by
          rw [show expected = [.accepted] from hfits] at hexpected
          simpa using hexpected
        obtain ⟨-, hnone⟩ := h.phase.of_accepted hstate
        refine ⟨by simp only [hstate, ProcessingFields.fail]; decide, by simp only [hstate]; rfl,
          .of_unattempted hnone ⟨rfl, rfl, rfl, rfl, rfl, rfl⟩ hstate⟩
    | some attemptId =>
        obtain ⟨a, hattempt, rfl, -, rfl⟩ := move_eq_some_iff.mp hadvance
        have hstate := hfits _ hexpected
        have hunsettled : e.processing.state.isSettled = false ∧
            processingTransitionAllowed e.processing.state .failed = true ∧
            e.processing.state.rank ≤ ProcessingState.failed.rank := by
          revert hstate
          cases e.processing.state <;> decide
        exact ⟨hunsettled.2.1, hunsettled.1,
          .of_move hattempt ⟨rfl, rfl, rfl, rfl, rfl, rfl⟩ ⟨rfl, rfl, rfl, rfl⟩
            ⟨rfl, rfl, fun _ hx => hx⟩ hunsettled.1 hunsettled.2.2⟩
  case markRecoveryRequired _ expected category detail =>
    obtain ⟨a, hattempt, rfl, hexpected, rfl⟩ := hadvance
    obtain ⟨q, b, -, hserves⟩ := h.executing hattempt
    have hunsettled : e.processing.state.isSettled = false ∧
        processingTransitionAllowed e.processing.state .recoveryRequired = true ∧
        e.processing.state.rank ≤ ProcessingState.recoveryRequired.rank := by
      rw [hserves.state]
      have hstate := hfits _ hexpected
      revert hstate
      cases a.state <;> decide
    exact ⟨hunsettled.2.1, hunsettled.1,
      .of_move hattempt ⟨rfl, rfl, rfl, rfl, rfl, rfl⟩ ⟨rfl, rfl, rfl, rfl⟩
        ⟨rfl, rfl, fun _ hx => hx⟩ hunsettled.1 hunsettled.2.2⟩

end Entry

end Alert2IR
