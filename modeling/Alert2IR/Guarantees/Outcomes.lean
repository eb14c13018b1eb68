import Alert2IR.Guarantees.Submission

/-!
# Durable outcomes are never fabricated

A processing ends as its backend said it did: completed with the result that was collected for its
operation, failed because a poll or the submission itself said so. Whatever became of a submission
nobody can speak for, the processing waits for an operator.
-/

namespace Alert2IR

open Interleaving

namespace LawfulRepository

variable {σ : Type} {M : Repository σ} {L : LawfulRepository M}
  {fp : CanonicalAlert → Except PyError (Int × List UInt8)} {is : List Invocation}
  {h h₁ h₂ : List (Event σ)} {w : World σ} {event : Event σ} {k : UUID} {e e₀ e₁ : Entry}
  {c : RepositoryCall} {a : AttemptFields}

/-- What an entry was when it settled, it is. -/
theorem Sound.settled (hsound : L.Sound h w) (hmem : event ∈ h)
    (he₁ : L.store event.after k = some e₁) (hsettled : e₁.processing.state.isSettled = true)
    (he : L.store w k = some e) : e = e₁ := by
  obtain ⟨e', he', hevolves⟩ := hsound.evolves event hmem k e₁ he₁
  obtain rfl := Option.some.inj (he.symm.trans he')
  exact hevolves.settled hsettled

/-- **A completed execution has its collected result.** -/
theorem completed_collected (L : LawfulRepository M)
    (htrace : (M.system fp).Trace (Issues fp) is h w) (he : L.store w k = some e)
    (hstate : e.processing.state = .completed) (ha : e.attempt = some a) :
    ∃ (submitted : SubmittedOperation) (x : String) (result : OrchestrationResult)
      (investigationResult : InvestigationResult),
      Submitted h k (.ok (some submitted)) ∧ submitted.externalOperationId = x ∧
      Polled h k x .succeeded ∧ Collected h k x investigationResult ∧
      e.processing.selectedBackend = some investigationResult.backend ∧
      e.processing.completedResult = some result ∧
      result.investigationResult = some investigationResult := by
  have hsound : L.Sound h w := sound_of_trace htrace
  obtain ⟨h₁, event, h₂, c, e₀, e₁, rfl, hoperates, hnot, hstate₁⟩ := exists_operates L htrace
    (T := fun e => e.processing.state = .completed) he hstate (by rintro _ _ _ _ _ _ ⟨⟩)
  have hsame := hsound.settled (by simp) hoperates.after (by rw [hstate₁]; rfl) he
  subst hsame
  have hsound₁ := hoperates.sound
  obtain ⟨now, hadvance⟩ := hoperates.advance
  rcases Entry.completed_of_advance hadvance hnot hstate with
    ⟨haccepted, hattempt⟩ | ⟨a₀, result, ha₀, rfl, rfl⟩
  · obtain ⟨-, hnone⟩ := (hsound₁.coherent.entry k e₀ hoperates.before).phase.of_accepted haccepted
    rw [hattempt, hnone] at ha
    cases ha
  obtain ⟨i, hissues⟩ := hoperates.issues
  generalize hid : a₀.attemptId = id at hissues
  cases hissues with
  | quiet hquiet => cases hquiet
  | @complete record attempt backend request name x timeout status recorded investigationResult _
      _ hpolling hsucceeded hcollected hbackend _ _ _ hresult =>
      have hk := hsound₁.operates hpolling.belongs hoperates.before ha₀ hid
      subst hk
      obtain ⟨e', a', he', ha', -, hx, -, hname⟩ := hsound₁.polling hpolling
      obtain rfl := Option.some.inj (he'.symm.trans hoperates.before)
      obtain ⟨is₁, htrace₁⟩ := hoperates.trace
      obtain ⟨submitted, hsubmitted, hsame⟩ := identified L htrace₁ he' ha' hx
      have hsubset : h₁ ⊆ h₁ ++ event :: h₂ := List.subset_append_left ..
      exact ⟨submitted, x, result.utc, investigationResult, hsubmitted.mono hsubset, hsame,
        (polled_of_own (mem_of_acts_suffix hcollected (.head _)) hsucceeded).mono hsubset,
        (collected_of_own (mem_of_acts_suffix hcollected
          (.tail _ (.tail _ (.head _))))).mono hsubset,
        by rw [hbackend]; exact hname, rfl, hresult⟩

/-- How a processing came to fail. -/
structure FailedBy (h : List (Event σ)) (k : UUID) (e₀ e : Entry) : Prop where
  before : e₀.processing.state ≠ .failed
  coherent : e₀.Coherent
  category : (e.processing.errorCategory = some "backend_submission_failed" ∧
      e₀.processing.state = .submitting ∧ e₀.attempt.isSome = true ∧
      Submitted h k (.error .backendSubmissionRejected)) ∨
    (e.processing.errorCategory = some "backend_execution_failed" ∧
      e₀.processing.state = .submitted ∧ ∃ (submitted : SubmittedOperation) (x : String),
        Submitted h k (.ok (some submitted)) ∧ submitted.externalOperationId = x ∧
        Polled h k x .failed) ∨
    (e.processing.errorCategory ∈
        [some "unsupported_capability", some "backend_selection_error"] ∧
      e₀.processing.state ∈ [ProcessingState.accepted, .planned])
  attempt : (e.attempt = none ∧ e₀.attempt = none) ∨ ∃ a now category detail,
    e₀.attempt = some a ∧ e.attempt = some (a.fail now category detail)

/-- **A failed processing failed for a cause on record.** -/
theorem failed_by (L : LawfulRepository M) (htrace : (M.system fp).Trace (Issues fp) is h w)
    (he : L.store w k = some e) (hstate : e.processing.state = .failed) :
    ∃ e₀, FailedBy h k e₀ e := by
  have hsound : L.Sound h w := sound_of_trace htrace
  obtain ⟨h₁, event, h₂, c, e₀, e₁, rfl, hoperates, hnot, hstate₁⟩ := exists_operates L htrace
    (T := fun e => e.processing.state = .failed) he hstate (by rintro _ _ _ _ _ _ ⟨⟩)
  have hsame := hsound.settled (by simp) hoperates.after (by rw [hstate₁]; rfl) he
  subst hsame
  have hsound₁ := hoperates.sound
  have hcoherent := hsound₁.coherent.entry k e₀ hoperates.before
  have hsubset : h₁ ⊆ h₁ ++ event :: h₂ := List.subset_append_left ..
  obtain ⟨now, hadvance⟩ := hoperates.advance
  obtain ⟨k', expected, category, detail, attemptId, rfl, hid, hexpected, hprocessing, hattempt⟩ :=
    Entry.failed_of_advance hadvance hnot hstate
  have hk : k' = k := hid.symm.trans (hsound₁.coherent.id k e₀ hoperates.before)
  have hcategory : e.processing.errorCategory = some category := by rw [hprocessing]; rfl
  have hexecuted : ∀ id, attemptId = some id →
      ∃ a, e₀.attempt = some a ∧ e.attempt = some (a.fail now category detail) := by
    rintro id rfl
    rcases hattempt with ⟨hnone, -⟩ | ⟨a, ha, -, ha'⟩
    · cases hnone
    · exact ⟨a, ha, ha'⟩
  obtain ⟨i, hissues⟩ := hoperates.issues
  refine ⟨e₀, hnot, hcoherent, ?_, ?_⟩
  · cases hissues with
    | quiet hquiet => cases hquiet
    | failPlanning _ _ herror =>
        refine .inr (.inr ⟨?_, by simpa using .inl (List.mem_singleton.mp hexpected)⟩)
        rw [hcategory]
        simp only [List.mem_cons, Prod.mk.injEq, List.not_mem_nil, or_false] at herror
        rcases herror with ⟨rfl, -⟩ | ⟨rfl, -⟩ | ⟨rfl, -⟩ <;> simp
    | failUnconfigured =>
        exact .inr (.inr ⟨by simp [hcategory],
          by simpa using .inr (List.mem_singleton.mp hexpected)⟩)
    | failRejected _ _ hsubmitted =>
        obtain ⟨a, ha, -⟩ := hexecuted _ rfl
        subst hk
        exact .inl ⟨hcategory, List.mem_singleton.mp hexpected, by simp [ha],
          (submitted_of_own (mem_of_acts_suffix hsubmitted (.tail _ (.head _)))).mono hsubset⟩
    | failExecution _ hpolling hfailed hpolled =>
        subst hk
        obtain ⟨e', a', he', ha', -, hx, -⟩ := hsound₁.polling hpolling
        obtain ⟨is₁, htrace₁⟩ := hoperates.trace
        obtain ⟨submitted, hsubmitted, hsame⟩ := identified L htrace₁ he' ha' hx
        exact .inr (.inl ⟨hcategory, List.mem_singleton.mp hexpected, submitted, _,
          hsubmitted.mono hsubset, hsame,
          (polled_of_own (mem_of_acts_suffix hpolled (.head _)) hfailed).mono hsubset⟩)
  · rcases hattempt with ⟨hnone, hsame⟩ | ⟨a, ha, -, ha'⟩
    · subst hnone
      have haccepted : e₀.processing.state = .accepted := by
        have hfits := hoperates.fits
        rw [show expected = [.accepted] from hfits] at hexpected
        exact List.mem_singleton.mp hexpected
      obtain ⟨-, hnone⟩ := hcoherent.phase.of_accepted haccepted
      exact .inl ⟨hsame.trans hnone, hnone⟩
    · exact .inr ⟨a, now, category, detail, ha, ha'⟩

/-- **A submission nobody can speak for neither completes nor fails its processing.** -/
theorem undecided_of_claimed (L : LawfulRepository M)
    (htrace : (M.system fp).Trace (Issues fp) is h w) (he : L.store w k = some e)
    (ha : e.attempt = some a) (hclaimed : a.startedAt.isSome = true)
    (hunidentified : a.externalOperationId = none)
    (hrejected : ¬ Submitted h k (.error .backendSubmissionRejected)) :
    e.processing.state ∈ [ProcessingState.submitting, .recoveryRequired] := by
  have hsound : L.Sound h w := sound_of_trace htrace
  obtain ⟨q, b, -, hserves⟩ := (hsound.coherent.entry k e he).executing ha
  rw [hserves.state]
  cases hstate : a.state with
  | planned => simp [hserves.unstarted hstate] at hclaimed
  | submitting => simp [ExecutionAttemptState.processingState]
  | submitted => simpa [hunidentified] using hserves.identified (.inl hstate)
  | completed => simpa [hunidentified] using hserves.identified (.inr hstate)
  | recoveryRequired => simp [ExecutionAttemptState.processingState]
  | failed =>
      obtain ⟨e₀, hfailed⟩ := failed_by L htrace he (by rw [hserves.state, hstate]; rfl)
      rcases hfailed.attempt with ⟨hnone, -⟩ | ⟨a₀, now, category, detail, ha₀, ha'⟩
      · rw [ha] at hnone
        cases hnone
      obtain rfl : a = a₀.fail now category detail := Option.some.inj (ha.symm.trans ha')
      obtain ⟨q₀, b₀, -, hserves₀⟩ := hfailed.coherent.executing ha₀
      rcases hfailed.category with ⟨-, -, -, hsubmitted⟩ | ⟨-, hsubmitted, -⟩ | ⟨-, hbefore⟩
      · exact absurd hsubmitted hrejected
      · have hsome : a₀.externalOperationId.isSome = true := by
          refine hserves₀.identified (.inl ?_)
          apply ExecutionAttemptState.processingState_injective
          rw [← hserves₀.state, hsubmitted]
          rfl
        simp [show a₀.externalOperationId = none from hunidentified] at hsome
      · have hplanned : a₀.state = .planned := by
          rw [hserves₀.state] at hbefore
          revert hbefore
          cases a₀.state <;> decide
        have hstarted : a₀.startedAt.isSome = true := hclaimed
        simp [hserves₀.unstarted hplanned] at hstarted

/-- The attempt of a submitted processing has been claimed. -/
theorem claimed_of_submitted (L : LawfulRepository M)
    (htrace : (M.system fp).Trace (Issues fp) is h w)
    {r : Except PyError (Option SubmittedOperation)} (hsubmitted : Submitted h k r) :
    ∃ e a, L.store w k = some e ∧ e.attempt = some a ∧ a.startedAt.isSome = true := by
  have hsound : L.Sound h w := sound_of_trace htrace
  obtain ⟨⟨t, w₁, c, answer, w₂⟩, hmem, backend, request, key, timeout, hobserved⟩ := hsubmitted
  cases hobserved
  obtain ⟨h₁, h₂, hsplit⟩ := List.append_of_mem hmem
  obtain ⟨is₁, i, htrace₁, -, hissues, -⟩ := htrace.split hsplit
  have hsound₁ : L.Sound h₁ w₁ := sound_of_trace htrace₁
  obtain ⟨g₁, claim, g₂, id, claimed, hclaim, -, hclaimed, hk, -⟩ := hsound₁.claim_of_submit hissues
  subst hk
  have hclaimmem : claim ∈ h := by simp [hsplit, hclaim]
  have hevent := hsound.events claim hclaimmem
  obtain ⟨-, e', -, he', -, hstate'⟩ := hevent.claimed hclaimed
  obtain ⟨a', ha', hstarted⟩ := (hevent.coherent.entry _ e' he').started hstate'
  have hsplit' : h = g₁ ++ claim :: (g₂ ++ ⟨t, w₁, _, answer, w₂⟩ :: h₂) := by
    rw [hsplit, hclaim, List.append_assoc, List.cons_append]
  refine htrace.stays (T := fun w => ∃ e a, L.store w claimed.processingId = some e ∧
    e.attempt = some a ∧ a.startedAt.isSome = true) ?_ hsplit' ⟨e', a', he', ha', hstarted⟩
  rintro event hmem ⟨e, a, he, ha, hstarted⟩
  have hsoundEvent := hsound.events event hmem
  rcases hsoundEvent.entry he with hsame | ⟨c, now, e', -, he', -, hadvance, -⟩
  · exact ⟨e, a, hsame, ha, hstarted⟩
  · obtain ⟨a', ha', hstarted'⟩ := Entry.started_of_advance
      ((L.coherent hsoundEvent.good).entry _ e he) hadvance ha hstarted
    exact ⟨e', a', he', ha', hstarted'⟩

/-- A processing whose claimant made no further repository call is submitting, or was taken for
stale. -/
theorem undecided_of_crashed (L : LawfulRepository M)
    (htrace : (M.system fp).Trace (Issues fp) is h w) (hsplit : h = h₁ ++ event :: h₂) {id : UUID}
    {claimed : ExecutionAttempt} (hclaimed : event.observed
      = Observation.repository (.claimAttemptForSubmission id) (.ok (some claimed)))
    (hk : claimed.processingId = k)
    (hcrashed : ∀ later ∈ h₂, later.thread = event.thread → ∀ c, later.call ≠ .repository c)
    (he : L.store w k = some e) :
    e.processing.state ∈ [ProcessingState.submitting, .recoveryRequired] := by
  have hsound : L.Sound h w := sound_of_trace htrace
  by_cases hstate : e.processing.state = .submitting
  · simp [hstate]
  obtain ⟨f₁, ev, f₂, c, e₀, e₁, heq, hoperates, hstate₀⟩ :=
    exists_moved_on L htrace hsplit hclaimed hk he hstate
  obtain ⟨now, hadvance⟩ := hoperates.advance
  obtain ⟨i, hissues⟩ := hoperates.issues
  rcases claimed_of_issues hoperates.sound hissues hoperates.before hstate₀ hadvance with
    ⟨g₁, claim, g₂, id', claimed', hclaim, hthread, hclaimed', hk'⟩ |
    ⟨a, expected, category, detail, -, -, -, rfl⟩
  · have hsame : h = g₁ ++ claim :: (g₂ ++ ev :: f₂) := by
      rw [heq, hclaim, List.append_assoc, List.cons_append]
    obtain ⟨-, rfl, rfl⟩ := claim_unique htrace hsound hsplit hsame hclaimed hclaimed'
      (hk'.trans hk.symm)
    exact absurd hoperates.call (hcrashed ev (by simp) hthread.symm c)
  · obtain ⟨b, -, -, -, rfl⟩ := Entry.move_eq_some_iff.mp hadvance
    have hsettled := hsound.settled (by simp [heq]) hoperates.after rfl he
    rw [hsettled]
    exact .tail _ (.head _)

end LawfulRepository

namespace Postgres

/-- **Durable outcomes are never fabricated.** In every run over PostgreSQL, of every processing:

* one completed with an investigate decision was submitted, its operation was polled as succeeded,
  and the result collected for it is the stored one and names the selected backend;
* one failed as `backend_execution_failed` was submitted and its operation was polled as failed;
* one failed as `backend_submission_failed` had its submission rejected;
* one whose submission raised anything else, whose claimant has neither persisted an operation ID
  nor seen a rejection, or whose claimant was not heard of again, is submitting or waits for
  recovery. -/
theorem outcomes_never_fabricated (d : Dialect)
    (fp : CanonicalAlert → Except PyError (Int × List UInt8))
    {cfg : Configuration Db}
    (hreach : ((repository d).system fp).Reachable cfg) {k : UUID} {row : ProcessingRow}
    (hrow : cfg.state.store.processings.lookup k = some row) :
    (row.state = "completed" → row.decisionOutcome = some "investigate" →
      ∃ (submitted : SubmittedOperation) (x : String) (p : ProcessingFields)
        (result : OrchestrationResult) (investigationResult : InvestigationResult),
        Submitted cfg.history k (.ok (some submitted)) ∧ submitted.externalOperationId = x ∧
        Polled cfg.history k x .succeeded ∧ Collected cfg.history k x investigationResult ∧
        row.selectedBackend = some investigationResult.backend ∧
        deserializeFields row = .ok p ∧ p.completedResult = some result ∧
        result.investigationResult = some investigationResult) ∧
    (row.state = "failed" → row.errorCategory = some "backend_execution_failed" →
      ∃ (submitted : SubmittedOperation) (x : String),
        Submitted cfg.history k (.ok (some submitted)) ∧ submitted.externalOperationId = x ∧
        Polled cfg.history k x .failed) ∧
    (row.state = "failed" → row.errorCategory = some "backend_submission_failed" →
      Submitted cfg.history k (.error .backendSubmissionRejected)) ∧
    (∀ r, Submitted cfg.history k r → r ≠ .error .backendSubmissionRejected →
      (∀ submitted, r ≠ .ok (some submitted)) → row.state ∈ ["submitting", "recovery_required"]) ∧
    (∀ attempt, selectProcessingAttempt cfg.state.store k = some attempt →
      attempt.startedAt.isSome = true → attempt.externalOperationId = none →
      ¬ Submitted cfg.history k (.error .backendSubmissionRejected) →
      row.state ∈ ["submitting", "recovery_required"]) ∧
    ∀ h₁ claim h₂ id claimed, cfg.history = h₁ ++ claim :: h₂ →
      claim.observed = Observation.repository (.claimAttemptForSubmission id) (.ok (some claimed)) →
      claimed.processingId = k →
      (∀ later ∈ h₂, later.thread = claim.thread → ∀ c, later.call ≠ .repository c) →
      row.state ∈ ["submitting", "recovery_required"] := by
  have htrace := (hreach.disciplined invocation_disciplined).trace
  have hsound : (lawfulRepository d).Sound cfg.history cfg.state :=
    LawfulRepository.sound_of_trace htrace
  have hrep := represents_of_good hsound.good
  rw [hrep.processings, Option.map_eq_some_iff] at hrow
  obtain ⟨e, he, rfl⟩ := hrow
  have hcoherent := hsound.coherent.entry k e he
  have hundecided : ∀ a, e.attempt = some a → a.startedAt.isSome = true →
      a.externalOperationId = none → ¬ Submitted cfg.history k (.error .backendSubmissionRejected) →
      e.processing.row.state ∈ ["submitting", "recovery_required"] := by
    intro a ha hclaimed hunidentified hrejected
    have hstate := LawfulRepository.undecided_of_claimed (lawfulRepository d) htrace he ha hclaimed
      hunidentified hrejected
    exact List.mem_map_of_mem (f := ProcessingState.value) hstate
  have hstate : ∀ {state : ProcessingState}, e.processing.row.state = state.value →
      e.processing.state = state := fun h => ProcessingState.value_injective h
  refine ⟨fun hcompleted hinvestigate => ?_, fun hfailed hcategory => ?_,
    fun hfailed hcategory => ?_, fun r hsubmitted hrejected hunknown => ?_,
    fun attempt hattempt => ?_,
    fun h₁ claim h₂ id claimed hsplit hclaimed hk hcrashed => ?_⟩
  · have hcompleted := @hstate .completed hcompleted
    have hdecision : e.processing.decision.map (·.outcome.value) = some "investigate" :=
      hinvestigate
    obtain ⟨a, ha⟩ := hcoherent.executed hcompleted (by
      cases hd : e.processing.decision with
      | none => simp [hd] at hdecision
      | some decision =>
          rw [hd, Option.map_some, Option.some.injEq] at hdecision
          cases houtcome : decision.outcome with
          | investigate => simp [houtcome]
          | noAction => rw [houtcome] at hdecision; exact absurd hdecision (by decide))
    obtain ⟨submitted, x, result, investigationResult, hsubmitted, hx, hpolled,
      hcollected, hbackend,
      hresult, hinvestigation⟩ :=
      LawfulRepository.completed_collected (lawfulRepository d) htrace he hcompleted ha
    exact ⟨submitted, x, e.processing, result, investigationResult, hsubmitted, hx, hpolled,
      hcollected, hbackend, deserializeFields_row hcoherent, hresult, hinvestigation⟩
  · have hcategory : e.processing.errorCategory = some "backend_execution_failed" := hcategory
    obtain ⟨e₀, hby⟩ := LawfulRepository.failed_by (lawfulRepository d) htrace he
      (@hstate .failed hfailed)
    rcases hby.category with ⟨hother, -⟩ | ⟨-, -, hpolled⟩ | ⟨hother, -⟩
    · rw [hcategory] at hother
      exact absurd hother (by decide)
    · exact hpolled
    · rw [hcategory] at hother
      exact absurd hother (by decide)
  · have hcategory : e.processing.errorCategory = some "backend_submission_failed" := hcategory
    obtain ⟨e₀, hby⟩ := LawfulRepository.failed_by (lawfulRepository d) htrace he
      (@hstate .failed hfailed)
    rcases hby.category with ⟨-, -, -, hrejected⟩ | ⟨hother, -⟩ | ⟨hother, -⟩
    · exact hrejected
    · rw [hcategory] at hother
      exact absurd hother (by decide)
    · rw [hcategory] at hother
      exact absurd hother (by decide)
  · obtain ⟨e', a, he', ha, hclaimed⟩ :=
      LawfulRepository.claimed_of_submitted (lawfulRepository d) htrace hsubmitted
    obtain rfl := Option.some.inj (he.symm.trans he')
    refine hundecided a ha hclaimed ?_ fun hrejection => hrejected
      (LawfulRepository.submitted_unique (lawfulRepository d) htrace hsubmitted hrejection)
    cases hx : a.externalOperationId with
    | none => rfl
    | some x =>
        obtain ⟨submitted, hreturned, -⟩ :=
          LawfulRepository.identified (lawfulRepository d) htrace he ha hx
        exact absurd
          (LawfulRepository.submitted_unique (lawfulRepository d) htrace hsubmitted hreturned)
          (hunknown submitted)
  · have hview : view cfg.state.store k = some e := he
    rw [selectProcessingAttempt_eq hrep hsound.coherent, hview, Option.bind_some,
      Option.map_eq_some_iff] at hattempt
    obtain ⟨a, ha, rfl⟩ := hattempt
    intro hclaimed hunidentified hrejected
    refine hundecided a ha ?_ hunidentified hrejected
    simpa [AttemptFields.row] using hclaimed
  · have hstate := LawfulRepository.undecided_of_crashed (lawfulRepository d) htrace hsplit hclaimed
      hk hcrashed he
    exact List.mem_map_of_mem (f := ProcessingState.value) hstate

end Postgres

namespace Scenario

theorem outcomes_never_fabricated_delivered :
    ∃ (submitted : SubmittedOperation) (x : String) (r : InvestigationResult),
      Submitted delivered.history 0 (.ok (some submitted)) ∧ submitted.externalOperationId = x ∧
      Polled delivered.history 0 x .succeeded ∧ Collected delivered.history 0 x r := by
  have hcompleted : (delivered.state.store.processings.lookup 0).any (fun row =>
      row.state = "completed" ∧ row.decisionOutcome = some "investigate") = true := by
    decide +kernel
  obtain ⟨row, hrow, hstate⟩ := (Option.any_eq_true ..).mp hcompleted
  obtain ⟨hstate, hdecision⟩ := of_decide_eq_true hstate
  obtain ⟨submitted, x, _, _, r, hsubmitted, hx, hpolled, hcollected, -⟩ :=
    (Postgres.outcomes_never_fabricated dialect fingerprint delivered_reachable hrow).1
      hstate hdecision
  exact ⟨submitted, x, r, hsubmitted, hx, hpolled, hcollected⟩

end Scenario

end Alert2IR
