import Alert2IR.Guarantees.Submission
import Alert2IR.Persistence.Scenario

/-!
# What becomes of a returned operation ID

The claimant of an attempt is the only one to know the operation its submission returned, and is to
persist it before anything else. It finds the attempt as it left it unless a reconciliation pass has
taken the submission for stale in the meantime, and then nobody keeps the ID.
-/

namespace Alert2IR

open Interleaving

namespace LawfulRepository

variable {σ : Type} {M : Repository σ} {L : LawfulRepository M}
  {fp : CanonicalAlert → Except PyError (Int × List UInt8)} {is : List Invocation}
  {h h₁ h₂ : List (Event σ)} {w : World σ} {event : Event σ} {t : Nat} {i : Invocation} {k : UUID}

/-- A call that takes the submission of `k` for stale, or recovers it otherwise, while the attempt
of `k` is submitting. -/
def TakenFromSubmitting (L : LawfulRepository M) (event : Event σ) (k : UUID) : Prop :=
  ∃ e a expected category detail, L.store event.before k = some e ∧ e.attempt = some a ∧
    a.state = .submitting ∧ .submitting ∈ expected ∧
    event.call = .repository (.markRecoveryRequired a.attemptId expected category detail)

/-- What a caller may do next, told by what it has last done. -/
theorem next_of_issues {c : Call} {l : List Observation} {submitted : SubmittedOperation}
    {o : Observation} (hissues : Issues fp i l c) (hact : c.isAct = true)
    (hlast : (acts l).getLast? = some o) (hsubmitted : o.submitted = some submitted) :
    ∃ k attempt claimed backend request timeout, Belongs l k attempt ∧
      [Observation.repository (.claimAttemptForSubmission attempt.attemptId)
        (.ok (some claimed)), o]
        <:+ acts l ∧
      o = Observation.submit k backend request claimed.operationKey timeout (.ok (some submitted)) ∧
      c = .repository (.markAttemptSubmitted claimed.attemptId submitted.externalOperationId) := by
  have hburdened : ¬ Unburdened l := by
    intro hunburdened
    rw [hunburdened o hlast] at hsubmitted
    cases hsubmitted
  have hsome : acts l ≠ [] := by
    rintro hnil
    rw [hnil] at hlast
    cases hlast
  cases hissues with
  | quiet hquiet => simp [hquiet] at hact
  | accept _ _ hfirst => exact absurd hfirst hsome
  | findReconcilable _ _ hfirst => exact absurd hfirst hsome
  | @markSubmitted record attempt claimed backend request name timeout returned _
    hexecuting hsuffix =>
      have ho : o = Observation.submit record.processingId backend request claimed.operationKey
          timeout (.ok (some returned)) := by
        obtain ⟨first, hfirst⟩ := hsuffix
        rw [← hfirst, List.getLast?_append] at hlast
        exact (Option.some.inj hlast).symm
      rw [ho] at hsubmitted
      cases hsubmitted
      exact ⟨record.processingId, attempt, claimed, backend, request, timeout, hexecuting.belongs,
        by rw [ho]; exact hsuffix, ho, rfl⟩
  | _ => exact absurd (Acting.unburdened (by assumption)) hburdened

/-- **A returned operation is the next thing its submitter persists.** -/
theorem exists_persisting (htrace : (M.system fp).Trace (Issues fp) is h w)
    (hsplit : h = h₁ ++ event :: h₂) {backend : Backend} {request : InvestigationRequest}
    {key : UUID} {timeout : Option Rat} {submitted : SubmittedOperation}
    (hobserved : event.observed
      = Observation.submit k backend request key timeout (.ok (some submitted)))
    (hunburdened : Unburdened (own event.thread h)) :
    ∃ g mark h₃ attempt claimed, h₂ = g ++ mark :: h₃ ∧ mark.thread = event.thread ∧
      Belongs (own event.thread (h₁ ++ event :: g)) k attempt ∧
      [Observation.repository (.claimAttemptForSubmission attempt.attemptId) (.ok (some claimed)),
        event.observed] <:+ acts (own event.thread (h₁ ++ event :: g)) ∧
      mark.call
        = .repository (.markAttemptSubmitted claimed.attemptId submitted.externalOperationId) := by
  have hact : Observation.isAct event.observed = true := by rw [hobserved]; rfl
  have hsub : Observation.submitted event.observed = some submitted := by rw [hobserved]; rfl
  have hacts : ∀ g : List (Event σ), acts (own event.thread (h₁ ++ event :: g))
      = acts (own event.thread h₁) ++ event.observed :: acts (own event.thread g) := by
    intro g
    rw [List.append_cons, own_append, own_append, own_singleton_self, acts_append, acts_append,
      acts, acts, acts, List.filter_singleton, hact]
    simp
  rw [hsplit] at hunburdened
  cases hnext : acts (own event.thread h₂) with
  | nil =>
      have hlast := hunburdened event.observed (by rw [hacts, hnext]; simp)
      rw [hlast] at hsub
      cases hsub
  | cons o rest =>
      obtain ⟨g, mark, h₃, rfl, hthread, hmark, hquiet, -⟩ :=
        exists_of_acts_eq (show _ = [] ++ o :: rest by rw [hnext]; rfl)
      have hmarkact : mark.call.isAct = true := by
        have hmem : o ∈ acts (own event.thread (g ++ mark :: h₃)) := by rw [hnext]; exact .head _
        have ho := (List.mem_filter.mp hmem).2
        rw [← hmark] at ho
        exact ho
      obtain ⟨is₂, i₂, -, -, hissues, -⟩ := htrace.split
        (show h = (h₁ ++ event :: g) ++ mark ::
          h₃ by rw [hsplit, List.append_assoc, List.cons_append])
      rw [hthread] at hissues
      obtain ⟨k', attempt, claimed, _, _, _, hbelongs, hsuffix, ho, hcall⟩ :=
        next_of_issues hissues hmarkact (by rw [hacts, hquiet]; simp) hsub
      rw [hobserved] at ho
      cases ho
      exact ⟨g, mark, h₃, attempt, claimed, rfl, hthread, hbelongs, hsuffix, hcall⟩

/-- An attempt that was taken for stale never gets an operation ID. -/
theorem unidentified_of_taken (hsound : L.Sound h w) (hmem : event ∈ h)
    (hok : ∀ c e, event.observed ≠ Observation.repository c (.error e))
    (htaken : L.TakenFromSubmitting event k) {e : Entry} {a : AttemptFields}
    (he : L.store w k = some e) (ha : e.attempt = some a) : a.externalOperationId = none := by
  obtain ⟨e₀, a₀, expected, category, detail, he₀, ha₀, hstate, hexpected, hcall⟩ := htaken
  have hevent := hsound.events event hmem
  have hmove : ∀ now, e₀.advance now (.markRecoveryRequired a₀.attemptId expected category detail)
      = some ⟨e₀.processing.markRecoveryRequired now category detail,
        some (a₀.markRecoveryRequired category detail)⟩ :=
    fun now => Entry.move_eq_some_iff.mpr ⟨a₀, ha₀, rfl, hstate ▸ hexpected, rfl⟩
  have hobserved : ∃ x, event.observed
      = Observation.repository (.markRecoveryRequired a₀.attemptId expected category detail)
        (.ok x) := by
    obtain ⟨t, w₁, c, r, w₂⟩ := event
    subst hcall
    cases r with
    | error e => exact absurd rfl (hok _ e)
    | ok x => exact ⟨x, rfl⟩
  obtain ⟨x, hobserved⟩ := hobserved
  obtain ⟨now, e₁, he₁, hadvance⟩ := hevent.moved hobserved he₀ fun now => by rw [hmove]; rfl
  rw [hmove, Option.some.injEq] at hadvance
  subst hadvance
  obtain ⟨e', he', hevolves⟩ := hsound.evolves event hmem k _ he₁
  obtain rfl := Option.some.inj (he.symm.trans he')
  rw [hevolves.settled rfl, Option.some.injEq] at ha
  obtain ⟨q, b, -, hserves⟩ := ((L.coherent hevent.good).entry k e₀ he₀).executing ha₀
  rw [← ha]
  exact hserves.unsubmitted (.inr hstate)

/-- **A returned operation ID is kept unless its submission is taken for stale.** -/
theorem identified_iff (L : LawfulRepository M) (htrace : (M.system fp).Trace (Issues fp) is h w)
    (hok : ∀ event ∈ h, ∀ c e, event.observed ≠ Observation.repository c (.error e))
    (hsplit : h = h₁ ++ event :: h₂) {backend : Backend} {request : InvestigationRequest}
    {key : UUID} {timeout : Option Rat} {submitted : SubmittedOperation}
    (hobserved : event.observed
      = Observation.submit k backend request key timeout (.ok (some submitted)))
    (hunburdened : Unburdened (own event.thread h)) :
    (∃ e a, L.store w k = some e ∧ e.attempt = some a ∧
      a.externalOperationId = some submitted.externalOperationId) ↔
      ∀ taking ∈ h, ¬ L.TakenFromSubmitting taking k := by
  have hsound : L.Sound h w := sound_of_trace htrace
  constructor
  · rintro ⟨e, a, he, ha, hx⟩ taking hmem htaken
    rw [unidentified_of_taken hsound hmem (hok taking hmem) htaken he ha] at hx
    cases hx
  · intro hnever
    obtain ⟨g, mark, h₃, attempt, claimed, rfl, hthread, hbelongs, hsuffix, hcall⟩ :=
      exists_persisting htrace hsplit hobserved hunburdened
    have hsplit' : h = (h₁ ++ event :: g) ++ mark :: h₃ := by
      rw [hsplit, List.append_assoc, List.cons_append]
    obtain ⟨is₁, i₁, htrace₁, -, -, -⟩ := htrace.split hsplit'
    have hsound₁ : L.Sound (h₁ ++ event :: g) mark.before := sound_of_trace htrace₁
    have hmine := Belongs.claimed hbelongs (mem_of_acts_suffix hsuffix (.head _))
    obtain ⟨e, b, he, hb, hid, -⟩ := (hsound₁.knowsAttempt hmine).current
    obtain ⟨hk, g₁, claim, g₂, hclaim, hclaimThread, hclaimed, hlast⟩ :=
      hsound₁.claim_of_suffix hbelongs hsuffix
    have hstate : e.processing.state = .submitting := by
      by_contra hstate
      obtain ⟨f₁, ev, f₂, c, e₀, e₁, heq, hoperates, hstate₀⟩ :=
        exists_moved_on L htrace₁ hclaim hclaimed hk he hstate
      obtain ⟨now, hadvance⟩ := hoperates.advance
      obtain ⟨i, hissues⟩ := hoperates.issues
      rcases claimed_of_issues hoperates.sound hissues hoperates.before hstate₀ hadvance with
        ⟨g₁', claim', g₂', id', claimed', hclaim', hthread', hclaimed', hk'⟩ |
        ⟨a, expected, category, detail, ha, hastate, hexpected, rfl⟩
      · -- Only the claimant moves it, and all it has done since is to submit.
        have hsame : h₁ ++ event :: g = g₁' ++ claim' :: (g₂' ++ ev :: f₂) := by
          rw [heq, hclaim', List.append_assoc, List.cons_append]
        obtain ⟨-, rfl, rfl⟩ := claim_unique htrace₁ hsound₁ hclaim hsame hclaimed hclaimed'
          (hk'.trans hk.symm)
        have hmem : ev.observed ∈ acts (own event.thread (g₂' ++ ev :: f₂)) := by
          refine List.mem_filter.mpr ⟨mem_own.mpr ⟨ev, by simp, ?_, rfl⟩, ?_⟩
          · rw [← hthread', hclaimThread]
          · simp only [Observation.isAct, Interleaving.Event.observed, hoperates.call]
            rfl
        rw [hlast, List.mem_singleton, hobserved] at hmem
        have hsubmits := congrArg (fun o : Observation => o.call) hmem
        simp [Interleaving.Event.observed, hoperates.call] at hsubmits
      · exact hnever ev (by rw [hsplit', heq]; simp)
          ⟨e₀, a, expected, category, detail, hoperates.before, ha, hastate, hexpected,
            hoperates.call⟩
    obtain ⟨b', hb', hbstate⟩ := attempt_submitting (hsound₁.coherent.entry k e he) hstate
    obtain rfl := Option.some.inj (hb.symm.trans hb')
    have hmem : mark ∈ h := by rw [hsplit']; simp
    have hmove : ∀ now, e.advance now
        (.markAttemptSubmitted claimed.attemptId submitted.externalOperationId)
          = some ⟨e.processing.markSubmitted now,
            some (b.markSubmitted now submitted.externalOperationId)⟩ := fun now =>
      Entry.move_eq_some_iff.mpr ⟨b, hb, hid, hbstate ▸ .head _, rfl⟩
    have hanswered : ∃ x, mark.observed = Observation.repository
        (.markAttemptSubmitted claimed.attemptId submitted.externalOperationId) (.ok x) := by
      have hok := hok mark hmem
      obtain ⟨t, w₁, c, r, w₂⟩ := mark
      subst hcall
      cases r with
      | error e => exact absurd rfl (hok _ e)
      | ok x => exact ⟨x, rfl⟩
    obtain ⟨x, hanswered⟩ := hanswered
    obtain ⟨now, e', he', hadvance⟩ :=
      (hsound.events mark hmem).moved hanswered he fun now => by rw [hmove]; rfl
    rw [hmove, Option.some.injEq] at hadvance
    subst hadvance
    obtain ⟨e₂, he₂, hevolves⟩ := hsound.evolves mark hmem k _ he'
    obtain ⟨-, a₂, ha₂, hsame⟩ := hevolves.plan _ rfl
    exact ⟨e₂, a₂, he₂, ha₂, hsame.external _ rfl⟩

end LawfulRepository

namespace Postgres

/-- A `mark_recovery_required` that finds the attempt of `k` still submitting, as one of the states
it is to leave. -/
def TakesForStale (event : Event Db) (k : UUID) : Prop :=
  ∃ row expected category detail, selectProcessingAttempt event.before.store k = some row ∧
    row.state = "submitting" ∧ .submitting ∈ expected ∧
    event.call = .repository (.markRecoveryRequired row.attemptId expected category detail)

/-- **When a returned operation ID is kept.** In every run over PostgreSQL in which no repository
call raises: once the caller to whom `submit` returned an operation has itself returned, the attempt
row holds the ID of that operation if and only if no call has taken the submission for stale while
it was under way. -/
theorem returned_id_kept_iff (d : Dialect)
    (fp : CanonicalAlert → Except PyError (Int × List UInt8)) {cfg : Configuration Db}
    (hreach : ((repository d).system fp).Reachable cfg)
    (hok : ∀ event ∈ cfg.history, Observation.repositoryRaised event.observed = false)
    {event : Event Db} (hmem : event ∈ cfg.history) {k : UUID} {submitted : SubmittedOperation}
    (hsubmits : event.call.submits = some k)
    (hsubmitted : Observation.submitted event.observed = some submitted)
    (hreturned : (cfg.returned event.thread).isSome = true) :
    (∃ row, selectProcessingAttempt cfg.state.store k = some row ∧
      row.externalOperationId = some submitted.externalOperationId) ↔
      ∀ taking ∈ cfg.history, ¬ TakesForStale taking k := by
  have hdisciplined := hreach.disciplined invocation_disciplined
  have htrace := hdisciplined.trace
  have hsound : (lawfulRepository d).Sound cfg.history cfg.state :=
    LawfulRepository.sound_of_trace htrace
  have hselect : ∀ {db : Db}, (lawfulRepository d).Good db → ∀ row,
      selectProcessingAttempt db k = some row ↔
        ∃ e a, view db k = some e ∧ e.attempt = some a ∧ a.row = row := by
    intro db hgood row
    rw [selectProcessingAttempt_eq (represents_of_good hgood) ((lawfulRepository d).coherent hgood)]
    simp only [Option.map_eq_some_iff, Option.bind_eq_some_iff]
    constructor
    · rintro ⟨a, ⟨e, he, ha⟩, rfl⟩
      exact ⟨e, a, he, ha, rfl⟩
    · rintro ⟨e, a, he, ha, rfl⟩
      exact ⟨a, ⟨e, he, ha⟩, rfl⟩
  obtain ⟨h₁, h₂, hsplit⟩ := List.append_of_mem hmem
  obtain ⟨_, _, _, _, hobserved⟩ := Observation.exists_of_submitted hsubmits hsubmitted
  obtain ⟨r, hreturned⟩ := Option.isSome_iff_exists.mp hreturned
  obtain ⟨i, hends⟩ := hdisciplined.returned hreturned
  have hkept := LawfulRepository.identified_iff (lawfulRepository d) htrace
    (fun event hmem c e hraised => by
      have hfalse := hok event hmem
      rw [hraised] at hfalse
      cases hfalse) hsplit hobserved hends.1
  have htaken : ∀ taking ∈ cfg.history,
      TakesForStale taking k ↔ (lawfulRepository d).TakenFromSubmitting taking k := by
    intro taking hmem
    constructor
    · rintro ⟨row, expected, category, detail, hrow, hstate, hexpected, hcall⟩
      obtain ⟨e, a, he, ha, rfl⟩ := (hselect (hsound.events taking hmem).good row).mp hrow
      exact ⟨e, a, expected, category, detail, he, ha,
        ExecutionAttemptState.value_injective hstate, hexpected, hcall⟩
    · rintro ⟨e, a, expected, category, detail, he, ha, hstate, hexpected, hcall⟩
      exact ⟨a.row, expected, category, detail,
        (hselect (hsound.events taking hmem).good _).mpr ⟨e, a, he, ha, rfl⟩,
        congrArg ExecutionAttemptState.value hstate, hexpected, hcall⟩
  rw [forall₂_congr fun taking hmem => not_congr (htaken taking hmem), ← hkept]
  constructor
  · rintro ⟨row, hrow, hx⟩
    obtain ⟨e, a, he, ha, rfl⟩ := (hselect hsound.good row).mp hrow
    exact ⟨e, a, he, ha, hx⟩
  · rintro ⟨e, a, he, ha, hx⟩
    exact ⟨a.row, (hselect hsound.good _).mpr ⟨e, a, he, ha, rfl⟩, hx⟩

end Postgres

namespace Scenario

open Postgres

/-- Whether a call takes an attempt for one that has to be recovered. -/
def recovers : Call → Bool
  | .repository (.markRecoveryRequired ..) => true
  | _ => false

theorem returned_id_kept_delivered :
    ∃ row, selectProcessingAttempt delivered.state.store 0 = some row ∧
      row.externalOperationId = some operation.externalOperationId := by
  have hevent : ∃ event ∈ delivered.history, event.call.submits = some 0 ∧
      Observation.submitted event.observed = some operation ∧
      (delivered.returned event.thread).isSome = true := by
    decide +kernel
  obtain ⟨event, hmem, hsubmits, hsubmitted, hreturned⟩ := hevent
  have hnever : ∀ taking ∈ delivered.history, recovers taking.call = false := by
    decide +kernel
  refine (returned_id_kept_iff dialect fingerprint (System.reachable_replay _) (by decide +kernel)
    hmem hsubmits hsubmitted hreturned).mpr ?_
  rintro taking hmem ⟨row, expected, category, detail, -, -, -, hcall⟩
  have hfalse := hnever taking hmem
  rw [hcall] at hfalse
  cases hfalse

/-- While a processor waits for its backend, a pass takes the submission for stale. -/
def takenForStale : Configuration Db :=
  system.replay [
    .spawn (arrival "key"), run 0 13 1 answers,
    .spawn (pass 0), run 1 30 2 { answers with wallClock := .ofInstant 2 },
    run 0 30 3 answers]

/-- The operation was returned, nothing raised, everyone has returned, and no row has its ID. -/
theorem returned_id_lost_takenForStale :
    ¬ ∀ cfg : Configuration Db, system.Reachable cfg →
      (∀ event ∈ cfg.history, Observation.repositoryRaised event.observed = false) →
      ∀ event ∈ cfg.history, ∀ k submitted, event.call.submits = some k →
        Observation.submitted event.observed = some submitted →
        (cfg.returned event.thread).isSome = true →
        ∃ row, selectProcessingAttempt cfg.state.store k = some row ∧
          row.externalOperationId = some submitted.externalOperationId := by
  intro h
  have hevent : ∃ event ∈ takenForStale.history, event.call.submits = some 0 ∧
      Observation.submitted event.observed = some operation ∧
      (takenForStale.returned event.thread).isSome = true := by
    decide +kernel
  obtain ⟨event, hmem, hsubmits, hsubmitted, hreturned⟩ := hevent
  obtain ⟨row, hrow, hx⟩ := h takenForStale (System.reachable_replay _) (by decide +kernel) event
    hmem 0 operation hsubmits hsubmitted hreturned
  have hlost : (selectProcessingAttempt takenForStale.state.store 0).bind (·.externalOperationId)
      = none := by
    decide +kernel
  rw [hrow, Option.bind_some, hx] at hlost
  cases hlost

end Scenario

end Alert2IR
