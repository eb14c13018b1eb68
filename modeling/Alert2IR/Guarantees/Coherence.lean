import Alert2IR.Lifecycle.Operations
import Alert2IR.Persistence.Raising
import Alert2IR.Persistence.Scenario

/-!
# Coherence of the two tables

Whatever a run has done and wherever it was cut off, the row of a processing and the rows of its
attempts tell one story. The comparisons that look for two stories never find them.
-/

namespace Alert2IR

open Interleaving

namespace Entry

variable {now : Int} {c : RepositoryCall} {e e' : Entry}

/-- Only `store_plan` gives an entry its attempt. -/
theorem planned_of_advance (h : e.advance now c = some e') (hnone : e.attempt = none)
    (hsome : e'.attempt.isSome = true) : e'.processing.state = .planned := by
  obtain ⟨-, -, -, hkept | ⟨_, _, _, _, _, _, _, rfl, -⟩⟩ := Store.advance_keeps h
  · rw [← Option.isSome_map (f := (·.attemptId)), hkept, hnone] at hsome
    cases hsome
  · simp only [advance, Option.ite_none_right_eq_some, Option.some.injEq] at h
    rw [← h.2]
    rfl

/-- An entry without an attempt has not been planned, and says so. -/
theorem Coherent.unattempted (h : e.Coherent) (hnone : e.attempt = none) :
    e.processing.state = .accepted ∨
      (e.processing.state = .completed ∧
        e.processing.decision.map (·.outcome) = some .noAction) ∨
      e.processing.state = .failed := by
  have hphase := h.phase
  rw [hnone] at hphase
  cases hphase with
  | accepted hstate => exact .inl hstate
  | noAction result hstate hresult houtcome =>
      exact .inr (.inl ⟨hstate, by simp [ProcessingFields.decision, hresult, houtcome]⟩)
  | rejected hstate => exact .inr (.inr hstate)

/-- A planned entry has an attempt, and its decision is to investigate. -/
theorem Coherent.attempted (h : e.Coherent) {a : AttemptFields} (ha : e.attempt = some a) :
    e.processing.state ≠ .accepted ∧
      e.processing.decision.map (·.outcome) = some .investigate := by
  obtain ⟨q, b, hexecutes, hserves⟩ := h.executing ha
  refine ⟨fun hstate => ?_, by rw [hexecutes.decision, Option.map_some, q.incident.outcome_eq]⟩
  have hnone := (h.phase.of_accepted hstate).2
  rw [ha] at hnone
  cases hnone

theorem Coherent.attempt_of_planned (h : e.Coherent) (hstate : e.processing.state = .planned) :
    ∃ a, e.attempt = some a := by
  cases ha : e.attempt with
  | some a => exact ⟨a, rfl⟩
  | none =>
      have hcases := h.unattempted ha
      simp [hstate] at hcases

end Entry

namespace LawfulRepository

variable {σ : Type} {M : Repository σ} {fp : CanonicalAlert → Except PyError (Int × List UInt8)}
  {is : List Invocation} {h : List (Event σ)} {w : World σ} {k : UUID} {e : Entry}

/-- **An entry has an attempt exactly if it was planned once.** -/
theorem attempt_isSome_iff (L : LawfulRepository M)
    (htrace : (M.system fp).Trace (Issues fp) is h w) (he : L.store w k = some e) :
    e.attempt.isSome = true ↔
      ∃ event ∈ h, ∃ e₁, L.store event.after k = some e₁ ∧ e₁.processing.state = .planned := by
  have hsound : L.Sound h w := sound_of_trace htrace
  constructor
  · intro hsome
    obtain ⟨h₁, event, h₂, c, e₀, e₁, rfl, hoperates, hnone, hsome₁⟩ := exists_operates L htrace
      (T := fun e => e.attempt.isSome = true) he hsome (by simp [Entry.accepted])
    obtain ⟨now, hadvance⟩ := hoperates.advance
    exact ⟨event, by simp, e₁, hoperates.after,
      Entry.planned_of_advance hadvance (by simpa using hnone) hsome₁⟩
  · rintro ⟨event, hmem, e₁, he₁, hstate⟩
    obtain ⟨a, ha⟩ := ((hsound.events event hmem).coherent.entry k e₁ he₁).attempt_of_planned hstate
    obtain ⟨e', he', hevolves⟩ := hsound.evolves event hmem k e₁ he₁
    obtain rfl := Option.some.inj (he.symm.trans he')
    obtain ⟨-, a', ha', -⟩ := hevolves.plan a ha
    rw [ha']
    rfl

end LawfulRepository

namespace Postgres

/-- The attempt rows of a processing. -/
def attemptsOf (db : Db) (k : UUID) : List AttemptRow :=
  db.attempts.rows.filter fun row => row.processingId = k

/-- Some commit of the run left the processing planned. -/
def EverPlanned (history : List (Event Db)) (k : UUID) : Prop :=
  ∃ event ∈ history, ∃ row, event.after.store.processings.lookup k = some row ∧
    row.state = "planned"

theorem row_state_eq_iff {p : ProcessingFields} (state : ProcessingState) :
    p.row.state = state.value ↔ p.state = state := by
  rw [ProcessingFields.row_state, ProcessingState.value_injective.eq_iff]

theorem row_outcome_eq_iff {p : ProcessingFields} (outcome : DecisionOutcome) :
    p.row.decisionOutcome = some outcome.value ↔ p.decision.map (·.outcome) = some outcome := by
  change p.decision.map (·.outcome.value) = _ ↔ _
  cases p.decision with
  | none => simp
  | some decision => cases h : decision.outcome <;> cases outcome <;> simp
    [DecisionOutcome.value, h]

theorem everPlanned_iff {d : Dialect} {fp : CanonicalAlert → Except PyError (Int × List UInt8)}
    {is : List Invocation} {h : List (Event Db)} {w : World Db} {k : UUID}
    (htrace : ((repository d).system fp).Trace (Issues fp) is h w) :
    EverPlanned h k ↔ ∃ event ∈ h, ∃ e₁, (lawfulRepository d).store event.after k = some e₁ ∧
      e₁.processing.state = .planned := by
  refine exists_congr fun event => and_congr_right fun hmem => ?_
  obtain ⟨h₁, h₂, rfl⟩ := List.append_of_mem hmem
  obtain ⟨is₁, htrace₁⟩ := htrace.upto _ _ _ rfl
  have hsound₁ : (lawfulRepository d).Sound (h₁ ++ [event]) event.after :=
    LawfulRepository.sound_of_trace htrace₁
  rw [(represents_of_good hsound₁.good).processings]
  constructor
  · rintro ⟨row, hrow, hstate⟩
    obtain ⟨e₁, he₁, rfl⟩ := Option.map_eq_some_iff.mp hrow
    exact ⟨e₁, he₁, (row_state_eq_iff .planned).mp hstate⟩
  · rintro ⟨e₁, he₁, hstate⟩
    have hview : view event.after.store k = some e₁ := he₁
    exact ⟨_, by rw [hview]; rfl, (row_state_eq_iff .planned).mpr hstate⟩

/-- **The two tables are coherent in every run.** A processing is without an attempt exactly if it
is accepted, completed without action or failed without ever having been planned. Otherwise it has
one attempt, its first, on the selected backend and in the state of the same name, with an operation
ID exactly if it was submitted. And whatever a processor is about to do, no operation on the two
rows finds that they diverged. -/
theorem tables_coherent (d : Dialect) (fp : CanonicalAlert → Except PyError (Int × List UInt8))
    {cfg : Configuration Db}
    (hreach : ((repository d).system fp).Reachable cfg) :
    (∀ k row, cfg.state.store.processings.lookup k = some row →
      (attemptsOf cfg.state.store k = [] ↔
        row.state = "accepted" ∨
        (row.state = "completed" ∧ row.decisionOutcome = some "no_action") ∨
        (row.state = "failed" ∧ ¬ EverPlanned cfg.history k)) ∧
      (attemptsOf cfg.state.store k ≠ [] →
        ∃ attempt, attemptsOf cfg.state.store k = [attempt] ∧ attempt.attemptNumber = 1 ∧
          row.selectedBackend = some attempt.backend ∧ attempt.state = row.state ∧
          attempt.externalOperationId.isSome = attempt.submittedAt.isSome)) ∧
    ∀ t c, cfg.calling t = some (.repository c) → movesBoth c = true →
      ∀ now message, (exec d now c cfg.state.store).1 ≠ .error (.runtimeError message) := by
  have hdisciplined := hreach.disciplined invocation_disciplined
  have htrace := hdisciplined.trace
  have hsound : (lawfulRepository d).Sound cfg.history cfg.state :=
    LawfulRepository.sound_of_trace htrace
  have hrep := represents_of_good hsound.good
  refine ⟨fun k row hrow => ?_, fun t c hcalling hmoves now message hraised => ?_⟩
  · rw [hrep.processings, Option.map_eq_some_iff] at hrow
    obtain ⟨e, he, rfl⟩ := hrow
    have hcoherent := hsound.coherent.entry k e he
    have hplanned := (LawfulRepository.attempt_isSome_iff (lawfulRepository d) htrace he).trans
      (everPlanned_iff htrace).symm
    have hrows : attemptsOf cfg.state.store k = (e.attempt.map AttemptFields.row).toList := by
      rw [attemptsOf, filter_attempts hrep hsound.coherent, he, Option.bind_some]
    rw [hrows]
    cases ha : e.attempt with
    | none =>
        refine ⟨⟨fun _ => ?_, fun _ => rfl⟩, by simp⟩
        have hnever : ¬ EverPlanned cfg.history k := by
          rw [← hplanned, ha]
          simp
        rcases hcoherent.unattempted ha with hstate | ⟨hstate, houtcome⟩ | hstate
        · exact .inl ((row_state_eq_iff .accepted).mpr hstate)
        · exact .inr (.inl ⟨(row_state_eq_iff .completed).mpr hstate,
            (row_outcome_eq_iff .noAction).mpr houtcome⟩)
        · exact .inr (.inr ⟨(row_state_eq_iff .failed).mpr hstate, hnever⟩)
    | some a =>
        obtain ⟨haccepted, houtcome⟩ := hcoherent.attempted ha
        refine ⟨⟨by simp, ?_⟩, fun _ => ?_⟩
        · rintro (hstate | ⟨-, hnoAction⟩ | ⟨-, hnever⟩)
          · exact absurd ((row_state_eq_iff .accepted).mp hstate) haccepted
          · have hother := (row_outcome_eq_iff .noAction).mp hnoAction
            rw [houtcome] at hother
            cases hother
          · exact absurd (hplanned.mp (by rw [ha]; rfl)) hnever
        · obtain ⟨q, b, hexecutes, hserves⟩ := hcoherent.executing ha
          refine ⟨a.row, rfl, hserves.number, ?_, ?_, ?_⟩
          · exact hexecutes.backend.trans (by rw [← hserves.backend]; rfl)
          · rw [AttemptFields.row_state, ProcessingFields.row_state, hserves.state,
              ExecutionAttemptState.value_processingState]
          · simpa [AttemptFields.row] using hserves.submitted
  · obtain ⟨i, hissues⟩ := hdisciplined.calling hcalling
    have hfits := hsound.fits hissues
    have hordinary := exec_ordinary hsound.coherent hrep hfits hmoves hraised
    cases hordinary

end Postgres

namespace Scenario

theorem tables_coherent_delivered :
    ∃ row attempt, delivered.state.store.processings.lookup 0 = some row ∧
      Postgres.attemptsOf delivered.state.store 0 = [attempt] ∧ attempt.attemptNumber = 1 ∧
      row.selectedBackend = some attempt.backend ∧ attempt.state = row.state ∧
      attempt.externalOperationId.isSome = attempt.submittedAt.isSome := by
  have hrow : (delivered.state.store.processings.lookup 0).isSome = true := by decide +kernel
  obtain ⟨row, hrow⟩ := Option.isSome_iff_exists.mp hrow
  obtain ⟨attempt, hattempt⟩ :=
    ((Postgres.tables_coherent dialect fingerprint delivered_reachable).1 0 row hrow).2
      (by decide +kernel)
  exact ⟨row, attempt, hrow, hattempt⟩

end Scenario

end Alert2IR
