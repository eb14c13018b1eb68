import Alert2IR.Lifecycle.Operations
import Alert2IR.Persistence.PostgresLaw
import Alert2IR.Persistence.Refusal
import Alert2IR.Persistence.Scenario

/-!
# Losing a race

A processor that comes too late is meant to be told so by a `None`. PostgreSQL tells it so except in
two cases: a text parameter cannot be bound, or `fail_processing` has already ended an attempt that
another caller moved on while it was still active.
-/

namespace Alert2IR

open Interleaving

namespace Postgres

/-- The attempt a processor is about to fail belongs to the processing it names. -/
theorem owner_of_issues {d : Dialect} {fp : CanonicalAlert → Except PyError (Int × List UInt8)}
    {i : Invocation} {h : List (Event Db)} {w : World Db} {t : Nat} {k a : UUID}
    {expected : List ProcessingState} {category detail : String} {row : AttemptRow}
    (hsound : (lawfulRepository d).Sound h w)
    (hissues : Issues fp i (own t h)
      (.repository (.failProcessing k expected category detail (some a))))
    (hrow : w.store.attempts.lookup a = some row) : row.processingId = k := by
  have hrep := represents_of_good hsound.good
  have hbelongs : ∃ attempt, attempt.attemptId = a ∧ Belongs (own t h) k attempt := by
    cases hissues with
    | quiet hquiet => cases hquiet
    | failUnconfigured _ _ hattempt => exact ⟨_, rfl, hattempt⟩
    | failRejected _ hexecuting hsubmitted =>
        exact ⟨_, rfl, .claimed hexecuting.belongs (mem_of_acts_suffix hsubmitted (.head _))⟩
    | failExecution _ hpolling => exact ⟨_, rfl, hpolling.belongs⟩
  obtain ⟨attempt, rfl, hattempt⟩ := hbelongs
  obtain ⟨e, b, he, hb, hid, -⟩ := (hsound.knowsAttempt hattempt).current
  have hlookup := hrep.attempt_lookup he hb
  rw [hid, hrow, Option.some.injEq] at hlookup
  rw [hlookup, AttemptFields.row_processingId, attempt_processingId hsound.coherent he hb]

/-- **When a lost race is harmless.** In every run, whatever lifecycle operation a processor is
about to make: if it comes too late, then it answers `None`, changes no row and does not raise,
exactly if its text can be bound and it is not to fail a processing whose attempt is still
active. -/
theorem lost_race_harmless_iff (d : Dialect)
    (fp : CanonicalAlert → Except PyError (Int × List UInt8))
    {cfg : Configuration Db}
    (hreach : ((repository d).system fp).Reachable cfg) {t : Nat} {c : RepositoryCall}
    (hcalling : cfg.calling t = some (.repository c)) (hlost : Lost cfg.state.store c) (now : Int) :
    (∃ x, exec d now c cfg.state.store = (.ok x, cfg.state.store) ∧ c.wrote x = false) ↔
      (guardText c).all nulFree = true ∧ ¬ EndsActive cfg.state.store c := by
  have hdisciplined := hreach.disciplined invocation_disciplined
  have hsound : (lawfulRepository d).Sound cfg.history cfg.state :=
    LawfulRepository.sound_of_trace hdisciplined.trace
  obtain ⟨i, hissues⟩ := hdisciplined.calling hcalling
  refine exec_lost_iff hissues.admitted (fun k expected category detail a row hc hrow => ?_) hlost
  subst hc
  exact owner_of_issues hsound hissues hrow

end Postgres

namespace Scenario

open Postgres

/-- A submission is answered only after a pass has taken its processing for stale. -/
def overtaken (answer : Except PyError (Option SubmittedOperation)) : Configuration Db :=
  system.replay [
    .spawn (arrival "key"), run 0 13 1 { answers with submit := answer },
    .spawn (pass 0), run 1 30 2 { answers with wallClock := .ofInstant 2 },
    run 0 1 3 answers]

/-- A submission that returned is persisted too late, and is told so. -/
theorem lost_race_harmless_overtaken :
    ∃ c x, (overtaken (.ok (some operation))).calling 0 = some (.repository c) ∧
      exec dialect 3 c (overtaken (.ok (some operation))).state.store
        = (.ok x, (overtaken (.ok (some operation))).state.store) ∧ c.wrote x = false := by
  obtain ⟨c, hcalling, hcheck⟩ := Configuration.exists_pending
    (overtaken (.ok (some operation))) 0
      (fun c => decide (Lost (overtaken (.ok (some operation))).state.store c ∧
      (guardText c).all nulFree = true ∧
      ¬ EndsActive (overtaken (.ok (some operation))).state.store c)) (by decide +kernel)
  obtain ⟨hlost, hharmless⟩ := of_decide_eq_true hcheck
  obtain ⟨x, hx⟩ := (lost_race_harmless_iff dialect fingerprint
    (System.reachable_replay _) hcalling hlost 3).mpr hharmless
  exact ⟨c, x, hcalling, hx⟩

/-- A submission that was rejected is failed too late, and raises. -/
theorem rejection_overtaken_raises :
    system.Reachable (overtaken (.error .backendSubmissionRejected)) ∧
    ∃ c, (overtaken (.error .backendSubmissionRejected)).calling 0 = some (.repository c) ∧
      c.isLifecycle = true ∧ Lost (overtaken (.error .backendSubmissionRejected)).state.store c ∧
      (exec dialect 3 c (overtaken (.error .backendSubmissionRejected)).state.store).1
        = .error (.runtimeError "processing and failed attempt states diverged") := by
  obtain ⟨c, hcalling, hcheck⟩ := Configuration.exists_pending
    (overtaken (.error .backendSubmissionRejected)) 0 (fun c => decide (c.isLifecycle = true ∧
      Lost (overtaken (.error .backendSubmissionRejected)).state.store c ∧
      raised (exec dialect 3 c (overtaken (.error .backendSubmissionRejected)).state.store).1
        = some (.runtimeError "processing and failed attempt states diverged"))) (by decide +kernel)
  obtain ⟨hlifecycle, hlost, hraised⟩ := of_decide_eq_true hcheck
  exact ⟨System.reachable_replay _, c, hcalling, hlifecycle, hlost, raised_eq_some_iff.mp hraised⟩

end Scenario

end Alert2IR
