import Alert2IR.Persistence.RollbackLaw
import Alert2IR.Persistence.Scenario

/-!
# A lifecycle operation that raises

The statements of an operation are one transaction, so an exception among them rolls all of them
back. What is decoded is decoded after the commit: an operation that cannot read what it has
written, or finds there another result than it was given, raises and has changed the tables
nonetheless.
-/

namespace Alert2IR

open Interleaving

/-- The operations on a processing that is executed, or fails. -/
def RepositoryCall.isExecution : RepositoryCall → Bool
  | .storePlan .. | .claimAttemptForSubmission _ | .markAttemptSubmitted .. | .recordPoll ..
  | .completeProcessing .. | .failProcessing .. | .markRecoveryRequired .. => true
  | _ => false

namespace Postgres

/-- A call that raises leaves both tables as they were, and a completion that changes them stores
the result it was given. -/
structure Atomic (d : Dialect) (now : Int) (c : RepositoryCall) (db : Db) : Prop where
  raised : ∀ error, (exec d now c db).1 = .error error → Unchanged db (exec d now c db).2
  stored : ∀ attemptId result, c = .completeProcessing attemptId result →
    ¬Unchanged db (exec d now c db).2 → Stores (exec d now c db).2 attemptId result

section Represented

variable {d : Dialect} {now : Int} {db : Db} {s : Store} {c : RepositoryCall}

theorem outcome (now : Int) (hs : s.Coherent) (hrep : Represents db s) (hvalid : s.Valid d)
    (hexecution : c.isExecution = true) : Outcome d now s c db := by
  cases c with
  | storePlan => exact storePlan_outcome hs hrep hvalid
  | claimAttemptForSubmission => exact claimAttemptForSubmission_outcome hs hrep hvalid _
  | markAttemptSubmitted => exact markAttemptSubmitted_outcome hs hrep hvalid _ _
  | recordPoll => exact recordPoll_outcome hs hrep hvalid _ _ _ _
  | completeProcessing => exact completeProcessing_outcome hs hrep hvalid _ _
  | failProcessing => exact failProcessing_outcome hs hrep hvalid _ _ _ _ _
  | markRecoveryRequired => exact markRecoveryRequired_outcome hs hrep hvalid _ _ _ _
  | acceptProcessing | get | storeNoActionResult | getAttemptForProcessing | findReconcilable =>
      cases hexecution

/-- A call takes effect on one entry only. -/
theorem Takes.unique (hs : s.Coherent) {k k' : UUID} {e e' : Entry} (he : s k = some e)
    (he' : s k' = some e') (h : Takes d now s c e) (h' : Takes d now s c e') : e = e' := by
  obtain ⟨_, hadvance, -⟩ := h.advance
  obtain ⟨_, hadvance', -⟩ := h'.advance
  obtain rfl := hs.advance_unique he he' hadvance hadvance'
  exact Option.some.inj (he.symm.trans he')

theorem atomic_iff (hs : s.Coherent) (hrep : Represents db s) (hvalid : s.Valid d)
    (hexecution : c.isExecution = true) :
    Atomic d now c db ↔ ∀ k e, s k = some e → Takes d now s c e → Decodes now e c := by
  have houtcome := outcome now hs hrep hvalid hexecution
  constructor
  · intro hatomic k e he htakes
    cases houtcome with
    | untaken hnone _ => exact absurd htakes (hnone k e he)
    | taken he' htakes' hchanged hreturns =>
      obtain rfl := htakes.unique hs he he' htakes'
      refine hreturns.mp ?_
      cases hanswer : (exec d now c db).1 with
      | ok x => exact ⟨x, rfl⟩
      | error error => exact absurd (hatomic.raised error hanswer) hchanged
  · intro hdecodes
    cases houtcome with
    | untaken _ hunchanged => exact ⟨fun _ _ => hunchanged, fun _ _ _ h => absurd hunchanged h⟩
    | taken he htakes hchanged hreturns =>
      obtain ⟨x, hx⟩ := hreturns.mpr (hdecodes _ _ he htakes)
      refine ⟨fun error herror => ?_, ?_⟩
      · cases herror.symm.trans hx
      · rintro attemptId result rfl hchanged
        exact completeProcessing_stores hs hrep hx hchanged

end Represented

/-- **When a lifecycle operation that raises changes nothing.** In any state of the tables that any
number of processors leave, and for any arguments, an operation is atomic exactly if what it leaves
of the entry it takes effect on, if it takes effect on any, decodes and is what it was given. -/
theorem raising_changes_nothing_iff (d : Dialect)
    (fp : CanonicalAlert → Except PyError (Int × List UInt8)) {cfg : Configuration Db}
    (hreach : ((repository d).system fp).Reachable cfg) {c : RepositoryCall}
    (hexecution : c.isExecution = true) (now : Int) :
    Atomic d now c cfg.state.store ↔ ∀ k e, view cfg.state.store k = some e →
      Takes d now (view cfg.state.store) c e → Decodes now e c := by
  have hsound : (validRepository d).Sound cfg.history cfg.state :=
    LawfulRepository.sound_of_trace (hreach.disciplined invocation_disciplined).trace
  obtain ⟨hgood, hentries⟩ := hsound.good
  exact atomic_iff hsound.coherent (represents_of_good hgood) hentries hexecution

end Postgres

namespace Scenario

open Postgres

/-- A delivery whose operation goes on and on. -/
def submitted : Configuration Db := system.replay
  [.spawn (arrival "key"), run 0 30 1 { answers with poll := .ok (some (status .nonterminal)) }]

/-- A result of another plan than the one that is stored. -/
def mismatched : OrchestrationResult where
  decision := decision
  incident := some incident
  investigationRequest := some ⟨incident, "containment", ["triage"], [], by decide +kernel⟩
  investigationResult := some result
  valid := by decide +kernel

/-- The completion with a mismatched result is committed, and raises. -/
theorem mismatched_changes :
    ¬Atomic dialect 2 (.completeProcessing 0 mismatched) submitted.state.store := by
  intro hatomic
  have hraised : raised (exec dialect 2 (.completeProcessing 0 mismatched)
      submitted.state.store).1 =
        some (.valueError "terminal result does not match the durable processing plan") := by
    decide +kernel
  have hunchanged := (hatomic.raised _ (raised_eq_some_iff.mp hraised)).processings 0
  have hstate := congrArg (Option.map ProcessingRow.state) hunchanged
  revert hstate
  decide +kernel

theorem mismatched_result_committed :
    system.Reachable submitted ∧
      (RepositoryCall.completeProcessing 0 mismatched).isExecution = true ∧
      ¬Atomic dialect 2 (.completeProcessing 0 mismatched) submitted.state.store :=
  ⟨System.reachable_replay _, rfl, mismatched_changes⟩

/-- The entry that the mismatched result is stored in does not decode to it. -/
theorem raising_changes_nothing_iff_submitted :
    ∃ k e, view submitted.state.store k = some e ∧
      Takes dialect 2 (view submitted.state.store) (.completeProcessing 0 mismatched) e ∧
      ¬Decodes 2 e (.completeProcessing 0 mismatched) := by
  by_contra hnone
  push Not at hnone
  exact mismatched_changes ((raising_changes_nothing_iff dialect fingerprint
    (System.reachable_replay _) rfl 2).mpr hnone)

end Scenario

end Alert2IR
