import Alert2IR.Application.Discipline
import Alert2IR.Lifecycle.Entry
import Alert2IR.Persistence.MemoryOutcomes
import Alert2IR.Persistence.Scenario

/-!
# An in-memory operation that raises

Four operations store the attempt they have moved on before they build its record. The attempt does
not look at `created_at`, so under a clock that has been set back it is stored, and the record,
whose `updated_at` would precede its `created_at`, is refused. `mark_recovery_required` stores an
attempt on which the clock leaves no trace, so there a naive reading does the
same. -/

namespace Alert2IR

open Interleaving

namespace Memory

variable {m : Memory} {now : Datetime}

/-- Every attempt is where its record says it is. -/
def Agrees (m : Memory) : Prop := ∀ a x, m.attempts.lookup a = some x →
  ∃ r, m.records.lookup x.processingId = some r ∧ r.state = x.state.processingState

theorem Same.agrees {m' : Memory} (h : Same m m') (hagrees : m.Agrees) : m'.Agrees := by
  intro a x hx
  rw [h.attempts] at hx
  rw [h.records]
  exact hagrees a x hx

/-- A call that raises changes nothing, so that attempts and records that agreed still do. -/
structure RaisesUnchanged (now : Datetime) (c : RepositoryCall) (m : Memory) : Prop where
  same : ∀ e, (exec now c m).1 = .error e → Same m (exec now c m).2
  agrees : ∀ e, (exec now c m).1 = .error e → m.Agrees → (exec now c m).2.Agrees

theorem raisesUnchanged_iff {c : RepositoryCall} :
    RaisesUnchanged now c m ↔ Atomic (op now c) m := by
  constructor
  · intro h e he
    exact h.same e he
  · intro h
    exact ⟨h, fun e he => (h e he).agrees⟩

/-- The calls that store an attempt and are then refused its record. -/
def Tears (now : Datetime) (m : Memory) : RepositoryCall → Prop
  | .claimAttemptForSubmission a => ∃ x r,
      m.both a (·.state = .planned) (fun _ record => record.state = .planned) = some (x, r) ∧
        now.isAware = true ∧ now.instant < r.createdAt.instant
  | .markAttemptSubmitted a externalOperationId => ∃ x r,
      m.both a (·.state = .submitting) (fun _ record => record.state = .submitting) = some (x, r) ∧
        (now.isAware = true ∧
          isBlank externalOperationId = false ∧ externalOperationId.length ≤ 512) ∧
        now.instant < r.createdAt.instant
  | .recordPoll a remoteState category detail => ∃ x r,
      m.both a (·.state = .submitted) (fun _ record => record.state = .submitted) = some (x, r) ∧
        (now.isAware = true ∧
          (requireBoundedError (some remoteState) "last_remote_state").1 = true ∧
          ErrorsFit category detail) ∧
        now.instant < r.createdAt.instant ∧
        -- a poll that repeats the last one stores the same attempt again
        ¬(x.lastPolledAt = some now ∧ x.lastRemoteState = some remoteState ∧
          x.errorCategory = category ∧ x.errorDetail = detail)
  | .markRecoveryRequired a expected category detail => ∃ x r,
      m.both a (·.state ∈ expected)
          (fun attempt record => some record.state = expectedProcessing attempt.state) =
        some (x, r) ∧
        ErrorsFit (some category) (some detail) ∧
        (now.isAware = true → now.instant < r.createdAt.instant)
  | _ => False

section Operations

variable {a : UUID}

theorem claimAttemptForSubmission_atomic_iff :
    Atomic (claimAttemptForSubmission a now) m ↔ ¬Tears now m (.claimAttemptForSubmission a) := by
  rw [claimAttemptForSubmission_eq, attemptFirst_atomic_iff]
  simp only [Tears, not_exists, not_and, not_lt]
  refine forall₃_congr fun x r hboth => ?_
  obtain ⟨-, -, hx, hr⟩ := both_eq_some_iff.mp hboth
  have hattempt := postInit_claim_iff now x.valid (of_decide_eq_true hx)
  have hrecord := postInit_planStates_iff now .submitting r.valid
    (by simp [of_decide_eq_true hr, planStates]) (by simp [planStates]) (errorsFit_of_record r)
  rw [hattempt, hrecord]
  constructor
  · intro hatomic haware
    refine (hatomic haware fun hsame => ?_).2
    have hstate := congrArg AttemptFields.state hsame
    rw [of_decide_eq_true hx] at hstate
    cases hstate
  · intro hcreated haware _
    exact ⟨haware, hcreated haware⟩

theorem markAttemptSubmitted_atomic_iff (h : m.Quiet) (externalOperationId : String) :
    Atomic (markAttemptSubmitted a externalOperationId now) m ↔
      ¬Tears now m (.markAttemptSubmitted a externalOperationId) := by
  rw [markAttemptSubmitted_eq, attemptFirst_atomic_iff]
  simp only [Tears, not_exists, not_and, not_lt]
  refine forall₃_congr fun x r hboth => ?_
  obtain ⟨hlookup, -, hx, hr⟩ := both_eq_some_iff.mp hboth
  have hattempt := postInit_submitted_iff now externalOperationId x.valid
    (of_decide_eq_true hx) (h a x hlookup)
  have hrecord := postInit_planStates_iff now .submitted r.valid
    (by simp [of_decide_eq_true hr, planStates]) (by simp [planStates]) (errorsFit_of_record r)
  rw [hattempt, hrecord]
  constructor
  · intro hatomic haccepted
    refine (hatomic haccepted fun hsame => ?_).2
    have hstate := congrArg AttemptFields.state hsame
    rw [of_decide_eq_true hx] at hstate
    cases hstate
  · intro hcreated haccepted _
    exact ⟨haccepted.1, hcreated haccepted⟩

theorem recordPoll_atomic_iff (remoteState : String) (category detail : Option String) :
    Atomic (recordPoll a remoteState category detail now) m ↔
      ¬Tears now m (.recordPoll a remoteState category detail) := by
  rw [recordPoll_eq, attemptFirst_atomic_iff]
  simp only [Tears, not_exists]
  refine forall₂_congr fun x r => ?_
  rw [not_and]
  refine forall_congr' fun hboth => ?_
  obtain ⟨-, -, hx, hr⟩ := both_eq_some_iff.mp hboth
  have hstate : r.state = .submitted := of_decide_eq_true hr
  have hplan : r.state ∈ planStates := by simp [hstate, planStates]
  have hattempt := postInit_poll_iff now remoteState category detail x.valid
    (of_decide_eq_true hx)
  have hmoved : ({ x.toAttemptFields with
      lastPolledAt := some now
      lastRemoteState := some remoteState
      errorCategory := category
      errorDetail := detail } ≠ x.toAttemptFields) ↔
      ¬(x.lastPolledAt = some now ∧ x.lastRemoteState = some remoteState ∧
        x.errorCategory = category ∧ x.errorDetail = detail) := by
    rcases x with ⟨f, hf⟩
    cases f
    simp [eq_comm]
  rw [hattempt, hmoved]
  constructor
  · rintro hatomic ⟨haccepted, hcreated, hnew⟩
    have hrecord := (postInit_planStates_iff now r.state r.valid hplan hplan
      haccepted.2.2).mp (hatomic haccepted hnew)
    exact absurd hrecord.2 (not_le.mpr hcreated)
  · intro htears haccepted hnew
    have hcreated : r.createdAt.instant ≤ now.instant := by
      by_contra hlt
      exact htears ⟨haccepted, not_le.mp hlt, hnew⟩
    exact (postInit_planStates_iff now r.state r.valid hplan hplan haccepted.2.2).mpr
      ⟨haccepted.1, hcreated⟩

theorem markRecoveryRequired_atomic_iff (h : m.Quiet) (expected : List ExecutionAttemptState)
    (category detail : String) :
    Atomic (markRecoveryRequired a expected category detail now) m ↔
      ¬Tears now m (.markRecoveryRequired a expected category detail) := by
  rw [markRecoveryRequired_eq, attemptFirst_atomic_iff]
  simp only [Tears, not_exists]
  refine forall₂_congr fun x r => ?_
  rw [not_and]
  refine forall_congr' fun hboth => ?_
  obtain ⟨hlookup, -, -, hr⟩ := both_eq_some_iff.mp hboth
  have hexpected : some r.state = expectedProcessing x.state := of_decide_eq_true hr
  have hstate : (x.state = .submitting ∨ x.state = .submitted) ∧ r.state ∈ planStates := by
    cases hs : x.state <;> simp [hs, expectedProcessing] at hexpected <;>
      simp [hexpected, planStates]
  have hattempt := postInit_recovery_iff category detail x.valid hstate.1
    (h a x hlookup)
  rw [hattempt]
  constructor
  · rintro hatomic ⟨hfit, hcreated⟩
    have hmoved : { x.toAttemptFields with
        state := .recoveryRequired, errorCategory := some category, errorDetail := some detail } ≠
        x.toAttemptFields := by
      intro hsame
      have hrecovery := congrArg AttemptFields.state hsame
      rcases hstate.1 with hx | hx <;> rw [hx] at hrecovery <;> cases hrecovery
    have hrecord := (postInit_planStates_iff now .recoveryRequired r.valid hstate.2
      (by simp [planStates]) hfit).mp (hatomic hfit hmoved)
    exact absurd hrecord.2 (not_le.mpr (hcreated hrecord.1))
  · intro htears hfit _
    have hclock : now.isAware = true ∧ r.createdAt.instant ≤ now.instant := by
      by_contra hlt
      exact htears ⟨hfit, fun haware => not_le.mp fun hle => hlt ⟨haware, hle⟩⟩
    exact (postInit_planStates_iff now .recoveryRequired r.valid hstate.2 (by simp [planStates])
      hfit).mpr hclock

end Operations

/-- **When an in-memory operation that raises changes nothing.** In any state of the dicts that any
calls have left, under any reading of the clock and for any arguments, the dicts are as they were
exactly if the call is none of the four whose attempt is stored and whose record is refused. -/
theorem raising_leaves_dicts_iff (h : m.Reachable) (now : Datetime) (c : RepositoryCall) :
    RaisesUnchanged now c m ↔ ¬Tears now m c := by
  rw [raisesUnchanged_iff]
  have hquiet := h.quiet
  have hatomic {α : Type} {x : Op α} (hsettled : Ensures x m (Settled m)) : Atomic x m ↔ ¬False :=
    iff_of_true hsettled.1 not_false
  cases c with
  | claimAttemptForSubmission a => exact claimAttemptForSubmission_atomic_iff
  | markAttemptSubmitted a id => exact markAttemptSubmitted_atomic_iff hquiet id
  | recordPoll a remoteState category detail =>
      exact recordPoll_atomic_iff remoteState category detail
  | markRecoveryRequired a expected category detail =>
      exact markRecoveryRequired_atomic_iff hquiet expected category detail
  | acceptProcessing => exact hatomic (acceptProcessing_settled hquiet)
  | storeNoActionResult => exact hatomic (storeNoActionResult_settled hquiet)
  | storePlan => exact hatomic (storePlan_settled hquiet)
  | completeProcessing => exact hatomic (completeProcessing_settled hquiet)
  | failProcessing => exact hatomic (failProcessing_settled hquiet)
  | get => exact hatomic (hquiet.settled _)
  | getAttemptForProcessing => exact hatomic (hquiet.settled _)
  | findReconcilable => exact hatomic (findReconcilable_settled hquiet)

theorem reachable_of_trace {fp : CanonicalAlert → Except PyError (Int × List UInt8)}
    {is : List Invocation} {h : List (Interleaving.Event (World Memory) Call Call.Response)}
      {w : World Memory}
    (htrace : (repository.system fp).Trace (Issues fp) is h w) : w.store.Reachable := by
  induction htrace with
  | start => exact .empty
  | spawn _ _ ih => exact ih
  | @call _ _ w _ _ c _ w' _ _ _ hstep ih =>
      cases c with
      | repository c =>
          obtain ⟨⟨now, hexec⟩, -⟩ := hstep
          have hnext := ih.exec now c
          rw [hexec] at hnext
          exact hnext
      | newUuid kind =>
          obtain ⟨-, rfl⟩ := hstep
          exact ih
      | _ =>
          have hsame : w' = w := hstep
          rw [hsame]
          exact ih

/-- The dicts that processors leave are among these. -/
theorem reachable_of_system {fp : CanonicalAlert → Except PyError (Int × List UInt8)}
    {cfg : Configuration Memory} (hreach : (repository.system fp).Reachable cfg) :
    cfg.state.store.Reachable :=
  reachable_of_trace (hreach.disciplined invocation_disciplined).trace

end Memory

namespace Scenario

open Memory

/-- Processors over dicts. -/
abbrev inMemory := Memory.repository.system fingerprint

/-- A delivery that is about to claim its attempt. -/
def aboutToClaim : Configuration Memory := inMemory.replay
  [.spawn (arrival "key"), .run 0 10 (Memory.environment fingerprint answers (.ofInstant 5))]

/-- The clock has been set back, the attempt is claimed and the record is still planned. -/
theorem claim_tears : ¬RaisesUnchanged (.ofInstant 0) (.claimAttemptForSubmission 0)
    aboutToClaim.state.store := by
  intro h
  have hraised : raised (exec (.ofInstant 0) (.claimAttemptForSubmission 0)
      aboutToClaim.state.store).1 = some (.valueError "updated_at cannot precede created_at") := by
    decide +kernel
  have hsame := (h.same _ (raised_eq_some_iff.mp hraised)).attempts 0
  have hstate := congrArg (Option.map fun x => x.state) hsame
  revert hstate
  decide +kernel

theorem claim_leaves_attempt_submitting :
    inMemory.Reachable aboutToClaim ∧
      aboutToClaim.calling 0 = some (.repository (.claimAttemptForSubmission 0)) ∧
      ¬RaisesUnchanged (.ofInstant 0) (.claimAttemptForSubmission 0) aboutToClaim.state.store :=
  ⟨System.reachable_replay _, by rfl, claim_tears⟩

theorem raising_leaves_dicts_iff_claim :
    Tears (.ofInstant 0) aboutToClaim.state.store (.claimAttemptForSubmission 0) := by
  by_contra htears
  exact claim_tears ((raising_leaves_dicts_iff (reachable_of_system (System.reachable_replay _))
    _ _).mpr htears)

end Scenario

end Alert2IR
