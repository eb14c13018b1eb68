import Mathlib.Tactic.Linarith
import Alert2IR.Application.Budget
import Alert2IR.Guarantees.Outcomes
import Alert2IR.Persistence.MemoryLaw

/-!
# A reconciliation pass respects its budget

Whatever repository and backends answer, and wherever its clock crosses the deadline, a pass hands
on only the time it has left, starts no more work once there is none, and gives up a claim it has no
time left to submit.
-/

namespace Alert2IR

open Interleaving

variable {σ : Type} {h h₁ h₂ after : List Observation} {maxSeconds started : Rat} {t : Nat}
  {cfg : Configuration σ}

/-- Thread `t` runs a pass of `max_seconds`, whose clock first reads `started` and is never set
back. -/
structure Passing (cfg : Configuration σ) (t : Nat) (maxSeconds started : Rat) : Prop where
  invoked : ∃ (o : AlertOrchestrator) (limit staleAfter : Int),
    (cfg.threads[t]?).map Thread.invocation = some (.reconcileOnce o limit maxSeconds staleAfter)
  started : (readings (own t cfg.history)).head? = some started
  clock : (readings (own t cfg.history)).Pairwise (· ≤ ·)

/-- What a pass has called is within its budget. -/
structure WithinBudget (maxSeconds started : Rat) (h : List Observation) : Prop where
  timeout : ∀ h₁ c r h₂ seconds, h = h₁ ++ ⟨c, r⟩ :: h₂ → c.timeout = some seconds →
    ∃ m : Rat, [⟨.monotonic, m⟩] <:+ h₁ ∧ seconds = some (started + maxSeconds - m) ∧
      0 < started + maxSeconds - m ∧ started + maxSeconds - m ≤ maxSeconds
  stop : ∀ h₁ c r h₂, h = h₁ ++ ⟨c, r⟩ :: h₂ → c.isWork = true →
    ∀ m ∈ readings h₁, m < started + maxSeconds

/-- The time ran out between a claim and its submission; `after` is what followed the claim. -/
def RanOut (deadline : Rat) (h : List Observation) (claimed : ExecutionAttempt)
    (after : List Observation) : Prop :=
  ∃ (before : List Observation) (claim : Observation) (g₁ g₂ : List Observation) (m : Rat),
    h = before ++ claim :: after ∧ claim.claimed = some claimed ∧
      after = g₁ ++ ⟨.monotonic, m⟩ :: g₂ ∧ deadline ≤ m ∧ ∀ o ∈ g₁, o.call.submits = none

/-! ### One's own calls -/

theorem mem_readings {m : Rat} : m ∈ readings h ↔ ⟨.monotonic, m⟩ ∈ h := by
  rw [readings, List.mem_filterMap]
  constructor
  · rintro ⟨⟨c, r⟩, hmem, hm⟩
    cases c with
    | monotonic =>
        cases hm
        exact hmem
    | _ => cases hm
  · exact fun hmem => ⟨_, hmem, rfl⟩

theorem readings_append : readings (h₁ ++ h₂) = readings h₁ ++ readings h₂ :=
  List.filterMap_append ..

theorem isWork_of_timeout {c : Call} {seconds : Option Rat} (h : c.timeout = some seconds) :
    c.isWork = true := by
  cases c <;> first | rfl | cases h

theorem isWork_of_submits {c : Call} (h : c.submits.isSome = true) : c.isWork = true := by
  cases c <;> first | rfl | cases h

/-- What a pass calls next is budgeted by the calls it has made. -/
theorem Passing.budgeted {fp : CanonicalAlert → Except PyError (Int × List UInt8)}
    {M : Repository σ} (hpassing : Passing cfg t maxSeconds started)
    (hreach : (M.system fp).Reachable cfg) {o : Observation}
    (hsplit : own t cfg.history = h₁ ++ o :: h₂) : Budgeted maxSeconds h₁ o.call := by
  obtain ⟨_, _, _, hinvoked⟩ := hpassing.invoked
  obtain ⟨g₁, event, g₂, hhistory, rfl, rfl, rfl, -⟩ := exists_of_own_eq hsplit
  obtain ⟨_, i, -, hi, hbudgeted, -⟩ := (hreach.disciplined
    invocation_budgeted).trace.split hhistory
  rw [List.getElem?_map, hinvoked, Option.some.injEq] at hi
  subst hi
  exact hbudgeted

/-- Work comes right after a reading that left time, and no earlier reading is later. -/
theorem Affordable.reading {c : Call} (haffordable : Affordable maxSeconds h₁ c)
    (hinit : h₁ <+: h) (hstarted : (readings h).head? = some started)
    (hclock : (readings h).Pairwise (· ≤ ·)) :
    ∃ m : Rat, [⟨.monotonic, m⟩] <:+ h₁ ∧ started ≤ m ∧ m < started + maxSeconds ∧
      (∀ m' ∈ readings h₁, m' ≤ m) ∧
      ∀ seconds, c.timeout = some seconds → seconds = some (started + maxSeconds - m) := by
  obtain ⟨started', m, hstarted', ⟨before, rfl⟩, hleft, htimeout⟩ := haffordable
  obtain ⟨rest, rfl⟩ := hinit
  have hreadings : readings (before ++ [⟨.monotonic, m⟩]) = readings before ++ [m] :=
    readings_append
  have hsame : started' = started := by
    rw [readings_append, List.head?_append, hstarted'] at hstarted
    exact Option.some.inj hstarted
  subst hsame
  rw [readings_append, List.pairwise_append, hreadings, List.pairwise_append] at hclock
  have hlast : ∀ m' ∈ readings before ++ [m], m' ≤ m := by
    intro m' hm'
    rcases List.mem_append.mp hm' with hm' | hm'
    · exact hclock.1.2.2 m' hm' m (List.mem_singleton.mpr rfl)
    · rw [List.mem_singleton.mp hm']
  rw [hreadings] at hstarted' ⊢
  exact ⟨m, List.suffix_append _ _, hlast started' (List.mem_of_head? hstarted'), hleft, hlast,
    htimeout⟩

theorem Passing.withinBudget {fp : CanonicalAlert → Except PyError (Int × List UInt8)}
    {M : Repository σ} (hpassing : Passing cfg t maxSeconds started)
    (hreach : (M.system fp).Reachable cfg) :
    WithinBudget maxSeconds started (own t cfg.history) where
  timeout h₁ c r h₂ seconds hsplit htimeout := by
    obtain ⟨m, hlast, hstarted, hleft, -, hseconds⟩ :=
      ((hpassing.budgeted hreach hsplit).work (isWork_of_timeout htimeout)).reading
        ⟨_, hsplit.symm⟩ hpassing.started hpassing.clock
    exact ⟨m, hlast, hseconds seconds htimeout, by linarith, by linarith⟩
  stop h₁ c r h₂ hsplit hwork m hm := by
    obtain ⟨m', -, -, hleft, hlast, -⟩ := ((hpassing.budgeted hreach hsplit).work hwork).reading
      ⟨_, hsplit.symm⟩ hpassing.started hpassing.clock
    exact (hlast m hm).trans_lt hleft

/-! ### Claims that ran out of time -/

theorem exists_of_claimed {claim : Observation} {claimed : ExecutionAttempt}
    (hclaimed : claim.claimed = some claimed) : ∃ id,
      claim = Observation.repository (.claimAttemptForSubmission id) (.ok (some claimed)) := by
  obtain ⟨c, r⟩ := claim
  cases c with
  | repository c =>
      cases c with
      | claimAttemptForSubmission id =>
          rcases r with error | found
          · cases hclaimed
          · obtain rfl : found = some claimed := hclaimed
            exact ⟨id, rfl⟩
      | _ => cases hclaimed
  | _ => cases hclaimed

theorem isAct_of_claimed {claim : Observation} {claimed : ExecutionAttempt}
    (hclaimed : claim.claimed = some claimed) : claim.isAct = true := by
  obtain ⟨id, rfl⟩ := exists_of_claimed hclaimed
  rfl

/-- A claim stays the last one while no act follows it. -/
theorem lastClaimed_of_claim {claim : Observation} {claimed : ExecutionAttempt}
    (hclaimed : claim.claimed = some claimed) (hquiet : acts h₂ = []) :
    lastClaimed (h₁ ++ claim :: h₂) = some claimed := by
  have hacts : acts (h₁ ++ claim :: h₂) = acts h₁ ++ [claim] := by
    rw [acts_append, acts, acts, List.filter_cons_of_pos (isAct_of_claimed hclaimed)]
    rw [show List.filter Observation.isAct h₂ = [] from hquiet]
  rw [lastClaimed, hacts, List.getLast?_append, List.getLast?_singleton]
  exact hclaimed

/-- The first act after a claim that ran out of time gives it up. -/
theorem Passing.givesUp {fp : CanonicalAlert → Except PyError (Int × List UInt8)}
    {M : Repository σ} (hpassing : Passing cfg t maxSeconds started)
    (hreach : (M.system fp).Reachable cfg) {claimed : ExecutionAttempt}
    (hout : RanOut (started + maxSeconds) (own t cfg.history) claimed after) {o : Observation}
    {rest : List Observation} (hacts : acts after = o :: rest) :
    o.call = .repository (expiry claimed) := by
  obtain ⟨before, claim, g₁, g₂, m, hsplit, hclaimed, hafter, hlate, hunsubmitted⟩ := hout
  obtain ⟨quiet, later, hcut, hquiet, hact, -⟩ := List.filter_eq_cons_iff.mp hacts
  have hsplit' : own t cfg.history = (before ++ claim :: quiet) ++ o :: later := by
    rw [hsplit, hcut, List.append_assoc, List.cons_append]
  have hbudgeted := hpassing.budgeted hreach hsplit'
  rcases hbudgeted.claimed hact claimed (lastClaimed_of_claim hclaimed
    (List.filter_eq_nil_iff.mpr hquiet)) with hsubmits | hexpiry
  · -- A submission was within the budget, so the late reading does not precede it.
    exfalso
    have hstop : ∀ m' ∈ readings (before ++ claim :: quiet), m' < started + maxSeconds :=
      (hpassing.withinBudget hreach).stop _ o.call o.response later hsplit'
        (isWork_of_submits hsubmits)
    rcases List.append_eq_append_iff.mp (hafter.symm.trans hcut) with
      ⟨skipped, rfl, hrest⟩ | ⟨skipped, rfl, hrest⟩
    · rcases List.cons_eq_append_iff.mp hrest with ⟨-, heq⟩ | ⟨skipped', rfl, -⟩
      · rw [(List.cons.inj heq).1] at hact
        cases hact
      · exact (hstop m (mem_readings.mpr (by simp))).not_ge hlate
    · rcases List.cons_eq_append_iff.mp hrest with ⟨-, heq⟩ | ⟨skipped', rfl, -⟩
      · rw [← (List.cons.inj heq).1] at hact
        cases hact
      · rw [hunsubmitted o (by simp)] at hsubmits
        cases hsubmits
  · exact hexpiry

/-- A pass that has returned has given up every claim that ran out of time. -/
theorem Passing.acts_ne_nil {fp : CanonicalAlert → Except PyError (Int × List UInt8)}
    {M : Repository σ} (hpassing : Passing cfg t maxSeconds started)
    (hreach : (M.system fp).Reachable cfg) {claimed : ExecutionAttempt}
    (hout : RanOut (started + maxSeconds) (own t cfg.history) claimed after)
    (hreturned : (cfg.returned t).isSome = true) : acts after ≠ [] := by
  intro hacts
  obtain ⟨before, claim, -, -, -, hsplit, hclaimed, -⟩ := hout
  obtain ⟨_, _, _, hinvoked⟩ := hpassing.invoked
  obtain ⟨outcome, houtcome⟩ := Option.isSome_iff_exists.mp hreturned
  obtain ⟨i, hthread⟩ := Config.returned_eq_some_iff.mp houtcome
  have hconcluded := (hreach.disciplined invocation_budgeted).remaining t _ hthread
  rw [hthread, Option.map_some, Option.some.injEq] at hinvoked
  subst hinvoked
  have hnone : lastClaimed (own t cfg.history) = none := hconcluded
  rw [hsplit, lastClaimed_of_claim hclaimed hacts] at hnone
  cases hnone

/-! ### What giving up leaves behind -/

namespace LawfulRepository

variable {M : Repository σ} {fp : CanonicalAlert → Except PyError (Int × List UInt8)}
  {is : List Invocation} {history : List (Event σ)} {w : World σ}

/-- **A claim that was given up waits for recovery**, whoever else was at work. -/
theorem recovered_of_expiry (L : LawfulRepository M)
    (htrace : (M.system fp).Trace (Issues fp) is history w) {id : UUID} {claimed : ExecutionAttempt}
    (hown : own t history = h₁ ++
      Observation.repository (.claimAttemptForSubmission id) (.ok (some claimed)) :: after)
    {x : Option ProcessingRecord} {rest : List Observation}
    (hacts : acts after = Observation.repository (expiry claimed) (.ok x) :: rest) :
    ∃ e, L.store w claimed.processingId = some e ∧ e.processing.state = .recoveryRequired := by
  have hsound : L.Sound history w := sound_of_trace htrace
  obtain ⟨g₁, claim, g₂, hhistory, rfl, hclaim, -, hafter⟩ := exists_of_own_eq hown
  have hacts : acts (own claim.thread g₂) =
      [] ++ Observation.repository (expiry claimed) (.ok x) :: rest := by
    rw [hafter, hacts]
    rfl
  obtain ⟨k₁, event, k₂, rfl, hthread, hexpiry, hquiet, -⟩ := exists_of_acts_eq hacts
  have hmem : event ∈ history := by simp [hhistory]
  have hsplit : history = (g₁ ++ claim :: k₁) ++ event :: k₂ := by
    rw [hhistory, List.append_assoc, List.cons_append]
  obtain ⟨is₁, -, htrace₁, -⟩ := htrace.split hsplit
  have hsound₁ : L.Sound (g₁ ++ claim :: k₁) event.before := sound_of_trace htrace₁
  -- The attempt is the one that was claimed, and its processing has not gone elsewhere.
  obtain ⟨claim', hclaim', hcoherent', hreports⟩ := hsound₁.reported (t := claim.thread)
    (c := .claimAttemptForSubmission id) (x := some claimed) (by
      rw [← hclaim]
      exact mem_own.mpr ⟨claim, by simp, rfl, rfl⟩)
  obtain ⟨e, a, he, ha, hid, -⟩ := ((Store.knowsAttempt_of_reports (a := claimed)
    hcoherent' hreports
    (by simp [RepositoryCall.attempts])).mono (hsound₁.evolves claim' hclaim')).current
  have hcrashed : ∀ later ∈ k₁, later.thread = claim.thread → ∀ c, later.call ≠ .repository c := by
    intro later hlater hown c hc
    have hact : later.observed ∈ acts (own claim.thread k₁) :=
      List.mem_filter.mpr ⟨mem_own.mpr ⟨later, hlater, hown, rfl⟩, by
        rw [Observation.isAct, show later.observed.call = later.call from rfl, hc]
        rfl⟩
    rw [hquiet] at hact
    cases hact
  have hstate := undecided_of_crashed L htrace₁ rfl hclaim rfl hcrashed he
  have hevent := hsound.events event hmem
  have hrecovered : ∃ e', L.store event.after claimed.processingId = some e' ∧
      e'.processing.state = .recoveryRequired := by
    rcases List.mem_cons.mp hstate with hsubmitting | hrecovered
    · obtain ⟨q, b, -, hserves⟩ := (hsound₁.coherent.entry _ e he).executing ha
      have hsubmitting' : a.state = .submitting := by
        apply ExecutionAttemptState.processingState_injective
        rw [← hserves.state, hsubmitting]
        rfl
      obtain ⟨now, e', he', hadvance⟩ := hevent.moved hexpiry he fun now => by
        simp [expiry, Entry.advance, Entry.move, ha, hid, hsubmitting']
      obtain ⟨a', -, -, -, rfl⟩ := Entry.move_eq_some_iff.mp hadvance
      exact ⟨_, he', rfl⟩
    · obtain ⟨e', he', hevolves⟩ := hevent.evolves _ e he
      have hrecovered := List.mem_singleton.mp hrecovered
      rw [hevolves.settled (by rw [hrecovered]; rfl)] at he'
      exact ⟨e, he', hrecovered⟩
  obtain ⟨e₁, he₁, hstate₁⟩ := hrecovered
  obtain ⟨e₂, he₂, hevolves⟩ := hsound.evolves event hmem _ e₁ he₁
  rw [hevolves.settled (by rw [hstate₁]; rfl)] at he₂
  exact ⟨e₁, he₂, hstate₁⟩

/-- A claim whose time ran out waits for recovery once giving it up has been answered. -/
theorem recovered_of_ranOut (L : LawfulRepository M) {cfg : Configuration σ}
    (hreach : (M.system fp).Reachable cfg) {deadline : Rat} {claimed : ExecutionAttempt}
    (hout : RanOut deadline (own t cfg.history) claimed after) {x : Option ProcessingRecord}
    {rest : List Observation}
    (hacts : acts after = Observation.repository (expiry claimed) (.ok x) :: rest) :
    ∃ e, L.store cfg.state claimed.processingId = some e ∧
      e.processing.state = .recoveryRequired := by
  obtain ⟨before, claim, -, -, -, hsplit, hclaimed, -⟩ := hout
  obtain ⟨id, rfl⟩ := exists_of_claimed hclaimed
  exact L.recovered_of_expiry (hreach.disciplined invocation_disciplined).trace hsplit hacts

end LawfulRepository

/-- **The reconciliation budget is respected.** In every run, of every pass whose clock is not set
back:

* a submission or a poll is given the time left at the reading right before it, which is positive
  and no more than `max_seconds`;
* after a reading at or past the deadline, nothing is claimed, submitted, polled or collected;
* a claim whose time ran out before its submission is given up by the next repository or backend
  call, which is made before the pass returns;
* over PostgreSQL and over the in-memory repository, if that call does not raise, the processing is
  `recovery_required` from then on. -/
theorem reconciliation_budget_respected
    (fp : CanonicalAlert → Except PyError (Int × List UInt8)) :
    (∀ (σ : Type) (M : Repository σ) (cfg : Configuration σ), (M.system fp).Reachable cfg →
      ∀ t maxSeconds started, Passing cfg t maxSeconds started →
        WithinBudget maxSeconds started (own t cfg.history) ∧
        ∀ claimed after, RanOut (started + maxSeconds) (own t cfg.history) claimed after →
          (∀ o rest, acts after = o :: rest → o.call = .repository (expiry claimed)) ∧
          ((cfg.returned t).isSome = true → acts after ≠ [])) ∧
    (∀ (d : Dialect) (cfg : Configuration Db), ((Postgres.repository d).system fp).Reachable cfg →
      ∀ t maxSeconds started, Passing cfg t maxSeconds started → ∀ claimed after,
        RanOut (started + maxSeconds) (own t cfg.history) claimed after → ∀ x rest,
          acts after = Observation.repository (expiry claimed) (.ok x) :: rest →
            ∃ row, cfg.state.store.processings.lookup claimed.processingId = some row ∧
              row.state = "recovery_required") ∧
    (∀ (start : Int) (cfg : Configuration Memory.Clocked),
      ((Memory.clockedRepository start).system fp).Reachable cfg →
      ∀ t maxSeconds started, Passing cfg t maxSeconds started → ∀ claimed after,
        RanOut (started + maxSeconds) (own t cfg.history) claimed after → ∀ x rest,
          acts after = Observation.repository (expiry claimed) (.ok x) :: rest →
            ∃ record, cfg.state.store.memory.records.lookup claimed.processingId = some record ∧
              record.state = .recoveryRequired) := by
  refine ⟨fun σ M cfg hreach t maxSeconds started hpassing => ⟨hpassing.withinBudget hreach,
    fun claimed after hout => ⟨fun o rest => hpassing.givesUp hreach hout,
      hpassing.acts_ne_nil hreach hout⟩⟩, ?_, ?_⟩
  · intro d cfg hreach t maxSeconds started _ claimed after hout x rest hacts
    obtain ⟨e, he, hstate⟩ := (Postgres.lawfulRepository d).recovered_of_ranOut hreach hout hacts
    have hsound : (Postgres.lawfulRepository d).Sound cfg.history cfg.state :=
      LawfulRepository.sound_of_trace (hreach.disciplined invocation_disciplined).trace
    have hrep := Postgres.represents_of_good hsound.good
    refine ⟨e.processing.row, ?_, ?_⟩
    · rw [hrep.processings, Option.map_eq_some_iff]
      exact ⟨e, he, rfl⟩
    · exact congrArg ProcessingState.value hstate
  · intro start cfg hreach t maxSeconds started _ claimed after hout x rest hacts
    obtain ⟨e, he, hstate⟩ := (Memory.lawfulRepository start).recovered_of_ranOut hreach hout hacts
    obtain ⟨record, hrecord, hprocessing, -⟩ := Memory.view_eq_some_iff.mp he
    refine ⟨record, hrecord, ?_⟩
    rw [hprocessing] at hstate
    exact hstate

namespace Scenario

/-- A pass claims the attempt of a planned processing, and finds its deadline gone right after. -/
def expired : Configuration Db := system.replay [.spawn (arrival "key"), run 0 10 1 answers,
  .spawn (pass 0), run 1 9 2 answers, run 1 30 3 { answers with monotonic := 100 }]

theorem expired_passing : Passing expired 1 60 0 :=
  ⟨⟨orchestrator, 10, 0, by decide +kernel⟩, by decide +kernel, by decide +kernel⟩

/-- The claim is the eighth call of the pass, and the late reading the second after it. -/
theorem expired_ranOut : ∃ claimed,
    RanOut (0 + 60) (own 1 expired.history) claimed ((own 1 expired.history).drop 8) := by
  have hclaim : (((own 1 expired.history)[7]?).bind Observation.claimed).isSome = true := by
    decide +kernel
  have hquiet : ((own 1 expired.history)[8]?).all (fun o => o.call.submits = none) = true := by
    decide +kernel
  have hlate : readings (((own 1 expired.history)[9]?).toList) = [100] := by decide +kernel
  generalize own 1 expired.history = h at hclaim hquiet hlate ⊢
  obtain ⟨claimed, hclaim⟩ := Option.isSome_iff_exists.mp hclaim
  obtain ⟨claim, hget, hclaimed⟩ := Option.bind_eq_some_iff.mp hclaim
  obtain ⟨late, hget', hmem⟩ : ∃ late, h[9]? = some late ∧ late = ⟨.monotonic, (100 : Rat)⟩ := by
    have hmem : (100 : Rat) ∈ readings (h[9]?).toList := by simp [hlate]
    exact ⟨_, Option.mem_toList.mp (mem_readings.mp hmem), rfl⟩
  subst hmem
  obtain ⟨hlt, rfl⟩ := List.getElem?_eq_some_iff.mp hget
  obtain ⟨hlt', hlate⟩ := List.getElem?_eq_some_iff.mp hget'
  refine ⟨claimed, h.take 7, h[7], [h[8]], h.drop 10, 100, ?_, hclaimed, ?_, by norm_num, ?_⟩
  · rw [← List.drop_eq_getElem_cons hlt, List.take_append_drop]
  · rw [← hlate, List.singleton_append, ← List.drop_eq_getElem_cons hlt',
      ← List.drop_eq_getElem_cons (by omega)]
  · intro o ho
    rw [List.mem_singleton.mp ho]
    simpa [List.getElem?_eq_getElem (show 8 < h.length by omega)] using hquiet

theorem reconciliation_budget_respected_expired :
    WithinBudget 60 0 (own 1 expired.history) ∧
      ∃ k row, expired.state.store.processings.lookup k = some row ∧
        row.state = "recovery_required" := by
  obtain ⟨hpass, hpostgres, -⟩ := reconciliation_budget_respected fingerprint
  have hreach : system.Reachable expired := System.reachable_replay _
  obtain ⟨claimed, hout⟩ := expired_ranOut
  obtain ⟨hwithin, hgivesUp⟩ := hpass Db _ expired hreach 1 60 0 expired_passing
  have hanswered : (acts ((own 1 expired.history).drop 8)).head?.any
      (fun o => o.repositoryRaised = false) = true := by decide +kernel
  obtain ⟨⟨c, r⟩, hhead, hanswered⟩ := (Option.any_eq_true ..).mp hanswered
  obtain ⟨rest, hacts⟩ := List.head?_eq_some_iff.mp hhead
  obtain rfl : c = .repository (expiry claimed) := (hgivesUp claimed _ hout).1 _ rest hacts
  cases r with
  | error e => cases of_decide_eq_true hanswered
  | ok x =>
      obtain ⟨row, hrow, hstate⟩ :=
        hpostgres dialect expired hreach 1 60 0 expired_passing claimed _ hout x rest hacts
      exact ⟨hwithin, claimed.processingId, row, hrow, hstate⟩

end Scenario

end Alert2IR
