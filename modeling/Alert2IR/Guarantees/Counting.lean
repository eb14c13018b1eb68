import Mathlib.Data.Set.Card
import Alert2IR.Application.Bookkeeping
import Alert2IR.Application.Passes
import Alert2IR.Lifecycle.Runs
import Alert2IR.Persistence.PostgresLaw
import Alert2IR.Persistence.Scenario

/-!
# Counted transitions

The books of all processors are laid over what the repository has committed. In a run in which
everybody returns and the repository raises nothing the two differ by the moves that were forgotten
and by the moves of others that were counted again, and by nothing else.
-/

namespace Alert2IR

open Interleaving

/-! ### What an operation that has been carried out has done -/

/-- An operation with a transition makes this transition. -/
theorem Entry.transition_of_advance {now : Int} {c : RepositoryCall} {e e' : Entry} {τ : Transition}
    (hcoherent : e.Coherent) (hadvance : e.advance now c = some e') (hτ : c.transition = some τ) :
    τ = (some e.processing.state, e'.processing.state) := by
  have hserves : ∀ {a}, e.attempt = some a → e.processing.state = a.state.processingState := by
    intro a ha
    obtain ⟨q, b, -, hserves⟩ := hcoherent.executing ha
    exact hserves.state
  have hmoved : ∀ {a expected attemptSet processingSet} {s s' : ProcessingState},
      e.move a [expected] attemptSet processingSet = some e' → expected.processingState = s →
      (∀ p, (processingSet p).state = s') → (some s, s') =
        (some e.processing.state, e'.processing.state) := by
    intro a expected attemptSet processingSet s s' h hs hs'
    obtain ⟨b, hb, -, hstate, rfl⟩ := Entry.move_eq_some_iff.mp h
    rw [hserves hb, List.mem_singleton.mp hstate, hs, hs']
  cases c with
  | acceptProcessing | get | getAttemptForProcessing | findReconcilable => cases hadvance
  | recordPoll => cases hτ
  | storeNoActionResult =>
      cases hτ
      obtain ⟨⟨-, hstate⟩, heq⟩ := Option.ite_none_right_eq_some.mp hadvance
      cases heq
      rw [hstate]
      rfl
  | storePlan =>
      cases hτ
      obtain ⟨⟨-, hstate⟩, heq⟩ := Option.ite_none_right_eq_some.mp hadvance
      cases heq
      rw [hstate]
      rfl
  | claimAttemptForSubmission | markAttemptSubmitted | completeProcessing =>
      cases hτ
      exact hmoved hadvance rfl fun _ => rfl
  | failProcessing k expected category detail attemptId =>
      obtain ⟨s, rfl, rfl⟩ : ∃ s, expected = [s] ∧ τ = (some s, .failed) := by
        rcases expected with _ | ⟨s, _ | ⟨s', expected⟩⟩ <;> cases hτ
        exact ⟨s, rfl, rfl⟩
      obtain ⟨⟨-, hstate⟩, hfails⟩ := Option.ite_none_right_eq_some.mp hadvance
      rw [List.mem_singleton.mp hstate]
      cases attemptId with
      | none =>
          cases hfails
          rfl
      | some attemptId =>
          obtain ⟨a, -, -, -, rfl⟩ := Entry.move_eq_some_iff.mp hfails
          rfl
  | markRecoveryRequired a expected category detail =>
      obtain ⟨s, rfl, rfl⟩ :
          ∃ s, expected = [s] ∧ τ = (some s.processingState, .recoveryRequired) := by
        rcases expected with _ | ⟨s, _ | ⟨s', expected⟩⟩ <;> cases hτ
        exact ⟨s, rfl, rfl⟩
      exact hmoved hadvance rfl fun _ => rfl

/-- An operation that has no transition leaves the state of a processing alone. -/
def RepositoryCall.Named (c : RepositoryCall) : Prop := c.transition = none →
  ∀ (now : Int) (e e' : Entry), e.advance now c = some e' → e'.processing.state = e.processing.state

/-- So does every one a processor issues. -/
theorem Issues.named {fp : CanonicalAlert → Except PyError (Int × List UInt8)} {i : Invocation}
    {h : List Observation} {c : RepositoryCall} (hissues : Issues fp i h (.repository c)) :
    c.Named := by
  intro hnone now e e' hadvance
  cases hissues with
  | quiet hquiet => cases hquiet
  | accept | findReconcilable | get | getAttempt => cases hadvance
  | recordTimeout | recordStatus =>
      obtain ⟨a, -, -, -, rfl⟩ := Entry.move_eq_some_iff.mp hadvance
      rfl
  | _ => cases hnone

section Runs

variable {σ : Type} {M : Repository σ} {L : LawfulRepository M}
  {fp : CanonicalAlert → Except PyError (Int × List UInt8)} {is : List Invocation}
  {h : List (Event σ)} {w : World σ} {event : Event σ} {τ : Transition}

namespace LawfulRepository

/-- An event takes the processing `k` through a transition. -/
def Takes (L : LawfulRepository M) (τ : Transition) (event : Event σ) (k : UUID) : Prop :=
  (L.store event.before k).map (fun e => e.processing.state) = τ.1 ∧
    (L.store event.after k).map (fun e => e.processing.state) = some τ.2

/-- How many durable transitions of this kind a history has. -/
noncomputable def committed (L : LawfulRepository M) (τ : Transition) (h : List (Event σ)) : Nat :=
  (h.map fun event => {k | L.Takes τ event k}.ncard).sum

/-- What a call that has written has made of one processing. -/
theorem moves_cases {s s' : Store} {now : Int} {c : RepositoryCall} (hcoherent : s.Coherent)
    (hnamed : c.Named) (hmoves : s.Moves now c s') :
    ∃ k e', s' = Function.update s k (some e') ∧ c.Concerns e' ∧
      (c.transition = some ((s k).map (fun e => e.processing.state), e'.processing.state) ∨
        c.transition = none ∧ (s k).map (fun e => e.processing.state) =
          some e'.processing.state) := by
  cases hmoves with
  | accept hfresh hnew =>
      exact ⟨_, _, rfl, ⟨rfl, rfl⟩, .inl (by rw [hfresh]; rfl)⟩
  | @advance _ k e e' hentry hadvance hfresh =>
      refine ⟨k, e', rfl, Entry.concerns_of_advanced hadvance, ?_⟩
      rw [hentry, Option.map_some]
      cases hτ : c.transition with
      | none => exact .inr ⟨rfl, congrArg some (hnamed hτ now e e' hadvance).symm⟩
      | some τ =>
          exact .inl (congrArg some
            (Entry.transition_of_advance (hcoherent.entry k e hentry) hadvance hτ))

/-- An event that changes one entry takes only its processing through a transition. -/
theorem takes_iff {k k' : UUID} {e : Entry}
    (hafter : L.store event.after = Function.update (L.store event.before) k (some e))
    (hdistinct : τ.1 ≠ some τ.2) : L.Takes τ event k' ↔ k' = k ∧
      τ = ((L.store event.before k).map (fun e => e.processing.state), e.processing.state) := by
  unfold Takes
  rw [hafter]
  by_cases heq : k' = k
  · subst heq
    rw [Function.update_self, Option.map_some, Option.some.injEq, Prod.ext_iff]
    simp only [true_and]
    exact and_congr eq_comm eq_comm
  · rw [Function.update_of_ne heq]
    constructor
    · rintro ⟨hbefore, hsame⟩
      exact absurd (hbefore.symm.trans hsame) hdistinct
    · rintro ⟨hk, -⟩
      exact absurd hk heq

/-- **An event commits a transition exactly if its call has won it.** -/
theorem SoundEvent.committed_eq (hevent : L.SoundEvent event)
    (hnamed : ∀ c, event.call = .repository c → c.Named)
    (hsteady : Observation.repositoryRaised event.observed = false) (hdistinct : τ.1 ≠ some τ.2) :
    {k | L.Takes τ event k}.ncard = if Observation.wins τ event.observed then 1 else 0 := by
  have hempty : L.store event.after = L.store event.before → {k | L.Takes τ event k}.ncard = 0 := by
    intro hsame
    have hnobody : {k | L.Takes τ event k} = ∅ := by
      refine Set.eq_empty_of_forall_notMem fun k htakes => hdistinct ?_
      rw [← htakes.1, ← htakes.2, hsame]
    rw [hnobody, Set.ncard_empty]
  obtain ⟨t, w, c, r, w'⟩ := event
  obtain ⟨hgood, hcall⟩ := hevent
  cases c with
  | repository c =>
      rcases r with e | x
      · cases hsteady
      obtain ⟨hfits, now, hlawful⟩ := hcall
      rw [Event.observed, Observation.wins_repository]
      cases hwrote : c.wrote x with
      | false => exact hempty (hlawful.refused x rfl hwrote).1
      | true =>
          obtain ⟨k, e, hafter, -, hτ⟩ :=
            moves_cases (L.coherent hgood) (hnamed c rfl) (hlawful.wrote x rfl hwrote)
          by_cases heq : c.transition = some τ
          · have hset : {k' | L.Takes τ ⟨t, w, .repository c, .ok x, w'⟩ k'} = {k} := by
              ext k'
              rw [Set.mem_ofPred_eq, Set.mem_singleton_iff, takes_iff hafter hdistinct]
              refine and_iff_left_of_imp fun _ => ?_
              rcases hτ with hτ | ⟨hτ, -⟩
              · exact Option.some.inj (heq.symm.trans hτ)
              · rw [hτ] at heq
                cases heq
            rw [hset, Set.ncard_singleton, heq]
            simp
          · have hset : {k' | L.Takes τ ⟨t, w, .repository c, .ok x, w'⟩ k'} = ∅ := by
              refine Set.eq_empty_of_forall_notMem fun k' htakes => ?_
              obtain ⟨-, rfl⟩ := (takes_iff hafter hdistinct).mp htakes
              rcases hτ with hτ | ⟨-, hsame⟩
              · exact heq hτ
              · exact hdistinct hsame
            rw [hset, Set.ncard_empty]
            simp [heq]
  | _ =>
      have hsame : w'.store = w.store := hcall
      exact hempty (congrArg L.view hsame)

/-- **What is committed is what has been won.** -/
theorem committed_eq (htrace : (M.system fp).Trace (Issues fp) is h w)
    (hsteady : ∀ event ∈ h, Observation.repositoryRaised event.observed = false)
    (hdistinct : τ.1 ≠ some τ.2) :
    L.committed τ h = h.countP fun event => Observation.wins τ event.observed := by
  have hsound : L.Sound h w := sound_of_trace htrace
  have hone : ∀ event ∈ h, {k | L.Takes τ event k}.ncard =
      if Observation.wins τ event.observed then 1 else 0 := by
    intro event hmem
    refine (hsound.events event hmem).committed_eq (fun c hc => ?_) (hsteady event hmem) hdistinct
    obtain ⟨h₁, h₂, rfl⟩ := List.append_of_mem hmem
    obtain ⟨is₁, i, -, -, hissues, -⟩ := htrace.split rfl
    exact Issues.named (hc ▸ hissues)
  unfold committed
  rw [List.map_congr_left hone]
  clear htrace hsteady hsound hone
  induction h with
  | nil => rfl
  | cons event h ih => rw [List.map_cons, List.sum_cons, ih, List.countP_cons, Nat.add_comm]

/-- A call that has written hands over the processing it is about. -/
theorem durable_of_won {s : Store} {c : RepositoryCall} {x : c.Result} {k : UUID} {e : Entry}
    {r : ProcessingRecord} (hcoherent : s.Coherent) (hwrote : c.wrote x = true)
    (hreports : c.Reports s x) (he : s k = some e) (hconcerns : c.Concerns e)
      (hr : r ∈ c.records x) :
    e.processing = r.toProcessingFields.durable := by
  obtain ⟨e', he', hdurable, hconcerns'⟩ := hreports.records r hr
  have hk : k = r.processingId := by
    cases c with
    | acceptProcessing =>
        exact hcoherent.identities _ _ _ _ he he' (hconcerns.1.trans hconcerns'.1.symm)
          (hconcerns.2.trans hconcerns'.2.symm)
    | get | getAttemptForProcessing | findReconcilable => cases hwrote
    | _ => exact hcoherent.concerned_unique rfl he he' hconcerns hconcerns'
  rw [← hdurable, Option.some.inj (he.symm.trans (hk ▸ he'))]

/-- **What a lawful repository answers is true.** -/
theorem truthful_own (htrace : (M.system fp).Trace (Issues fp) is h w)
    (hsteady : ∀ event ∈ h, Observation.repositoryRaised event.observed = false)
      (L : LawfulRepository M)
    (t : Nat) : Truthful (own t h) := by
  have hsound : L.Sound h w := sound_of_trace htrace
  constructor
  · intro c e hmem
    obtain ⟨event, hevent, -, hobserved⟩ := mem_own.mp hmem
    have hraised := hsteady event hevent
    rw [hobserved] at hraised
    cases hraised
  · intro c x τ hmem hwrote hτ r hr
    obtain ⟨⟨t', w₀, c', r', w₁⟩, hevent, -, hobserved⟩ := mem_own.mp hmem
    cases hobserved
    obtain ⟨h₁, h₂, rfl⟩ := List.append_of_mem hevent
    obtain ⟨is₁, i, -, -, hissues, -⟩ := htrace.split rfl
    have hcoherent' := (hsound.events _ hevent).coherent
    obtain ⟨hgood, hfits, now, hlawful⟩ := hsound.events _ hevent
    obtain ⟨k, e, hafter, hconcerns, hmoved⟩ :=
      moves_cases (L.coherent hgood) (Issues.named hissues)
      (hlawful.wrote x rfl hwrote)
    have hself : L.store w₁ k = some e := by rw [hafter, Function.update_self]
    have hdurable := durable_of_won hcoherent' hwrote (hlawful.reports x rfl) hself hconcerns hr
    rcases hmoved with hmoved | ⟨hmoved, -⟩
    · cases hτ.symm.trans hmoved
      exact (congrArg ProcessingFields.state hdurable).symm
    · rw [hmoved] at hτ
      cases hτ
  · intro k alert scope key version digest acceptance hmem hcreated
    obtain ⟨⟨t', w₀, c', r', w₁⟩, hevent, -, hobserved⟩ := mem_own.mp hmem
    cases hobserved
    have hcoherent' := (hsound.events _ hevent).coherent
    obtain ⟨hgood, hfits, now, hlawful⟩ := hsound.events _ hevent
    have hmoves := hlawful.wrote acceptance rfl hcreated
    have hreports := hlawful.reports acceptance rfl
    dsimp only at hmoves hreports hcoherent'
    generalize hs : L.store w₁ = s' at hmoves hreports hcoherent'
    cases hmoves with
    | accept hfresh hnew =>
        have hdurable := durable_of_won (c := .acceptProcessing k alert scope key version digest)
          (x := acceptance) hcoherent' hcreated hreports (Function.update_self ..) ⟨rfl, rfl⟩
          (List.mem_singleton.mpr rfl)
        exact ⟨(congrArg ProcessingFields.fingerprintVersion hdurable).symm,
          (congrArg ProcessingFields.requestFingerprint hdurable).symm⟩
    | advance hentry hadvance hfresh => cases hadvance

end LawfulRepository

/-- How often `record_transition` has been called for a transition. -/
def recorded (τ : Transition) (h : List (Event σ)) : Nat :=
  h.countP fun event => Observation.counts τ event.observed

/-- How often a transition has been made that is counted nowhere. -/
def forgotten (τ : Transition) (h : List (Event σ)) : Nat :=
  h.countP fun event => Observation.forgets τ event.observed

/-- How often a transition has been counted by one who found it made by another. -/
def repeated (τ : Transition) (cfg : Configuration σ) : Nat :=
  ∑ t ∈ Finset.range cfg.threads.length, recounted τ (own t cfg.history)

section Books

variable {cfg : Configuration σ} (L : LawfulRepository M) (hreach : (M.system fp).Reachable cfg)
  (hreturned : ∀ t < cfg.threads.length, (cfg.returned t).isSome = true)
  (hsteady : ∀ event ∈ cfg.history, Observation.repositoryRaised event.observed = false)
  (hdistinct : τ.1 ≠ some τ.2)
include hreach hreturned hsteady hdistinct

/-- **The books of all processors together.** -/
theorem recorded_add_forgotten : recorded τ cfg.history + forgotten τ cfg.history =
    L.committed τ cfg.history + repeated τ cfg := by
  have htrace := (hreach.disciplined invocation_disciplined).trace
  have hthreads : ∀ event ∈ cfg.history, event.thread < cfg.threads.length := by
    intro event hmem
    have hlt := htrace.thread_lt event hmem
    rwa [List.length_map] at hlt
  have hbalance : ∀ t ∈ Finset.range cfg.threads.length,
      (own t cfg.history).countP (Observation.counts τ) +
          (own t cfg.history).countP (Observation.forgets τ) =
        (own t cfg.history).countP (Observation.wins τ) + recounted τ (own t cfg.history) := by
    intro t ht
    obtain ⟨r, hr⟩ := Option.isSome_iff_exists.mp (hreturned t (Finset.mem_range.mp ht))
    obtain ⟨i, hthread⟩ := Config.returned_eq_some_iff.mp hr
    exact (i.balances fp _ _ (hreach.leads hthread)
      (LawfulRepository.truthful_own htrace hsteady L t)).balance τ
  have hsum := Finset.sum_congr rfl hbalance
  rw [Finset.sum_add_distrib, Finset.sum_add_distrib] at hsum
  have hrecorded : recorded τ cfg.history = _ := countP_eq_sum_own (Observation.counts τ) hthreads
  have hforgotten : forgotten τ cfg.history = _ :=
    countP_eq_sum_own (Observation.forgets τ) hthreads
  have hcommitted : L.committed τ cfg.history = _ :=
    (LawfulRepository.committed_eq htrace hsteady hdistinct).trans
      (countP_eq_sum_own (Observation.wins τ) hthreads)
  rwa [← hrecorded, ← hforgotten, ← hcommitted] at hsum

/-- **Transitions are counted once, exactly if as many are counted again as are forgotten**, and so
wherever no step forgets one and none finds one made by another. -/
theorem transitions_counted_iff :
    (recorded τ cfg.history = L.committed τ cfg.history ↔
      forgotten τ cfg.history = repeated τ cfg) ∧
    ((∀ event ∈ cfg.history, Observation.forgets τ event.observed = false) →
      (∀ t < cfg.threads.length, recounted τ (own t cfg.history) = 0) →
      recorded τ cfg.history = L.committed τ cfg.history) := by
  have hbooks := recorded_add_forgotten L hreach hreturned hsteady hdistinct
  refine ⟨by omega, fun hforgets hfinds => ?_⟩
  have hforgotten : forgotten τ cfg.history = 0 := by
    refine List.countP_eq_zero.mpr fun event hmem => ?_
    rw [hforgets event hmem]
    exact Bool.false_ne_true
  have hrepeated : repeated τ cfg = 0 :=
    Finset.sum_eq_zero fun t ht => hfinds t (Finset.mem_range.mp ht)
  omega

end Books

end Runs

namespace Scenario

open Postgres

/-- One processor delivers the alert, and the backend cannot be asked what has become of it. -/
def unanswered : Configuration Db := system.replay [.spawn (arrival "key"),
  run 0 30 1 { answers with poll := .error (.runtimeError "unreachable") }]

/-- The processing is left for recovery, and no counter says so. -/
theorem unanswered_uncounted : ∃ (cfg : Configuration Db) (τ : Transition), system.Reachable cfg ∧
    (∀ t < cfg.threads.length, (cfg.returned t).isSome = true) ∧
    (∀ event ∈ cfg.history, Observation.repositoryRaised event.observed = false) ∧
    τ.1 ≠ some τ.2 ∧ recorded τ cfg.history ≠
      (lawfulRepository dialect).committed τ cfg.history := by
  have hreach : system.Reachable unanswered := System.reachable_replay _
  have hreturned : ∀ t < unanswered.threads.length, (unanswered.returned t).isSome = true := by
    decide +kernel
  have hsteady : ∀ event ∈ unanswered.history,
      Observation.repositoryRaised event.observed = false := by
    have hall : (unanswered.history.all fun event =>
        !Observation.repositoryRaised event.observed) = true := by decide +kernel
    simpa using hall
  have hforgotten : forgotten (some .submitted, .recoveryRequired) unanswered.history = 1 := by
    decide +kernel
  have hrepeated : repeated (some .submitted, .recoveryRequired) unanswered = 0 := by
    decide +kernel
  have hbooks := recorded_add_forgotten (lawfulRepository dialect) hreach hreturned hsteady
    (τ := (some .submitted, .recoveryRequired)) (by decide)
  exact ⟨unanswered, (some .submitted, .recoveryRequired), hreach, hreturned, hsteady, by decide,
    by omega⟩

/-- An alert that is delivered without anything amiss is counted on its way. -/
theorem delivered_counted :
    (recorded (some .submitted, .completed) delivered.history =
        (lawfulRepository dialect).committed (some .submitted, .completed) delivered.history ↔
      forgotten (some .submitted, .completed) delivered.history =
        repeated (some .submitted, .completed) delivered) ∧
    recorded (some .submitted, .completed) delivered.history = 1 := by
  have hsteady : ∀ event ∈ delivered.history,
      Observation.repositoryRaised event.observed = false := by
    have hall : (delivered.history.all fun event =>
        !Observation.repositoryRaised event.observed) = true := by decide +kernel
    simpa using hall
  exact ⟨(transitions_counted_iff (lawfulRepository dialect) delivered_reachable
    (by decide +kernel) hsteady (by decide)).1, by decide +kernel⟩

end Scenario

end Alert2IR
