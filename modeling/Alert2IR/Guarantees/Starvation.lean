import Alert2IR.Guarantees.Resumption
import Alert2IR.Queueing.Rounds

/-!
# No reconcilable processing starves

The queue of reconciliation is nothing but the times at which records were last written. Every
branch of the work on a record writes it, so whatever a pass has examined stands behind all it has
not, and passes go round.
-/

namespace Alert2IR

open Interleaving

/-! ### The queue -/

instance (e : Entry) : Decidable e.Open := inferInstanceAs (Decidable (_ ∈ _))

namespace Store

variable {s s' : Store} {k : UUID} {e : Entry} {limit stale a : Int} {ids : List UUID}

/-- When the processings on which there is work left were last written. -/
def stamps (s : Store) (k : UUID) : Option Int :=
  (s k).bind fun e => if e.Open then some e.processing.updatedAt.instant else none

theorem stamps_eq_some_iff : s.stamps k = some a ↔
    ∃ e, s k = some e ∧ e.Open ∧ e.processing.updatedAt.instant = a := by
  simp [stamps, Option.bind_eq_some_iff]

theorem isSome_stamps_iff : (s.stamps k).isSome = true ↔ ∃ e, s k = some e ∧ e.Open := by
  simp [Option.isSome_iff_exists, stamps_eq_some_iff]

/-- All records were written before this time. -/
def Before (s : Store) (now : Int) : Prop :=
  ∀ k e, s k = some e → e.processing.updatedAt.instant < now

/-- Under a clock that goes on, a pass is a round of the queue. -/
theorem Passed.round (hpassed : s.Passed Before ids s') (hfound : s.Found limit stale ids) :
    Queueing.Round ids s.stamps s'.stamps where
  nodup := hfound.nodup
  waiting := by
    intro k hk
    obtain ⟨e, he, hreconcilable⟩ := hfound.reconcilable hk
    exact isSome_stamps_iff.mpr ⟨e, he, open_of_reconcilable hreconcilable⟩
  others := by
    intro k hk
    rw [stamps, stamps, hpassed.others k hk]
  behind := by
    intro k hk k' hk' a b ha hb
    obtain ⟨e, he, -, rfl⟩ := stamps_eq_some_iff.mp ha
    obtain ⟨e₂, he₂, -, rfl⟩ := stamps_eq_some_iff.mp hb
    obtain ⟨-, e', -, he', -, s₁, now, hclock, hsame, hupdated⟩ := hpassed.examined k hk
    obtain rfl := Option.some.inj (he.symm.trans he')
    rw [hupdated, Datetime.instant_ofInstant]
    apply hclock k' e₂
    rw [hsame k' hk', he₂]

/-- A batch leaves out what is reconcilable only if it is full of what precedes it. -/
theorem Found.passesOver (hfound : s.Found limit stale ids) (hk : k ∉ ids) (he : s k = some e)
    (hreconcilable : e.Reconcilable stale) :
    Queueing.PassesOver limit.toNat ids s.stamps k := by
  obtain ⟨all, hnodup, hordered, hall, rfl⟩ := hfound
  have hmem : k ∈ all.take limit.toNat ++ all.drop limit.toNat := by
    rw [List.take_append_drop]
    exact (hall k).mpr ⟨e, he, hreconcilable⟩
  have hrest : k ∈ all.drop limit.toNat := (List.mem_append.mp hmem).resolve_left hk
  rw [← List.take_append_drop limit.toNat all, List.pairwise_append] at hordered
  constructor
  · have hlength := List.length_pos_of_mem hrest
    rw [List.length_drop] at hlength
    rw [List.length_take]
    omega
  · intro k' hk' a b ha hb
    obtain ⟨e₁, he₁, -, rfl⟩ := stamps_eq_some_iff.mp ha
    obtain ⟨e₂, he₂, -, rfl⟩ := stamps_eq_some_iff.mp hb
    rcases hordered.2.2 k' hk' k hrest e₁ e₂ he₁ he₂ with hlt | ⟨heq, -⟩
    · exact hlt.le
    · exact heq.le

end Store

/-! ### Passes one after the other -/

section Passes

variable {σ : Type} {M : Repository σ} {fp : CanonicalAlert → Except PyError (Int × List UInt8)}
  {cfg cfg' : Configuration σ} {limit : Int} {batches : List (List UUID)}

/-- Every repository call of thread `t` was made later than all records were written. -/
def LawfulRepository.Ticks (L : LawfulRepository M) (t : Nat) (cfg : Configuration σ) : Prop :=
  ∀ event ∈ cfg.history, event.thread = t → ∀ c r, event.observed = Observation.repository c r →
    ∃ now, (L.store event.before).Before now ∧
      (L.store event.before).Lawful now c r (L.store event.after)

/-- Passes of one limit, one after the other and nobody else at work, with the batches they
examined. -/
inductive Passes (L : LawfulRepository M)
    (fp : CanonicalAlert → Except PyError (Int × List UInt8)) (limit : Int) :
    Configuration σ → List (List UUID) → Prop
  | nil (cfg : Configuration σ) : Passes L fp limit cfg []
  | cons {cfg cfg' : Configuration σ} {t : Nat} {o : AlertOrchestrator} {maxSeconds : Rat}
      {staleAfter : Int} {now : Datetime} {r : Except PyError Outcome}
      {records : List ProcessingRecord} {batches : List (List UUID)}
      (hpass : LonePass M fp t o limit maxSeconds staleAfter now r
        (cfg.arrive M fp (.reconcileOnce o limit maxSeconds staleAfter)) cfg')
      (hticks : L.Ticks t cfg')
      (hbatch : (own t cfg'.history)[2]? = some (Observation.repository
        (.findReconcilable limit (staleBefore now staleAfter)) (.ok records)))
      (hrest : Passes L fp limit cfg' batches) :
      Passes L fp limit cfg (records.map (·.processingId) :: batches)

/-- Passes are rounds of the queue, for whatever is not in the middle of a submission. -/
theorem Passes.rounds {L : LawfulRepository M} (hpasses : Passes L fp limit cfg batches)
    (hreach : (M.system fp).Reachable cfg) {k : UUID} {e : Entry}
    (he : L.store cfg.state k = some e)
    (hwaits : e.processing.state ∈ [ProcessingState.accepted, .planned, .submitted]) :
    Queueing.Rounds limit.toNat k (L.store cfg.state).stamps batches := by
  induction hpasses with
  | nil cfg => exact .nil _
  | @cons cfg cfg' t o maxSeconds staleAfter now r records batches hpass hticks hbatch _ ih =>
      have harrived : (M.system fp).Reachable
          (cfg.arrive M fp (.reconcileOnce o limit maxSeconds staleAfter)) :=
        hreach.tail (.spawn _ _)
      obtain ⟨records', report, -, -, hbatch', hfound, hpassed, -⟩ :=
        hpass.passed L Store.Before harrived hticks
      have hrecords : records' = records := by
        have heq := hbatch'.symm.trans hbatch
        cases heq
        rfl
      subst hrecords
      by_cases hk : k ∈ records'.map (·.processingId)
      · exact .taken _ _ hk
      · refine .passed (hpassed.round hfound) hk (hfound.passesOver hk he (.inl hwaits)) ?_
        exact ih (harrived.alone hpass.alone) ((hpassed.others k hk).trans he)

/-- **No reconcilable processing starves.** Over either repository, from any state that processors
have come to or crashed in, whatever policy and backends answer: passes of one limit, one after the
other, under a clock that goes on, examine every processing that was accepted, planned or submitted
once they are as many as it takes to hold all on which there is work left. -/
theorem no_starvation (L : LawfulRepository M) (hreach : (M.system fp).Reachable cfg)
    (hpasses : Passes L fp limit cfg batches) {n : Nat}
    (hcount : ∀ all : List UUID, all.Nodup →
      (∀ k ∈ all, ∃ e, L.store cfg.state k = some e ∧ e.Open) → all.length ≤ n)
    (hmany : n ≤ limit.toNat * batches.length) {k : UUID} {e : Entry}
    (he : L.store cfg.state k = some e)
    (hwaits : e.processing.state ∈ [ProcessingState.accepted, .planned, .submitted]) :
    ∃ batch ∈ batches, k ∈ batch := by
  refine (hpasses.rounds hreach he hwaits).exists_batch (fun all hnodup hall => ?_) hmany ?_
  · exact hcount all hnodup fun k hk => Store.isSome_stamps_iff.mp (hall k hk).1
  · exact Store.isSome_stamps_iff.mpr ⟨e, he, Store.open_of_reconcilable
      (.inl hwaits : e.Reconcilable 0)⟩

end Passes

namespace Scenario

open Postgres

/-- When the last record was written. -/
def latest (db : Db) : Int :=
  (db.processings.keys.filterMap fun k =>
    (Postgres.view db k).map (·.processing.updatedAt.instant)).foldr max 0

theorem le_foldr_max {l : List Int} {a : Int} (ha : a ∈ l) : a ≤ l.foldr max 0 := by
  induction l with
  | nil => cases ha
  | cons b l ih =>
      rcases List.mem_cons.mp ha with rfl | hmem
      · exact le_max_left ..
      · exact (ih hmem).trans (le_max_right ..)

theorem before_latest (db : Db) : Store.Before (Postgres.view db) (latest db + 1) := by
  intro k e he
  have hmem : e.processing.updatedAt.instant ∈ db.processings.keys.filterMap fun k =>
      (Postgres.view db k).map (·.processing.updatedAt.instant) :=
    List.mem_filterMap.mpr ⟨k, mem_keys_of_view he, by rw [he]; rfl⟩
  have hle := le_foldr_max hmem
  rw [latest]
  omega

/-- Every operation is made later than the last. -/
def goingOn (a : Answers) : Environment system :=
  (Postgres.repository dialect).environment fingerprint
    (fun c db => Postgres.exec dialect (latest db + 1) c db) (fun _ _ => ⟨_, .inl rfl⟩) a

theorem ticks_of_turns {cfg : Configuration Db} {t n : Nat} {a : Answers}
    (hreach : system.Reachable cfg) (hfresh : own t cfg.history = []) :
    (lawfulRepository dialect).Ticks t (System.turns t (goingOn a) n cfg) := by
  intro event hmem hthread c r hobserved
  have hreach' : system.Reachable (System.turns t (goingOn a) n cfg) :=
    System.reachable_turns hreach
  have hsound : (lawfulRepository dialect).Sound _ _ :=
    LawfulRepository.sound_of_trace (hreach'.disciplined invocation_disciplined).trace
  have hevent := hsound.events event hmem
  rcases System.answered_of_turns (goingOn a) n cfg event hmem with hold | ⟨-, hanswer⟩
  · have hseen : event.observed ∈ own t cfg.history := mem_own.mpr ⟨event, hold, hthread, rfl⟩
    rw [hfresh] at hseen
    cases hseen
  · obtain ⟨t', w, _, r, w'⟩ := event
    cases hobserved
    have hanswered := Option.some.inj hanswer
    have hexec : Postgres.exec dialect (latest w.store + 1) c w.store = (r, w'.store) := by
      have hfirst : (Postgres.exec dialect (latest w.store + 1) c w.store).1 = r :=
        congrArg Prod.fst hanswered
      have hsecond : (Postgres.exec dialect (latest w.store + 1) c w.store).2 = w'.store :=
        congrArg (fun answered => answered.2.store) hanswered
      rw [← hfirst, ← hsecond]
      rfl
    obtain ⟨hgood, hfits, -⟩ := hevent
    have hs := (lawfulRepository dialect).coherent hgood
    obtain ⟨s', hrep, hlawful⟩ := exec_lawful hs (represents_of_good hgood) hfits hexec
    rw [← hrep.view_eq (hlawful.coherent hs hfits)] at hlawful
    exact ⟨latest w.store + 1, before_latest w.store, hlawful⟩

/-- A replayed pass goes before the passes that follow. -/
theorem passes_of_turns {cfg : Configuration Db} {t n : Nat} {a : Answers} {limit : Int}
    (now : Datetime) {batches : List (List UUID)} (hreach : system.Reachable cfg)
    (hlone : isLone (cfg.arrive (Postgres.repository dialect) fingerprint
      (.reconcileOnce orchestrator limit 60 0)) (System.turns t (goingOn a) n
        (cfg.arrive (Postgres.repository dialect) fingerprint
          (.reconcileOnce orchestrator limit 60 0))) t limit now = true)
    (hrest : Passes (lawfulRepository dialect) fingerprint limit (System.turns t (goingOn a) n
      (cfg.arrive (Postgres.repository dialect) fingerprint
        (.reconcileOnce orchestrator limit 60 0))) batches) :
    ∃ batch, Passes (lawfulRepository dialect) fingerprint limit cfg (batch :: batches) := by
  have harrived : system.Reachable (cfg.arrive (Postgres.repository dialect) fingerprint
      (.reconcileOnce orchestrator limit 60 0)) := hreach.tail (.spawn _ _)
  obtain ⟨r, hpass⟩ := lonePass_of_turns hlone
  have hticks := ticks_of_turns (n := n) (a := a) harrived hpass.fresh
  obtain ⟨records, -, -, -, hbatch, -⟩ :=
    hpass.passed (lawfulRepository dialect) Store.Before harrived hticks
  exact ⟨_, .cons hpass hticks hbatch hrest⟩

/-- One operation that does not end. -/
def unending : Answers :=
  { answers with poll := .ok (some (status .nonterminal)), wallClock := .ofInstant 5 }

def passedOnce : Configuration Db := System.turns 3 (goingOn unending) 100
  (interrupted.arrive (Postgres.repository dialect) fingerprint
    (.reconcileOnce orchestrator 2 60 0))

def passedTwice : Configuration Db := System.turns 4 (goingOn unending) 100
  (passedOnce.arrive (Postgres.repository dialect) fingerprint
    (.reconcileOnce orchestrator 2 60 0))

theorem no_starvation_interrupted : ∃ batches,
    Passes (lawfulRepository dialect) fingerprint 2 interrupted batches ∧ batches.length = 2 ∧
      ∃ batch ∈ batches, BitVec.ofNat 128 1 ∈ batch := by
  have hreach : system.Reachable passedOnce :=
    System.reachable_turns (interrupted_reachable.tail (.spawn _ _))
  have hlone : isLone (passedOnce.arrive (Postgres.repository dialect) fingerprint
      (.reconcileOnce orchestrator 2 60 0)) passedTwice 4 2 (.ofInstant 5) = true := by
    decide +kernel
  obtain ⟨second, hsecond⟩ := passes_of_turns (.ofInstant 5) hreach hlone (.nil _)
  obtain ⟨first, hpasses⟩ := passes_of_turns (.ofInstant 5) interrupted_reachable
    (by decide +kernel) hsecond
  refine ⟨_, hpasses, rfl, ?_⟩
  have hentry : ∃ e, (lawfulRepository dialect).store interrupted.state
    (BitVec.ofNat 128 1) = some e ∧
      e.processing.state = .planned := by
    have hplanned : ((lawfulRepository dialect).store interrupted.state (BitVec.ofNat 128 1)).any
        (fun e => e.processing.state = .planned) = true := by decide +kernel
    obtain ⟨e, he, hstate⟩ := (Option.any_eq_true ..).mp hplanned
    exact ⟨e, he, of_decide_eq_true hstate⟩
  obtain ⟨e, he, hstate⟩ := hentry
  refine no_starvation (n := 3) (lawfulRepository dialect) interrupted_reachable hpasses
    (fun all hnodup hall => ?_) (by simp) he (by simp [hstate])
  have hlength := length_le_of_view hnodup fun k hk => (hall k hk).imp fun e he => he.1
  have hthree : interrupted.state.store.processings.keys.length = 3 := by decide +kernel
  rw [hthree] at hlength
  exact hlength

end Scenario

end Alert2IR
