import Alert2IR.Guarantees.Coherence
import Alert2IR.Persistence.MemoryFrame

/-!
# The history of a processing

Whatever any number of processors do, and wherever they crash, a processing moves along the edges of
the transition table, keeps what its acceptance, its plan and its submission have fixed, and is left
alone once it is settled.
-/

namespace Alert2IR

open Interleaving

section Runs

variable {σ : Type} {M : Repository σ} {L : LawfulRepository M}
  {fp : CanonicalAlert → Except PyError (Int × List UInt8)} {is : List Invocation}
  {h : List (Event σ)} {w : World σ}

/-- What a run does to the entries it goes through. -/
structure Orderly (view : σ → Store) (history : List (Event σ)) : Prop where
  /-- A change of state is an edge of the transition table. -/
  edges : ∀ event ∈ history, ∀ k e e', view event.before.store k = some e →
    view event.after.store k = some e' → e'.processing.state ≠ e.processing.state →
    processingTransitionAllowed e.processing.state e'.processing.state = true
  /-- What is settled is never changed again. -/
  settled : history.Pairwise fun event later => ∀ k e, view event.after.store k = some e →
    e.processing.state.isSettled = true → view later.after.store k = some e
  /-- What an acceptance, a plan and a submission fix stays as it is. -/
  fixed : history.Pairwise fun event later => ∀ k e, view event.after.store k = some e →
    ∃ e', view later.after.store k = some e' ∧ e.processing.SameIdentity e'.processing ∧
      ∀ a, e.attempt = some a → e.processing.SamePlan e'.processing ∧
        ∃ a', e'.attempt = some a' ∧ a.SameOperation a'

theorem LawfulRepository.orderly (htrace : (M.system fp).Trace (Issues fp) is h w) :
    Orderly L.view h := by
  have hsound : L.Sound h w := sound_of_trace htrace
  have hevolves := (htrace.pairwise (fun w w' => (L.store w).EvolvesTo (L.store w'))
    (fun w => .refl _) (fun h h' => h.trans h')
    fun event hmem => (hsound.events event hmem).evolves).2
  refine ⟨fun event hmem k e e' he he' hchanged => ?_, ?_, ?_⟩
  · rcases (hsound.events event hmem).entry he with hsame |
      ⟨c, now, e₁, -, he₁, -, -, hallowed, -⟩
    · obtain rfl := Option.some.inj (hsame.symm.trans he')
      exact absurd rfl hchanged
    · obtain rfl := Option.some.inj (he₁.symm.trans he')
      exact hallowed
  · refine hevolves.imp fun {event later} hlater k e he hsettled => ?_
    obtain ⟨e', he', hevolved⟩ := hlater k e he
    rw [← hevolved.settled hsettled]
    exact he'
  · refine hevolves.imp fun {event later} hlater k e he => ?_
    obtain ⟨e', he', hevolved⟩ := hlater k e he
    exact ⟨e', he', hevolved.identity, hevolved.plan⟩

end Runs

namespace Postgres

variable {d : Dialect} {fp : CanonicalAlert → Except PyError (Int × List UInt8)}
  {is : List Invocation} {h : List (Event Db)} {w : World Db}

/-- The rows of a run are those of the entries it goes through. -/
theorem represents_of_trace (htrace : ((repository d).system fp).Trace (Issues fp) is h w)
    {event : Event Db} (hmem : event ∈ h) :
    Represents event.after.store (view event.after.store) ∧ (view event.after.store).Coherent := by
  obtain ⟨h₁, h₂, rfl⟩ := List.append_of_mem hmem
  obtain ⟨is₁, htrace₁⟩ := htrace.upto _ _ _ rfl
  have hsound₁ : (lawfulRepository d).Sound (h₁ ++ [event]) event.after :=
    LawfulRepository.sound_of_trace htrace₁
  exact ⟨represents_of_good hsound₁.good, hsound₁.coherent⟩

/-- What a settled row says of the entry it is the row of. -/
theorem settled_of_row {p : ProcessingFields}
    (hsettled : p.row.state ∈ ["completed", "failed", "recovery_required"]) :
    p.state.isSettled = true := by
  rw [ProcessingFields.row_state] at hsettled
  revert hsettled
  cases p.state <;> decide

/-- Rows that are settled stay as they are. -/
theorem rows_settled (htrace : ((repository d).system fp).Trace (Issues fp) is h w) :
    h.Pairwise fun event later => ∀ k row, event.after.store.processings.lookup k = some row →
      row.state ∈ ["completed", "failed", "recovery_required"] →
      later.after.store.processings.lookup k = some row ∧
        attemptsOf later.after.store k = attemptsOf event.after.store k := by
  have horderly := (LawfulRepository.orderly (L := lawfulRepository d) htrace).settled
  refine horderly.imp_of_mem fun {event later} hevent hlater hsettled k row hrow hstate => ?_
  obtain ⟨hrep, hcoherent⟩ := represents_of_trace htrace hevent
  obtain ⟨hrep', hcoherent'⟩ := represents_of_trace htrace hlater
  rw [hrep.processings, Option.map_eq_some_iff] at hrow
  obtain ⟨e, he, rfl⟩ := hrow
  have he' : view later.after.store k = some e := hsettled k e he (settled_of_row hstate)
  refine ⟨hrep'.lookup_some he', ?_⟩
  rw [attemptsOf, attemptsOf, filter_attempts hrep hcoherent, filter_attempts hrep' hcoherent', he,
    he']

end Postgres

namespace Memory

variable {start : Int} {fp : CanonicalAlert → Except PyError (Int × List UInt8)}
  {is : List Invocation} {h : List (Event Clocked)} {w : World Clocked}

/-- Records that are settled stay as they are. -/
theorem records_settled (htrace : ((clockedRepository start).system fp).Trace (Issues fp) is h w) :
    h.Pairwise fun event later => ∀ k r, event.after.store.memory.records.lookup k = some r →
      r.state.isSettled = true →
      Frozen k event.after.store.memory later.after.store.memory := by
  have hsound : (lawfulRepository start).Sound h w := LawfulRepository.sound_of_trace htrace
  refine (htrace.pairwise
    (fun w w' => ∀ k r, w.store.memory.records.lookup k = some r →
      r.state.isSettled = true → Frozen k w.store.memory w'.store.memory)
    (fun _ _ _ _ _ => .rfl) ?_ ?_).2
  · intro w w' w'' hfirst hsecond k r hr hsettled
    obtain ⟨hrecord, hattempt⟩ := hfirst k r hr hsettled
    obtain ⟨hrecord', hattempt'⟩ := hsecond k r (hrecord.trans hr) hsettled
    exact ⟨hrecord'.trans hrecord, hattempt'.trans hattempt⟩
  · intro event hmem k r hr hsettled
    obtain ⟨hgood, hcall⟩ := hsound.events event hmem
    obtain ⟨h₁, h₂, rfl⟩ := List.append_of_mem hmem
    obtain ⟨-, -, -, -, -, hstep⟩ := htrace.split rfl
    obtain ⟨t, before, c, response, after⟩ := event
    cases c with
    | repository c =>
        obtain ⟨now, -, -, hexec, -⟩ := hstep.1
        obtain ⟨hkept, hcoherent⟩ := hgood
        have hfrozen : Frozen k before.store.memory (exec now c before.store.memory).2 :=
          exec_frozen hkept hcoherent hcall.1 hr hsettled
        rwa [hexec] at hfrozen
    | _ =>
        have hsame : after.store = before.store := hcall
        rw [hsame]
        exact .rfl

end Memory

/-- **The history of a processing is orderly**, whoever calls, in whatever order, and wherever the
callers crash. Changes of state are edges of the transition table; the two rows of a processing, or
its record and its attempt in the dicts, stay as they are once it is settled; and what acceptance,
planning and submission fix is fixed, times being the same if they are the same instant. -/
theorem lifecycle_history (fp : CanonicalAlert → Except PyError (Int × List UInt8)) :
    (∀ (d : Dialect) (cfg : Configuration Db), ((Postgres.repository d).system fp).Reachable cfg →
      (∀ event ∈ cfg.history,
        Postgres.Represents event.after.store (Postgres.view event.after.store)) ∧
      Orderly Postgres.view cfg.history ∧
      cfg.history.Pairwise fun event later =>
        ∀ k row, event.after.store.processings.lookup k = some row →
          row.state ∈ ["completed", "failed", "recovery_required"] →
          later.after.store.processings.lookup k = some row ∧
            Postgres.attemptsOf later.after.store k = Postgres.attemptsOf event.after.store k) ∧
    (∀ (start : Int) (cfg : Configuration Memory.Clocked),
      ((Memory.clockedRepository start).system fp).Reachable cfg →
      Orderly (fun s => s.memory.view) cfg.history ∧
      cfg.history.Pairwise fun event later =>
        ∀ k r, event.after.store.memory.records.lookup k = some r → r.state.isSettled = true →
          Memory.Frozen k event.after.store.memory later.after.store.memory) := by
  refine ⟨fun d cfg hreach => ?_, fun start cfg hreach => ?_⟩
  · have htrace := (hreach.disciplined invocation_disciplined).trace
    exact ⟨fun event hmem => (Postgres.represents_of_trace htrace hmem).1,
      LawfulRepository.orderly (L := Postgres.lawfulRepository d) htrace,
      Postgres.rows_settled htrace⟩
  · have htrace := (hreach.disciplined invocation_disciplined).trace
    exact ⟨LawfulRepository.orderly (L := Memory.lawfulRepository start) htrace,
      Memory.records_settled htrace⟩

namespace Scenario

theorem lifecycle_history_delivered : Orderly Postgres.view delivered.history ∧
    delivered.history.length = 22 :=
  ⟨((lifecycle_history fingerprint).1 dialect delivered delivered_reachable).2.1, by decide +kernel⟩

end Scenario

end Alert2IR
