import Alert2IR.Application.Discipline
import Alert2IR.Lifecycle.Determinism
import Alert2IR.Lifecycle.Runs
import Alert2IR.Persistence.MemoryLaw
import Alert2IR.Persistence.PostgresLaw
import Alert2IR.Persistence.Scenario

/-!
# The two repositories side by side

The dicts and the tables are given the same calls by the same processors, at the same readings of
one clock. Nobody can tell them apart: after every call they hold the same store, and their answers
differ in nothing durable, whichever of the two the callers have listened to.
-/

namespace Alert2IR

open Interleaving

/-- The dicts, the tables and the last reading of the clock. -/
structure Twin where
  memory : Memory
  db : Db
  time : Int

namespace Twin

/-- One call of both, at the time `now`, which both answer. -/
structure Answered (d : Dialect) (s : Twin) (now : Datetime) (c : RepositoryCall) (x y : c.Result)
    (s' : Twin) : Prop where
  aware : now.isAware = true
  later : s.time ≤ now.instant
  memory : Memory.exec now c s.memory = (.ok x, s'.memory)
  db : Postgres.exec d now.instant c s.db = (.ok y, s'.db)
  time : s'.time = now.instant

/-- Both repositories, which the caller takes for one: it is told what either answers, or that
neither could be reached. -/
def repository (d : Dialect) (start : Int) : Repository Twin where
  init := ⟨Memory.empty, ⟨∅, ∅⟩, start⟩
  step s c r s' := (∃ now x y, Answered d s now c x y s' ∧ (r = .ok x ∨ r = .ok y)) ∨
    ∃ e, r = .error e ∧ s' = s

/-- Both hold one store. -/
structure Agrees (d : Dialect) (s : Twin) : Prop where
  kept : s.memory.Kept s.time
  tables : (Postgres.lawfulRepository d).Good s.db
  view : s.memory.view = Postgres.view s.db

variable {d : Dialect} {s s' : Twin} {now : Datetime} {c : RepositoryCall} {x y : c.Result}

theorem Agrees.coherent (h : s.Agrees d) : (Postgres.view s.db).Coherent :=
  (Postgres.lawfulRepository d).coherent h.tables

section Step

variable (h : s.Agrees d) (hfits : (Postgres.view s.db).Fits c)
    (hanswers : Answered d s now c x y s')
include h hfits hanswers

theorem Answered.memory_lawful : s'.memory.Kept s'.time ∧
    (Postgres.view s.db).Lawful now.instant c (.ok x) s'.memory.view := by
  have hdoes := Memory.exec_does h.kept (h.view ▸ h.coherent) hanswers.later hanswers.aware
    (h.view ▸ hfits) hanswers.memory
  rw [hanswers.time, ← h.view]
  exact hdoes

theorem Answered.db_lawful : (Postgres.lawfulRepository d).Good s'.db ∧
    (Postgres.view s.db).Lawful now.instant c (.ok y) (Postgres.view s'.db) := by
  obtain ⟨store, hrep', hlawful⟩ := Postgres.exec_lawful h.coherent
    (Postgres.represents_of_good h.tables) hfits hanswers.db
  have hcoherent := hlawful.coherent h.coherent hfits
  rw [hrep'.view_eq hcoherent]
  exact ⟨⟨store, hcoherent, hrep'⟩, hlawful⟩

/-- **A call leaves both with one store**, and their answers agree. -/
theorem Answered.agrees : s'.Agrees d ∧ c.Agree x y := by
  obtain ⟨hkept, hmemory⟩ := hanswers.memory_lawful h hfits
  obtain ⟨hgood, hdb⟩ := hanswers.db_lawful h hfits
  exact ⟨⟨hkept, hgood, hmemory.unique h.coherent hdb⟩, hmemory.agree h.coherent hfits hdb⟩

end Step

theorem view_init (d : Dialect) (start : Int) :
    Postgres.view (repository d start).init.db = fun _ => none :=
  (Postgres.lawfulRepository d).view_init

/-- **Both repositories together are lawful.** -/
def lawfulRepository (d : Dialect) (start : Int) : LawfulRepository (repository d start) where
  view s := Postgres.view s.db
  Good := Agrees d
  good_init := by
    refine ⟨.empty start, (Postgres.lawfulRepository d).good_init, ?_⟩
    exact Memory.view_empty.trans (view_init d start).symm
  view_init := view_init d start
  coherent := Agrees.coherent
  good_step := by
    rintro s c r s' h hfits (⟨now, x, y, hanswers, -⟩ | ⟨e, -, rfl⟩)
    · exact (hanswers.agrees h hfits).1
    · exact h
  lawful := by
    rintro s c r s' h hfits (⟨now, x, y, hanswers, rfl | rfl⟩ | ⟨e, rfl, rfl⟩)
    · obtain ⟨-, hmemory⟩ := hanswers.memory_lawful h hfits
      have hview := (hanswers.agrees h hfits).1.view
      exact ⟨now.instant, hview ▸ hmemory⟩
    · exact ⟨now.instant, (hanswers.db_lawful h hfits).2⟩
    · exact ⟨0, .raised _ 0 c e⟩

/-- The two repositories at one event: they held one store, whatever they answer at one time leaves
them with one store, and the answers agree. -/
structure Indistinguishable (d : Dialect) (event : Alert2IR.Event Twin) : Prop where
  before : event.before.store.memory.view = Postgres.view event.before.store.db
  after : event.after.store.memory.view = Postgres.view event.after.store.db
  answers : ∀ c now x y s', event.call = .repository c →
    Answered d event.before.store now c x y s' →
      s'.memory.view = Postgres.view s'.db ∧ c.Agree x y

/-- **The two repositories refine one store.** In every run of any processors over both, whichever
of the two answers each of their calls and however often neither can be reached, both hold the same
store after every call, and answer every call alike but for what is not durable. -/
theorem repositories_refine_one_store (d : Dialect) (start : Int)
    (fp : CanonicalAlert → Except PyError (Int × List UInt8)) {cfg : Configuration Twin}
    (hreach : ((repository d start).system fp).Reachable cfg) :
    cfg.state.store.memory.view = Postgres.view cfg.state.store.db ∧
      ∀ event ∈ cfg.history, Indistinguishable d event := by
  have htrace := (hreach.disciplined invocation_disciplined).trace
  have hsound : (lawfulRepository d start).Sound cfg.history cfg.state :=
    LawfulRepository.sound_of_trace htrace
  refine ⟨hsound.good.view, fun event hmem => ?_⟩
  have hevent := hsound.events event hmem
  obtain ⟨h₁, h₂, hhistory⟩ := List.append_of_mem hmem
  obtain ⟨is₁, htrace₁⟩ := htrace.upto h₁ event h₂ hhistory
  have hsound₁ : (lawfulRepository d start).Sound _ event.after :=
    LawfulRepository.sound_of_trace htrace₁
  refine ⟨hevent.good.view, hsound₁.good.view, fun c now x y s' hcall hanswers => ?_⟩
  obtain ⟨t, w, _, r, w'⟩ := event
  obtain rfl : _ = Call.repository c := hcall
  obtain ⟨hgood, hfits, -⟩ := hevent
  obtain ⟨hagrees, hagree⟩ := hanswers.agrees hgood hfits
  exact ⟨hagrees.view, hagree⟩

/-- Both, at the time `now`. -/
def exec (d : Dialect) (now : Datetime) (c : RepositoryCall) (s : Twin) :
    Except PyError c.Result × Twin :=
  match Memory.exec now c s.memory, Postgres.exec d now.instant c s.db with
  | (.ok _, memory), (.ok y, db) =>
      if now.isAware = true ∧ s.time ≤ now.instant then (.ok y, ⟨memory, db, now.instant⟩)
      else (.error .operationalError, s)
  | _, _ => (.error .operationalError, s)

theorem step_exec (d : Dialect) (start : Int) (now : Datetime) (s : Twin) (c : RepositoryCall) :
    (repository d start).step s c (exec d now c s).1 (exec d now c s).2 := by
  unfold exec
  split
  · next x memory y db hmemory hdb =>
    split
    · next htime => exact .inl ⟨now, x, y, ⟨htime.1, htime.2, hmemory, hdb, rfl⟩, .inr rfl⟩
    · exact .inr ⟨_, rfl, rfl⟩
  · exact .inr ⟨_, rfl, rfl⟩

end Twin

namespace Scenario

/-- One processor delivers the alert to both repositories, and everything goes well. -/
def twice : Configuration Twin :=
  ((Twin.repository dialect 0).system fingerprint).replay [.spawn (arrival "key"),
    .run 0 30 ((Twin.repository dialect 0).environment fingerprint
      (fun c => Twin.exec dialect (.ofInstant 1) c) (fun s c => Twin.step_exec _ _ _ s c) answers)]

theorem repositories_refine_one_store_twice :
    (twice.state.store.memory.view 0).map (fun e => e.processing.state) = some .completed := by
  have hreach : ((Twin.repository dialect 0).system fingerprint).Reachable twice :=
    System.reachable_replay _
  have hdb : (Postgres.view twice.state.store.db 0).map (fun e => e.processing.state) =
      some .completed := by
    decide +kernel
  rw [(Twin.repositories_refine_one_store dialect 0 fingerprint hreach).1, hdb]

end Scenario

end Alert2IR
