import Alert2IR.Persistence.Decoding
import Alert2IR.Persistence.Scenario

/-!
# Row decoding undoes row encoding

A record is scattered over some thirty columns that different statements write at different states,
and rebuilt from them. Whatever has been done to a processing, its row decodes, to the values that
were passed on the way.
-/

namespace Alert2IR

open Interleaving

namespace Postgres

variable {d : Dialect} {start : Int} {fp : CanonicalAlert → Except PyError (Int × List UInt8)}
  {is : List Invocation} {h : List (Event (Db × Int))} {w : World (Db × Int)}

/-- Every processing of a run is faithful. -/
theorem faithful_of_trace (htrace : ((clocked d start).system fp).Trace (Issues fp) is h w)
    {k : UUID} {e : Entry} (he : view w.store.1 k = some e) :
    Faithful w.store.2 (passed k h) e := by
  induction htrace generalizing e with
  | start =>
      have hinit : view (clocked d start).init.1 = fun _ => none :=
        (clockedRepository d start).view_init
      rw [show (Repository.system (clocked d start) fp).init.store
        = (clocked d start).init from rfl,
        hinit] at he
      cases he
  | spawn i _ ih => exact ih he
  | @call is h w t i c r w' hprev hinvocation hissues hstep ih =>
      have hsound := (clockedRepository d start).sound_of_trace hprev
      rw [passed, List.foldl_append]
      cases c with
      | repository c =>
          exact faithful_of_step hsound.good (hsound.fits hissues) hstep.1 (fun e he => ih he) he
      | newUuid kind =>
          obtain ⟨-, rfl⟩ := hstep
          exact ih he
      | _ =>
          obtain rfl : w' = w := hstep
          exact ih he

/-- **Row decoding undoes row encoding through the whole lifecycle.** In every run of any number of
processors over PostgreSQL, on a clock that does not run backwards, every row decodes: to a record
that holds the values passed to the calls that changed it. -/
theorem decoding_undoes_encoding (d : Dialect) (start : Int)
    (fp : CanonicalAlert → Except PyError (Int × List UInt8)) {cfg : Configuration (Db × Int)}
    (hreach : ((clocked d start).system fp).Reachable cfg) {k : UUID} {row : ProcessingRow}
    (hrow : cfg.state.store.1.processings.lookup k = some row) :
    ∃ record v, deserializeProcessing row = .ok record ∧ passed k cfg.history = some v ∧
      v.HeldBy record.toProcessingFields := by
  have htrace := (hreach.disciplined invocation_disciplined).trace
  have hgood := ((clockedRepository d start).sound_of_trace htrace).good
  have hrep := represents_of_good hgood.1
  obtain ⟨e, he, rfl⟩ := Option.map_eq_some_iff.mp ((hrep.processings k).symm.trans hrow)
  have hcoherent := ((clockedRepository d start).coherent hgood).entry k e he
  obtain ⟨htimely, v, hv, hheld⟩ := faithful_of_trace htrace he
  obtain ⟨record, hmake, heq⟩ := ProcessingRecord.exists_make_of_postInit
    (e.postInit_eq_ok hcoherent (hgood.2 k e he) htimely)
  refine ⟨record, v, ?_, hv, heq ▸ hheld⟩
  rw [deserializeProcessing, deserializeFields_row hcoherent]
  exact hmake

/-- Transactions that commit one after another, a microsecond apart. -/
def clockedEnvironment (d : Dialect) (start : Int)
    (fp : CanonicalAlert → Except PyError (Int × List UInt8)) (a : Answers) :
    Environment ((clocked d start).system fp) :=
  (clocked d start).environment fp
    (fun c s => ((exec d (s.2 + 1) c s.1).1, (exec d (s.2 + 1) c s.1).2, s.2 + 1))
    (fun s _ => ⟨show s.2 ≤ s.2 + 1 by omega, .inl rfl⟩) a

end Postgres

namespace Scenario

open Postgres

/-- A processor delivers the alert and executes it to the end, on a clock that goes on. -/
def ticking : Configuration (Db × Int) :=
  ((clocked dialect 0).system fingerprint).replay
    [.spawn (arrival "key"), .run 0 30 (clockedEnvironment dialect 0 fingerprint answers)]

theorem decoding_undoes_encoding_ticking :
    ∃ row record v, ticking.state.store.1.processings.lookup 0 = some row ∧
      row.state = "completed" ∧ deserializeProcessing row = .ok record ∧
      passed 0 ticking.history = some v ∧ v.HeldBy record.toProcessingFields := by
  obtain ⟨row, hrow, hstate⟩ : ∃ row, ticking.state.store.1.processings.lookup 0 = some row ∧
      row.state = "completed" := by
    have hsome : (ticking.state.store.1.processings.lookup 0).any
        (fun row => row.state = "completed") = true := by decide +kernel
    obtain ⟨row, hrow, hstate⟩ := (Option.any_eq_true ..).mp hsome
    exact ⟨row, hrow, of_decide_eq_true hstate⟩
  obtain ⟨record, v, hrecord, hv, hheld⟩ :=
    decoding_undoes_encoding dialect 0 fingerprint (System.reachable_replay _) hrow
  exact ⟨row, record, v, hrow, hstate, hrecord, hv, hheld⟩

end Scenario

end Alert2IR
