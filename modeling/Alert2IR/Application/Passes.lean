import Mathlib.Algebra.Order.Ring.Rat
import Mathlib.Data.List.Chain
import Alert2IR.Application.Kinds

/-!
# A reconciliation pass, record by record

A complete run of the loop falls into the records it examined. Around the work on one record lie two
readings of the clock and one read of its attempt, which is the only call of the loop that stands
outside the handler of the record.
-/

namespace Alert2IR

open Interleaving Interleaving.Proc

/-! ### Procedures that do not read an attempt -/

theorem closed_plain : Closed fun p => Only Call.Plain p where
  pure := .pure
  throw _ := .throw _
  bind := .bind
  catching := .catching
  repository := plain_repository
  perform hc := .perform (Call.plain_of_away hc)

namespace PersistentAlertProcessor

variable {o : AlertOrchestrator} {record : ProcessingRecord} {attempt : ExecutionAttempt}
  {deadline : Option Rat}

theorem plain_advanceAccepted : Only Call.Plain (advanceAccepted o record deadline) := by
  refine closed_plain.bind (closed_plain.catching (away_plan _).plain) fun plan => ?_
  rcases plan with error | plan
  · cases error with
    | unsupportedCapabilities | ambiguousBackend =>
        exact closed_plain.bind (closed_plain.failWithoutAttempt _ _) fun failed => .throw _
    | _ => exact closed_plain.failPlanning
  · exact closed_plain.kind.carryOut

end PersistentAlertProcessor

/-! ### What a pass does with one record -/

/-- One examined record: the clock before and after it, the attempt read for the correlation
context, and the calls its work made and what came of it. -/
structure Examined where
  record : ProcessingRecord
  started : Rat
  context : Option ExecutionAttempt
  calls : List Observation
  outcome : Except PyError ProcessingRecord
  finished : Rat

namespace Examined

/-- Whether the work raised. -/
def failed (x : Examined) : Bool :=
  match x.outcome with
  | .ok _ => false
  | .error _ => true

/-- Whether the work left the record in another state. -/
def advanced (x : Examined) : Bool :=
  match x.outcome with
  | .ok after => after.state ≠ x.record.state
  | .error _ => false

/-- Everything the loop does on account of a record. -/
def observations (x : Examined) : List Observation :=
  ⟨.monotonic, x.started⟩ ::
    ⟨.repository (.getAttemptForProcessing x.record.processingId),
      (.ok x.context : Except PyError (Option ExecutionAttempt))⟩ ::
    (x.calls ++ [⟨.observe (.reconciliation x.record.state.value
      (if x.failed then "error" else "success")), ()⟩, ⟨.monotonic, x.finished⟩])

/-- A report with one record more. -/
def count (x : Examined) (report : ReconciliationReport) : ReconciliationReport :=
  { report with
    examined := report.examined + 1
    advanced := report.advanced + (if x.advanced then 1 else 0)
    failed := report.failed + (if x.failed then 1 else 0) }

section Lemmas

variable (x : Examined) (report : ReconciliationReport)

@[simp]
theorem count_examined : (x.count report).examined = report.examined + 1 := rfl

@[simp]
theorem count_advanced :
    (x.count report).advanced = report.advanced + (if x.advanced then 1 else 0) := rfl

@[simp]
theorem count_failed :
    (x.count report).failed = report.failed + (if x.failed then 1 else 0) := rfl

theorem getLast_observations :
    x.observations.getLast? = some ⟨.monotonic, x.finished⟩ := by
  rw [observations, List.getLast?_cons_cons, List.getLast?_cons, List.getLast?_append]
  rfl

theorem not_advanced_and_failed : ¬ (x.advanced = true ∧ x.failed = true) := by
  rintro ⟨hadvanced, hfailed⟩
  unfold advanced at hadvanced
  unfold failed at hfailed
  cases hx : x.outcome <;> simp [hx] at hadvanced hfailed

end Lemmas

end Examined

namespace PersistentAlertProcessor

variable {o : AlertOrchestrator} {record : ProcessingRecord} {rest : List ProcessingRecord}
  {deadline : Rat} {report : ReconciliationReport} {h : List Observation}
  {r : Except PyError ReconciliationReport}

/-- The ways in which a run of the loop may treat the next record. -/
inductive Examines (o : AlertOrchestrator) (deadline : Rat) (record : ProcessingRecord)
    (rest : List ProcessingRecord) (report : ReconciliationReport) :
    List Observation → Except PyError ReconciliationReport → Prop
  | late {m : Rat} (hlate : deadline ≤ m) : Examines o deadline record rest report
      [⟨.monotonic, m⟩] (.ok { report with timeLimitReached := true })
  | raised {m : Rat} {k : UUID} {e : PyError} : Examines o deadline record rest report
      [⟨.monotonic, m⟩, ⟨.repository (.getAttemptForProcessing k),
        (.error e : Except PyError (Option ExecutionAttempt))⟩] (.error e)
  | last {x : Examined} (hrecord : x.record = record)
      (hworked : Returns (reconcileRecord o record deadline) x.calls x.outcome)
      (hlate : deadline ≤ x.finished) : Examines o deadline record rest report
      x.observations (.ok { x.count report with timeLimitReached := true })
  | next {x : Examined} {h : List Observation} {r : Except PyError ReconciliationReport}
      (hrecord : x.record = record)
      (hworked : Returns (reconcileRecord o record deadline) x.calls x.outcome)
      (hrest : Returns (examine o deadline rest (x.count report)) h r) :
      Examines o deadline record rest report (x.observations ++ h) r

theorem returns_remaining_bind_iff {α : Type} {f : Option Rat → Proc α}
    {x : Except PyError α} :
    Returns (remainingReconciliationSeconds (some deadline) >>= f) h x ↔
      ∃ (m : Rat) (h' : List Observation), h = ⟨.monotonic, m⟩ :: h' ∧
        Returns (f (some (deadline - m))) h' x := by
  have hbind : remainingReconciliationSeconds (some deadline) >>= f
      = Proc.monotonic >>= fun m => f (some (deadline - m)) := rfl
  rw [hbind, returns_monotonic_bind_iff]

theorem exhausted_iff {m : Rat} : exhausted (some (deadline - m)) = true ↔ deadline ≤ m := by
  rw [exhausted, decide_eq_true_eq, sub_nonpos]

/-- How the loop goes on after a record. -/
theorem goes_on (hreturns : Returns (do
      let remaining ← remainingReconciliationSeconds (some deadline)
      if exhausted remaining then return { report with timeLimitReached := true }
      else examine o deadline rest report) h r) :
    ∃ (m : Rat) (h' : List Observation), h = ⟨.monotonic, m⟩ :: h' ∧
      ((deadline ≤ m ∧ h' = [] ∧ r = .ok { report with timeLimitReached := true }) ∨
        Returns (examine o deadline rest report) h' r) := by
  rw [returns_remaining_bind_iff] at hreturns
  obtain ⟨m, h', rfl, hreturns⟩ := hreturns
  refine ⟨m, h', rfl, ?_⟩
  split at hreturns
  · next hlate => exact .inl ⟨exhausted_iff.mp hlate, returns_pure_iff.mp hreturns⟩
  · exact .inr hreturns

/-- **Every run of the loop treats the next record in one of these ways.** -/
theorem examines_of_returns (hreturns : Returns (examine o deadline (record :: rest) report) h r) :
    Examines o deadline record rest report h r := by
  rw [examine, returns_remaining_bind_iff] at hreturns
  obtain ⟨m, h₁, rfl, hreturns⟩ := hreturns
  split at hreturns
  · next hlate =>
    obtain ⟨rfl, rfl⟩ := returns_pure_iff.mp hreturns
    exact .late (exhausted_iff.mp hlate)
  rw [returns_repository_bind_iff] at hreturns
  rcases hreturns with ⟨e, rfl, rfl⟩ | ⟨context, h₂, rfl, hreturns⟩
  · exact .raised
  rw [returns_catching_bind_iff] at hreturns
  obtain ⟨calls, outcome, h₂, rfl, hworked, hreturns⟩ := hreturns
  have hend : ∃ (x : Examined) (h' : List Observation), x.record = record ∧ x.calls = calls ∧
    x.outcome = outcome ∧
      x.started = m ∧ x.context = context ∧ h₂ = ⟨.observe (.reconciliation record.state.value
        (if x.failed then "error" else "success")), ()⟩ :: ⟨.monotonic, x.finished⟩ :: h' ∧
      ((deadline ≤ x.finished ∧ h' = [] ∧
        r = .ok { x.count report with timeLimitReached := true }) ∨
        Returns (examine o deadline rest (x.count report)) h' r) := by
    cases outcome with
    | ok after =>
        dsimp only at hreturns
        obtain ⟨h₃, rfl, hnext⟩ := returns_observe_bind_iff.mp hreturns
        rw [pure_bind] at hnext
        obtain ⟨finished, h', rfl, hrest⟩ := goes_on hnext
        refine ⟨⟨record, m, context, calls, .ok after, finished⟩, h', rfl, rfl, rfl, rfl,
          rfl, rfl, ?_⟩
        by_cases hsame : after.state = record.state <;>
          simpa [Examined.count, Examined.advanced, Examined.failed, hsame] using hrest
    | error e =>
        dsimp only at hreturns
        obtain ⟨h₃, rfl, hnext⟩ := returns_observe_bind_iff.mp hreturns
        rw [pure_bind] at hnext
        obtain ⟨finished, h', rfl, hrest⟩ := goes_on hnext
        exact ⟨⟨record, m, context, calls, .error e, finished⟩, h', rfl, rfl, rfl, rfl, rfl,
          rfl, hrest⟩
  obtain ⟨x, h', rfl, rfl, rfl, rfl, rfl, rfl, hend⟩ := hend
  have hblock : ∀ h' : List Observation, x.observations ++ h' =
      ⟨.monotonic, x.started⟩ :: ⟨.repository (.getAttemptForProcessing x.record.processingId),
        (.ok x.context : Except PyError (Option ExecutionAttempt))⟩ :: (x.calls ++
        (⟨.observe (.reconciliation x.record.state.value
          (if x.failed then "error" else "success")), ()⟩ :: ⟨.monotonic, x.finished⟩ :: h')) := by
    intro h'
    simp [Examined.observations]
  rcases hend with ⟨hlate, rfl, rfl⟩ | hrest
  · refine (hblock []).subst (motive := fun l => Examines o deadline x.record rest report l _) ?_
    rw [List.append_nil]
    exact .last rfl hworked hlate
  · refine (hblock h').subst (motive := fun l => Examines o deadline x.record rest report l r) ?_
    exact .next rfl hworked hrest

end PersistentAlertProcessor

end Alert2IR
