import Alert2IR.Application.Kinds

/-!
# How a processing is ended

The processor that ends a processing has little to say after that: it returns the processing as it
has ended it. Only a failure of planning is answered with the exception that planning has raised,
which is another one for each category of failure.
-/

namespace Alert2IR

open Interleaving Interleaving.Proc Proc

/-- Whether an operation ends the processing that it moves. -/
def RepositoryCall.ends (c : RepositoryCall) : Bool :=
  c.transition.any fun τ => τ.2 = .completed || τ.2 = .failed

theorem RepositoryCall.not_ends_of_none {c : RepositoryCall} (hnone : c.transition = none) :
    c.ends = false := by
  rw [ends, hnone]
  rfl

/-- The processing that a call has ended. -/
def Observation.ended : Observation → Option ProcessingRecord
  | ⟨.repository c, .ok x⟩ => if c.ends && c.wrote x then (c.records x).head? else none
  | _ => none

/-- A call that ends no processing. -/
def Call.Lasting : Call → Prop
  | .repository c => c.ends = false
  | _ => True

theorem Call.lasting_of_isIdle {c : Call} (hc : c.isIdle = true) : c.Lasting := by
  cases c with
  | repository c => cases hc
  | _ => trivial

theorem Observation.ended_eq_none {seen : Observation} (hlasting : seen.call.Lasting) :
    Observation.ended seen = none := by
  obtain ⟨c, r⟩ := seen
  cases c with
  | repository c =>
      rcases r with e | x
      · rfl
      · have hends : c.ends = false := hlasting
        rw [ended, hends]
        rfl
  | _ => rfl

/-- A procedure that returns the processing it has ended. -/
def Hands (p : Proc ProcessingRecord) : Prop :=
  ∀ h r, Returns p h r → ∀ seen ∈ h, ∀ ended, Observation.ended seen = some ended → r = .ok ended

section Rules

variable {α : Type} {p : Proc α} {h : List Observation}

theorem nothing_ended {r : Except PyError α} (honly : Only Call.Lasting p)
    (hreturns : Returns p h r) : ∀ seen ∈ h, Observation.ended seen = none := fun seen hmem =>
  Observation.ended_eq_none (Prog.Returns.only hreturns honly seen hmem)

theorem Hands.of_only {p : Proc ProcessingRecord} (honly : Only Call.Lasting p) : Hands p := by
  intro h r hreturns seen hmem ended hended
  rw [nothing_ended honly hreturns seen hmem] at hended
  cases hended

theorem Hands.after {f : α → Proc ProcessingRecord} (honly : Only Call.Lasting p)
    (hf : ∀ a, Hands (f a)) : Hands (p >>= f) := by
  intro h r hreturns seen hmem ended hended
  rcases returns_bind_iff.mp hreturns with ⟨e, hraises, -⟩ | ⟨h₁, a, h₂, rfl, hfirst, hrest⟩
  · rw [nothing_ended honly hraises seen hmem] at hended
    cases hended
  · rcases List.mem_append.mp hmem with hmem | hmem
    · rw [nothing_ended honly hfirst seen hmem] at hended
      cases hended
    · exact hf a h₂ r hrest seen hmem ended hended

theorem lasting_repository {c : RepositoryCall} (hc : c.ends = false) :
    Only Call.Lasting (Proc.repository c) := ⟨hc, fun _ => trivial⟩

theorem lasting_of_idle (hp : Only (fun c => c.isIdle = true) p) : Only Call.Lasting p :=
  hp.mono fun _ => Call.lasting_of_isIdle

theorem lasting_observe {what : Observed} : Only Call.Lasting (Proc.observe what) :=
  .perform (c := Call.observe what) trivial

theorem lasting_observeWhen (condition : Bool) (what : Observed) :
    Only Call.Lasting (Proc.observeWhen condition what) := by
  unfold Proc.observeWhen
  split
  · exact lasting_observe
  · exact .pure ()

end Rules

/-- The exception that reports a failure of planning, by the category of the failure. -/
inductive PlanningError (k : UUID) (s : ProcessingState) : String → PyError → Prop
  | unsupported (requested : List String) : PlanningError k s "unsupported_capability"
      (.unsupportedCapabilities requested (some (k, s)))
  | ambiguous (requested eligible : List String) : PlanningError k s "backend_selection_error"
      (.ambiguousBackend requested eligible (some (k, s)))
  | planning : PlanningError k s "backend_selection_error"
      (.runtimeError "processing planning failed")

/-- What is answered by the one who has ended a processing with the call `seen`. -/
inductive Announces (k : UUID) (seen : Observation) (ended : ProcessingRecord) :
    Except PyError ProcessingRecord → Prop
  | record : Announces k seen ended (.ok ended)
  | planning {category detail : String} {e : PyError}
      (hseen : seen = .repository (.failProcessing k [.accepted] category detail none)
        (.ok (some ended)))
      (herror : PlanningError k ended.state category e) : Announces k seen ended (.error e)

namespace PersistentAlertProcessor

variable {o : AlertOrchestrator} {record : ProcessingRecord} {deadline : Option Rat}
  {h : List Observation} {s : Option ProcessingState} {s' : ProcessingState}
  {also : ProcessingRecord → Bool} {what : Observed}

theorem lasting_reread (k : UUID) : Only Call.Lasting (reread k) := by
  refine (lasting_repository rfl).bind fun found => ?_
  cases found with
  | none => exact .throw _
  | some record => exact .pure record

theorem lasting_counted (durable : ProcessingRecord) :
    Only Call.Lasting (counted s s' also what durable) :=
  (lasting_observeWhen _ _).bind fun _ => (lasting_observeWhen _ _).bind fun _ => .pure durable

/-- `counted` returns the processing it is given. -/
theorem ok_of_returns_counted {durable : ProcessingRecord} {r : Except PyError ProcessingRecord}
    (hreturns : Returns (counted s s' also what durable) h r) : r = .ok durable := by
  have hobserved : ∀ {condition : Bool} {seen : Observed} {p : Proc ProcessingRecord}
      {h : List Observation}, Returns (observeWhen condition seen >>= fun _ => p) h r →
      ∃ h', Returns p h' r := by
    intro condition seen p h hreturns
    unfold Proc.observeWhen at hreturns
    split at hreturns
    · obtain ⟨h', -, hrest⟩ := returns_observe_bind_iff.mp hreturns
      exact ⟨h', hrest⟩
    · exact ⟨h, hreturns⟩
  obtain ⟨h₁, hfirst⟩ := hobserved hreturns
  obtain ⟨h₂, hsecond⟩ := hobserved hfirst
  exact (returns_pure_iff.mp hsecond).2

/-- A compare-and-set that ends the processing if it is won: then its answer is returned. -/
theorem hands_settle {c : RepositoryCall} {x : c.Result} {k : UUID} {p : Proc ProcessingRecord}
    {r : Except PyError ProcessingRecord} {seen : Observation} {ended : ProcessingRecord}
    (hlost : c.wrote x = false → p = reread k >>= counted s s' also what)
    (hwon : c.wrote x = true → ∃ record, c.records x = [record] ∧ p = counted s s' also what record)
    (hreturns : Returns p h r) (hmem : seen ∈ Observation.repository c (.ok x) :: h)
    (hended : Observation.ended seen = some ended) : r = .ok ended := by
  cases hwrote : c.wrote x with
  | true =>
      obtain ⟨record, hrecords, rfl⟩ := hwon hwrote
      rcases List.mem_cons.mp hmem with rfl | hmem
      · rw [Observation.ended, hwrote, hrecords] at hended
        split at hended
        · cases hended
          exact ok_of_returns_counted hreturns
        · cases hended
      · rw [nothing_ended (lasting_counted record) hreturns seen hmem] at hended
        cases hended
  | false =>
      rcases List.mem_cons.mp hmem with rfl | hmem
      · rw [Observation.ended, hwrote, Bool.and_false] at hended
        cases hended
      · have honly : Only Call.Lasting p := by
          rw [hlost hwrote]
          exact (lasting_reread k).bind fun durable => lasting_counted durable
        rw [nothing_ended honly hreturns seen hmem] at hended
        cases hended

/-- Handing over what was ended, as a kind of procedures. -/
theorem kind_hands : Kind (fun p => Only Call.Lasting p) Hands where
  pure a := .pure a
  throw _ := .throw _
  bind hp hf := hp.bind hf
  catching hp := (lasting_of_idle hp).catching
  perform hidle := .perform (Call.lasting_of_isIdle hidle)
  read _ hnone := lasting_repository (RepositoryCall.not_ends_of_none hnone)
  recovering _ := ⟨lasting_repository rfl, (lasting_repository rfl).catching⟩
  whole hp := .of_only hp
  after hp hf := .after hp hf
  settle {c} _ _ _ k also what _ _ _ hlost hwon _ := by
    intro h r hreturns seen hmem ended hended
    rcases returns_repository_bind_iff.mp hreturns with ⟨e, rfl, rfl⟩ | ⟨x, h', rfl, hrest⟩
    · obtain rfl := List.mem_singleton.mp hmem
      cases hended
    · exact hands_settle (hlost x) (hwon x) hrest hmem hended
  settleCaught {c} _ _ _ k also what _ _ _ herror hlost hwon _ := by
    intro h r hreturns seen hmem ended hended
    obtain ⟨h₁, x, h', rfl, hcall, hrest⟩ := returns_catching_bind_iff.mp hreturns
    obtain rfl := returns_repository_iff.mp hcall
    rcases x with e | x
    · rcases List.mem_cons.mp hmem with rfl | hmem
      · cases hended
      · exact herror e h' r hrest seen hmem ended hended
    · exact hands_settle (hlost x) (hwon x) hrest hmem hended
  proceed {c} _ s s' k _ hτ _ hcompleted hfailed herror hlost hwon := by
    intro h r hreturns seen hmem ended hended
    obtain ⟨h₁, x, h', rfl, hcall, hrest⟩ := returns_catching_bind_iff.mp hreturns
    obtain rfl := returns_repository_iff.mp hcall
    have hends : c.ends = false := by simp [RepositoryCall.ends, hτ, hcompleted, hfailed]
    have hfirst : seen ∈ h' := by
      rcases List.mem_cons.mp hmem with rfl | hmem
      · rw [Observation.ended_eq_none (show Call.Lasting (.repository c) from hends)] at hended
        cases hended
      · exact hmem
    rcases x with e | x
    · exact herror e h' r hrest seen hfirst ended hended
    cases hwrote : c.wrote x with
    | false =>
        rw [hlost x hwrote] at hrest
        rw [nothing_ended (lasting_reread k) hrest seen hfirst] at hended
        cases hended
    | true =>
        obtain ⟨q, heq, hq⟩ := hwon x hwrote
        rw [heq] at hrest
        exact Hands.after lasting_observe (fun _ => hq) h' r hrest seen hfirst ended hended
  unconfigured {k _ _ _} := by
    intro h r hreturns seen hmem ended hended
    rcases returns_repository_bind_iff.mp hreturns with ⟨e, rfl, rfl⟩ | ⟨x, h', rfl, hrest⟩
    · obtain rfl := List.mem_singleton.mp hmem
      cases hended
    rcases x with _ | failed
    · have hlast : Only Call.Lasting (orReread none k) := lasting_reread k
      rcases List.mem_cons.mp hmem with rfl | hmem
      · cases hended
      · rw [nothing_ended hlast hrest seen hmem] at hended
        cases hended
    · obtain ⟨rfl, rfl⟩ := returns_pure_iff.mp hrest
      obtain rfl := List.mem_singleton.mp hmem
      cases hended
      rfl

/-- `_fail_without_attempt` ends the processing with its one call of the repository. -/
theorem ended_failWithoutAttempt {category detail : String}
    {r : Except PyError (Option ProcessingRecord)}
    (hreturns : Returns (failWithoutAttempt record category detail) h r) {seen : Observation}
    (hmem : seen ∈ h) {ended : ProcessingRecord} (hended : Observation.ended seen = some ended) :
    seen = .repository (.failProcessing record.processingId [.accepted] category detail none)
        (.ok (some ended)) ∧ r = .ok (some ended) := by
  obtain ⟨h₁, x, h', rfl, hcall, hrest⟩ := returns_catching_bind_iff.mp hreturns
  obtain rfl := returns_repository_iff.mp hcall
  rcases x with e | _ | failed
  · obtain ⟨rfl, -⟩ := returns_throw_iff.mp hrest
    obtain rfl := List.mem_singleton.mp hmem
    cases hended
  · obtain ⟨rfl, -⟩ := returns_pure_iff.mp hrest
    obtain rfl := List.mem_singleton.mp hmem
    cases hended
  · obtain ⟨h₂, rfl, hpure⟩ := returns_observe_bind_iff.mp hrest
    obtain ⟨rfl, rfl⟩ := returns_pure_iff.mp hpure
    rcases List.mem_cons.mp hmem with rfl | hmem
    · cases hended
      exact ⟨rfl, rfl⟩
    · obtain rfl := List.mem_singleton.mp hmem
      cases hended

/-- A failure of planning is answered with the exception for its category. -/
theorem announces_failure {category detail : String}
    {f : Option ProcessingRecord → Proc ProcessingRecord} {r : Except PyError ProcessingRecord}
    (hreturns : Returns (failWithoutAttempt record category detail >>= f) h r)
    (hlost : Only Call.Lasting (f none))
    (hfailed : ∀ failed, ∃ e, f (some failed) = throw e ∧
      PlanningError record.processingId failed.state category e)
    {seen : Observation} (hmem : seen ∈ h) {ended : ProcessingRecord}
    (hended : Observation.ended seen = some ended) :
      Announces record.processingId seen ended r := by
  rcases returns_bind_iff.mp hreturns with ⟨e, hraises, -⟩ | ⟨h₁, failed, h₂, rfl, hfirst, hrest⟩
  · obtain ⟨-, heq⟩ := ended_failWithoutAttempt hraises hmem hended
    cases heq
  cases failed with
  | none =>
      rcases List.mem_append.mp hmem with hmem | hmem
      · obtain ⟨-, heq⟩ := ended_failWithoutAttempt hfirst hmem hended
        cases heq
      · rw [nothing_ended hlost hrest seen hmem] at hended
        cases hended
  | some failed =>
      obtain ⟨e, hthrows, herror⟩ := hfailed failed
      rw [hthrows] at hrest
      obtain ⟨rfl, rfl⟩ := returns_throw_iff.mp hrest
      rw [List.append_nil] at hmem
      obtain ⟨hseen, heq⟩ := ended_failWithoutAttempt hfirst hmem hended
      cases heq
      exact .planning hseen herror

theorem announces_advanceAccepted {r : Except PyError ProcessingRecord}
    (hreturns : Returns (advanceAccepted o record deadline) h r) {seen : Observation}
    (hmem : seen ∈ h) {ended : ProcessingRecord} (hended : Observation.ended seen = some ended) :
    Announces record.processingId seen ended r := by
  obtain ⟨h₁, plan, h₂, rfl, hplan, hrest⟩ := returns_catching_bind_iff.mp hreturns
  have hplanning : Only Call.Lasting (o.plan record.alert) :=
    only_plan (fun _ => trivial) (fun _ => trivial) record.alert
  have hmem : seen ∈ h₂ := by
    rcases List.mem_append.mp hmem with hmem | hmem
    · rw [nothing_ended hplanning hplan seen hmem] at hended
      cases hended
    · exact hmem
  rcases plan with error | plan
  · cases error with
    | unsupportedCapabilities requested _ =>
        exact announces_failure hrest (.throw _)
          (fun failed => ⟨_, rfl, .unsupported requested⟩) hmem hended
    | ambiguousBackend requested eligible _ =>
        exact announces_failure hrest (.throw _)
          (fun failed => ⟨_, rfl, .ambiguous requested eligible⟩) hmem hended
    | _ =>
        exact announces_failure hrest (lasting_reread _) (fun failed => ⟨_, rfl, .planning⟩) hmem
          hended
  · obtain rfl := kind_hands.carryOut h₂ r hrest seen hmem ended hended
    exact .record

/-- **Who ends the processing of its own delivery announces how.** -/
theorem announces_process {fp : CanonicalAlert → Except PyError (Int × List UInt8)}
    {alert : CanonicalAlert} {key : String} {r : Except PyError ProcessingOutcome}
    (hreturns : Returns (process o fp alert key) h r) {seen : Observation} (hmem : seen ∈ h)
    {ended : ProcessingRecord} (hended : Observation.ended seen = some ended) :
    ∃ k r', Announces k seen ended r' ∧ r = (fun record => ⟨record, false⟩) <$> r' := by
  unfold process at hreturns
  cases hfp : fp alert with
  | error e =>
      rw [hfp] at hreturns
      obtain ⟨rfl, -⟩ := returns_throw_iff.mp hreturns
      cases hmem
  | ok print =>
  rw [hfp] at hreturns
  obtain ⟨processingId, h₁, rfl, haccepts⟩ := returns_perform_bind_iff.mp hreturns
  obtain ⟨h₂, accepted, h₃, rfl, hcall, hrest⟩ := returns_catching_bind_iff.mp haccepts
  obtain rfl := returns_repository_iff.mp hcall
  have hlater : seen ∈ h₃ := by
    rcases List.mem_cons.mp hmem with rfl | hmem
    · cases hended
    rcases List.mem_cons.mp hmem with rfl | hmem
    · cases accepted <;> cases hended
    · exact hmem
  rcases accepted with e | acceptance
  · obtain ⟨rfl, -⟩ := returns_throw_iff.mp hrest
    cases hlater
  dsimp only at hrest
  split at hrest
  · obtain ⟨h₄, rfl, hthrows⟩ := returns_observe_bind_iff.mp hrest
    obtain ⟨rfl, -⟩ := returns_throw_iff.mp hthrows
    rw [List.mem_singleton.mp hlater] at hended
    cases hended
  split at hrest
  · obtain ⟨h₄, rfl, hpure⟩ := returns_observe_bind_iff.mp hrest
    obtain ⟨rfl, -⟩ := returns_pure_iff.mp hpure
    rw [List.mem_singleton.mp hlater] at hended
    cases hended
  · obtain ⟨h₄, rfl, hcounted⟩ := returns_observe_bind_iff.mp hrest
    obtain ⟨h₅, rfl, hadvances⟩ := returns_observe_bind_iff.mp hcounted
    have hlast : seen ∈ h₅ := by
      rcases List.mem_cons.mp hlater with rfl | hlater
      · cases hended
      rcases List.mem_cons.mp hlater with rfl | hlater
      · cases hended
      · exact hlater
    rcases returns_bind_iff.mp hadvances with ⟨e, hraises, rfl⟩ |
      ⟨h₆, record, h₇, rfl, hends, hpure⟩
    · exact ⟨_, _, announces_advanceAccepted hraises hlast hended, rfl⟩
    · obtain ⟨rfl, rfl⟩ := returns_pure_iff.mp hpure
      rw [List.append_nil] at hlast
      exact ⟨_, _, announces_advanceAccepted hends hlast hended, rfl⟩

end PersistentAlertProcessor

end Alert2IR
