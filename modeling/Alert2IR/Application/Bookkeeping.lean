import Alert2IR.Application.CallSites
import Alert2IR.Application.Kinds

/-!
# The books of a processor

What a processor counts is weighed against the moves it has made. Some branches move a processing
and count nothing; others count what another processor has done, when they find its work after a
compare-and-set of their own that was lost. These are the only differences.
-/

namespace Alert2IR

open Interleaving Interleaving.Proc Proc

theorem ProcessingState.value_ne_unknown (s : ProcessingState) : s.value ≠ "unknown" := by
  cases s <;> decide

theorem Transition.label_injective : Function.Injective Transition.label := by
  rintro ⟨s, s'⟩ ⟨t, t'⟩ heq
  obtain ⟨hfirst, hsecond⟩ := Prod.mk.inj heq
  obtain rfl := ProcessingState.value_injective hsecond
  cases s with
  | none =>
      cases t with
      | none => rfl
      | some t => exact absurd hfirst.symm t.value_ne_unknown
  | some s =>
      cases t with
      | none => exact absurd hfirst s.value_ne_unknown
      | some t =>
          obtain rfl : s = t := ProcessingState.value_injective hfirst
          rfl

/-! ### The books of one processor -/

namespace Observation

/-- `record_transition` has been called. -/
abbrev transition (τ : Transition) : Observation := ⟨.observe (.transition τ.label.1 τ.label.2), ()⟩

/-- `record_transition` for this transition. -/
def counts (τ : Transition) : Observation → Bool
  | ⟨.observe (.transition s s'), _⟩ => (s, s') = τ.label
  | _ => false

/-- A call that has made this transition. -/
def wins (τ : Transition) : Observation → Bool
  | ⟨.repository c, .ok x⟩ => c.wrote x && c.transition = some τ
  | _ => false

/-- One whose caller does not count it. -/
def forgets (τ : Transition) : Observation → Bool
  | ⟨.repository c, .ok x⟩ => c.wrote x && c.transition = some τ && c.counting = .never
  | _ => false

/-- A call that has not made this transition, and whose caller counts it all the same if it finds
the processing in the state after. -/
def loses (τ : Transition) : Observation → Bool
  | ⟨.repository c, .ok x⟩ => !c.wrote x && c.transition = some τ && c.counting = .ifFound
  | _ => false

/-- A processing is read in this state. -/
def finds (s : ProcessingState) : Observation → Bool
  | ⟨.repository (.get _), .ok (some (record : ProcessingRecord))⟩ => record.state = s
  | _ => false

variable {τ τ' : Transition} {c : RepositoryCall} {x : c.Result} {k : UUID}

@[simp]
theorem counts_repository {r : Except PyError c.Result} : counts τ (.repository c r) = false := rfl

@[simp]
theorem counts_transition : counts τ (.transition τ') = decide (τ' = τ) :=
  decide_eq_decide.mpr Transition.label_injective.eq_iff

@[simp]
theorem wins_repository :
    wins τ (.repository c (.ok x)) = (c.wrote x && decide (c.transition = some τ)) := rfl

@[simp]
theorem wins_transition : wins τ (.transition τ') = false := rfl

@[simp]
theorem forgets_repository : forgets τ (.repository c (.ok x)) =
    (c.wrote x && decide (c.transition = some τ) && decide (c.counting = .never)) := rfl

@[simp]
theorem forgets_transition : forgets τ (.transition τ') = false := rfl

@[simp]
theorem loses_repository : loses τ (.repository c (.ok x)) =
    (!c.wrote x && decide (c.transition = some τ) && decide (c.counting = .ifFound)) := rfl

@[simp]
theorem loses_transition : loses τ (.transition τ') = false := rfl

@[simp]
theorem wins_get {r : Except PyError (RepositoryCall.get k).Result} :
    wins τ (.repository (.get k) r) = false := by
  cases r <;> rfl

@[simp]
theorem forgets_get {r : Except PyError (RepositoryCall.get k).Result} :
    forgets τ (.repository (.get k) r) = false := by
  cases r <;> rfl

@[simp]
theorem loses_get {r : Except PyError (RepositoryCall.get k).Result} :
    loses τ (.repository (.get k) r) = false := by
  cases r <;> rfl

@[simp]
theorem finds_get {s : ProcessingState} {record : ProcessingRecord} :
    finds s (.repository (.get k) (.ok (some record))) = decide (record.state = s) := rfl

end Observation

/-- How often the transition was lost to another processor, and found made. -/
def recounted (τ : Transition) : List Observation → Nat
  | [] => 0
  | o :: h => (if o.loses τ && h.head?.any (Observation.finds τ.2) then 1 else 0) + recounted τ h

theorem recounted_append (τ : Transition) {h₁ : List Observation}
    (hlast : ∀ o ∈ h₁.getLast?, o.loses τ = false) (h₂ : List Observation) :
    recounted τ (h₁ ++ h₂) = recounted τ h₁ + recounted τ h₂ := by
  induction h₁ with
  | nil => simp [recounted]
  | cons o h ih =>
      cases h with
      | nil =>
          have hkept : o.loses τ = false := hlast o rfl
          simp [recounted, hkept]
      | cons o' h =>
          rw [List.cons_append, recounted, recounted, ih (by simpa using hlast), Nat.add_assoc]
          rfl

/-- What is assumed of the answers of a repository: it raises nothing, and an operation that has
been carried out answers with the processing as it has left it. -/
structure Truthful (h : List Observation) : Prop where
  steady : ∀ (c : RepositoryCall) e, Observation.repository c (.error e) ∉ h
  moved : ∀ (c : RepositoryCall) x (τ : Transition), Observation.repository c (.ok x) ∈ h →
    c.wrote x = true → c.transition = some τ → ∀ r ∈ c.records x, r.state = τ.2
  created : ∀ k alert scope key version digest (acceptance : ProcessingAcceptance),
    Observation.repository (.acceptProcessing k alert scope key version digest)
      (.ok acceptance) ∈ h →
    acceptance.created = true → acceptance.record.fingerprintVersion = some version ∧
      acceptance.record.requestFingerprint = some digest

theorem Truthful.mono {h h' : List Observation} (htruthful : Truthful h) (hsubset : h' ⊆ h) :
    Truthful h' where
  steady c e hmem := htruthful.steady c e (hsubset hmem)
  moved c x τ hmem := htruthful.moved c x τ (hsubset hmem)
  created k alert scope key version digest acceptance hmem :=
    htruthful.created k alert scope key version digest acceptance (hsubset hmem)

/-- Books that are balanced, up to the transitions that are forgotten and those counted again. -/
structure Balanced (h : List Observation) : Prop where
  balance : ∀ τ, h.countP (Observation.counts τ) + h.countP (Observation.forgets τ) =
    h.countP (Observation.wins τ) + recounted τ h
  settled : ∀ o ∈ h.getLast?, ∀ τ, o.loses τ = false

theorem Balanced.append {h₁ h₂ : List Observation} (hfirst : Balanced h₁) (hsecond : Balanced h₂) :
    Balanced (h₁ ++ h₂) where
  balance τ := by
    have h₁ := hfirst.balance τ
    have h₂ := hsecond.balance τ
    rw [List.countP_append, List.countP_append, List.countP_append,
      recounted_append τ fun o ho => hfirst.settled o ho τ]
    omega
  settled o ho := by
    rw [List.getLast?_append] at ho
    cases hlast : h₂.getLast? with
    | none =>
        rw [hlast, Option.none_or] at ho
        exact hfirst.settled o ho
    | some o' =>
        rw [hlast, Option.some_or] at ho
        exact hsecond.settled o (hlast.trans ho)

/-- A call that counts nothing, and whose transitions nobody counts. -/
def Call.Still : Call → Prop
  | .repository c => c.transition = none ∨ c.counting = .never
  | .observe (.transition ..) => False
  | _ => True

theorem Call.still_of_isIdle {c : Call} (hc : c.isIdle = true) : c.Still := by
  cases c with
  | repository c => cases hc
  | observe what => cases what <;> trivial
  | _ => trivial

theorem Balanced.nil : Balanced [] := ⟨fun _ => rfl, by simp⟩

theorem Balanced.of_still {o : Observation} (hstill : o.call.Still) : Balanced [o] := by
  have hkinds : ∀ τ, o.counts τ = false ∧ o.forgets τ = o.wins τ ∧ o.loses τ = false := by
    intro τ
    obtain ⟨c, r⟩ := o
    cases c with
    | repository c =>
        rcases r with e | x
        · exact ⟨rfl, rfl, rfl⟩
        rcases hstill with hnone | hnever
        · simp [Observation.counts, Observation.forgets, Observation.wins, Observation.loses, hnone]
        · simp [Observation.counts, Observation.forgets, Observation.wins,
            Observation.loses, hnever]
    | observe what =>
        cases what with
        | transition => exact hstill.elim
        | _ => exact ⟨rfl, rfl, rfl⟩
    | _ => exact ⟨rfl, rfl, rfl⟩
  constructor
  · intro τ
    obtain ⟨hcounts, hforgets, hloses⟩ := hkinds τ
    simp [recounted, hcounts, hforgets, hloses]
  · rintro o' ⟨⟩ τ
    exact (hkinds τ).2.2

theorem Balanced.of_stills {h : List Observation} (hstill : ∀ o ∈ h, o.call.Still) :
    Balanced h := by
  induction h with
  | nil => exact .nil
  | cons o h ih =>
      exact (Balanced.of_still (hstill o List.mem_cons_self)).append
        (ih fun o' ho' => hstill o' (List.mem_cons_of_mem _ ho'))

/-- A transition that has been made and is counted later on. -/
theorem Balanced.won {c : RepositoryCall} {x : c.Result} {τ : Transition}
    (hwrote : c.wrote x = true)
    (hτ : c.transition = some τ) (hcounting : c.counting ≠ .never) (rest : List Observation)
    (hrest : ∀ o ∈ rest, o.call.Still) :
    Balanced (.repository c (.ok x) :: (rest ++ [.transition τ])) where
  balance τ' := by
    have hstill := (Balanced.of_stills hrest).balance τ'
    have hsettled := (Balanced.of_stills hrest).settled
    have hlast : ∀ o ∈ (Observation.repository c (.ok x) :: rest).getLast?, o.loses τ' = false := by
      intro o ho
      cases hempty : rest.getLast? with
      | none =>
          rw [List.getLast?_cons, hempty] at ho
          cases ho
          simp [Observation.loses, hwrote]
      | some last =>
          rw [List.getLast?_cons, hempty] at ho
          exact hsettled o (hempty.trans ho) τ'
    rw [← List.cons_append, recounted_append τ' hlast]
    simp [recounted, hwrote, hτ, hcounting, List.countP_cons]
    omega
  settled := by
    rw [← List.cons_append, List.getLast?_append]
    rintro o ⟨⟩ τ'
    rfl

/-- A transition that has not been made, and is not counted unless it has. -/
theorem Balanced.lost {c : RepositoryCall} {x : c.Result} (hwrote : c.wrote x = false)
    (hcounting : c.counting ≠ .ifFound) : Balanced [.repository c (.ok x)] where
  balance τ := by
    simp [recounted, hwrote, hcounting]
  settled := by
    rintro o ⟨⟩ τ
    simp [hcounting]

/-- A transition that another processor has made, and that is counted once more. -/
theorem Balanced.found {c : RepositoryCall} {x : c.Result} {τ : Transition} {k : UUID}
    {record : ProcessingRecord} (hwrote : c.wrote x = false) (hτ : c.transition = some τ)
    (hcounting : c.counting = .ifFound) (hstate : record.state = τ.2) :
    Balanced [.repository c (.ok x), .repository (.get k) (.ok (some record)), .transition τ] where
  balance τ' := by
    by_cases heq : τ = τ'
    · subst heq
      simp [recounted, hwrote, hτ, hcounting, hstate]
    · simp [recounted, hwrote, hτ, hcounting, heq]
  settled := by
    rintro o ⟨⟩ τ
    rfl

/-- A transition that has not been made by anyone, or of a processing that cannot be read. -/
theorem Balanced.missed {c : RepositoryCall} {x : c.Result} {τ : Transition} {k : UUID}
    {found : Option ProcessingRecord} (hwrote : c.wrote x = false) (hτ : c.transition = some τ)
    (hstate : ∀ record, found = some record → record.state ≠ τ.2) :
    Balanced [.repository c (.ok x), .repository (.get k) (.ok found)] where
  balance τ' := by
    have hnot : ¬ (τ = τ' ∧ Observation.finds τ'.2 (.repository (.get k) (.ok found)) = true) := by
      rintro ⟨rfl, hfinds⟩
      cases found with
      | none => cases hfinds
      | some record => exact hstate record rfl (of_decide_eq_true hfinds)
    rw [not_and, Bool.not_eq_true] at hnot
    by_cases heq : τ = τ'
    · simp [recounted, hwrote, hnot heq]
    · simp [recounted, hwrote, hτ, heq]
  settled := by
    rintro o ⟨⟩ τ
    rfl

/-! ### The books of a procedure -/

/-- A procedure that leaves its books balanced. -/
def Balances {α : Type} (p : Proc α) : Prop :=
  ∀ h r, Returns p h r → Truthful h → Balanced h

namespace Balances

variable {α β : Type} {p : Proc α} {h : List Observation}

theorem of_only (honly : Only Call.Still p) : Balances p := fun _ _ hreturns _ =>
  .of_stills (Prog.Returns.only hreturns honly)

theorem pure (a : α) : Balances (pure a : Proc α) := of_only (Only.pure a)

theorem throw (e : PyError) : Balances (throw e : Proc α) := of_only (Only.throw e)

theorem bind {f : α → Proc β} (hp : Balances p) (hf : ∀ a, Balances (f a)) :
    Balances (p >>= f) := by
  intro h r hreturns htruthful
  rcases returns_bind_iff.mp hreturns with ⟨e, hraises, -⟩ | ⟨h₁, a, h₂, rfl, hfirst, hsecond⟩
  · exact hp h _ hraises htruthful
  · exact (hp h₁ _ hfirst (htruthful.mono (List.subset_append_left ..))).append
      (hf a h₂ _ hsecond (htruthful.mono (List.subset_append_right ..)))

theorem catching (hp : Balances p) : Balances (Interleaving.Proc.catching p) := by
  intro h r hreturns htruthful
  obtain ⟨x, hcaught, -⟩ := returns_catching_iff.mp hreturns
  exact hp h x hcaught htruthful

theorem after {f : α → Proc β} (hp : Only Call.Still p) (hf : ∀ a, Balances (f a)) :
    Balances (p >>= f) := (of_only hp).bind hf

end Balances

theorem still_repository {c : RepositoryCall} (hc : c.transition = none ∨ c.counting = .never) :
    Only Call.Still (Proc.repository c) := ⟨hc, fun _ => trivial⟩

theorem still_recovering {a : UUID} {s : ExecutionAttemptState} {category detail : String}
    (hdetail : detail ≠ unknownOutcome) :
    Only Call.Still (Proc.repository (.markRecoveryRequired a [s] category detail)) :=
  still_repository (.inr (if_neg hdetail))

theorem still_of_idle {α : Type} {p : Proc α} (hp : Only (fun c => c.isIdle = true) p) :
    Only Call.Still p := hp.mono fun _ => Call.still_of_isIdle

namespace PersistentAlertProcessor

variable {o : AlertOrchestrator} {record : ProcessingRecord} {deadline : Option Rat}
  {h : List Observation}

theorem still_reread (k : UUID) : Only Call.Still (reread k) := by
  refine (still_repository (.inl rfl)).bind fun x => ?_
  cases x with
  | none => exact .throw _
  | some record => exact .pure record

theorem still_observe {what : Observed} (hwhat : (Call.observe what).isIdle = true) :
    Only Call.Still (observe what) := .perform (Call.still_of_isIdle hwhat)

theorem still_observeWhen (condition : Bool) {what : Observed}
    (hwhat : (Call.observe what).isIdle = true) : Only Call.Still (observeWhen condition what) := by
  unfold Proc.observeWhen
  split
  · exact still_observe hwhat
  · exact .pure ()

/-- `counted` counts the transition if the processing is in the state after it. -/
theorem returns_counted {s : Option ProcessingState} {s' : ProcessingState}
    {also : ProcessingRecord → Bool} {what : Observed} {durable : ProcessingRecord}
    {r : Except PyError ProcessingRecord} (hwhat : (Call.observe what).isIdle = true)
    (hreturns : Returns (counted s s' also what durable) h r) :
    ∃ rest, (∀ o ∈ rest, o.call.Still) ∧
      ((durable.state = s' ∧ h = .transition (s, s') :: rest) ∨
        (durable.state ≠ s' ∧ h = rest)) := by
  have hrest : Only Call.Still (observeWhen (also durable) what >>= fun _ => pure durable) :=
    (still_observeWhen _ hwhat).bind fun _ => .pure _
  unfold counted at hreturns
  by_cases hstate : durable.state = s'
  · rw [decide_eq_true hstate] at hreturns
    obtain ⟨rest, rfl, hgoes⟩ := returns_observe_bind_iff.mp hreturns
    exact ⟨rest, Prog.Returns.only hgoes hrest, .inl ⟨hstate, rfl⟩⟩
  · rw [decide_eq_false hstate] at hreturns
    exact ⟨h, Prog.Returns.only hreturns hrest, .inr ⟨hstate, rfl⟩⟩

theorem still_orReread (updated : Option ProcessingRecord) (k : UUID) :
    Only Call.Still (orReread updated k) := by
  cases updated with
  | none => exact still_reread k
  | some record => exact .pure record

/-- `_reread` reads once. -/
theorem returns_reread {k : UUID} {r : Except PyError ProcessingRecord}
    (hreturns : Returns (reread k) h r) (htruthful : Truthful h) :
    (∃ e, h = [.repository (.get k) (.ok none)] ∧ r = .error e) ∨
      ∃ record, h = [.repository (.get k) (.ok (some record))] ∧ r = .ok record := by
  rcases returns_repository_bind_iff.mp hreturns with ⟨e, rfl, -⟩ | ⟨found, h', rfl, hgoes⟩
  · exact absurd (List.mem_singleton.mpr rfl) (htruthful.steady _ e)
  cases found with
  | none =>
      obtain ⟨rfl, rfl⟩ := returns_throw_iff.mp hgoes
      exact .inl ⟨_, rfl, rfl⟩
  | some record =>
      obtain ⟨rfl, rfl⟩ := returns_pure_iff.mp hgoes
      exact .inr ⟨record, rfl, rfl⟩

/-- **The books after a compare-and-set** that is counted if its outcome is found: they are right if
it was won, and count the transition of another processor if it was lost. -/
theorem balanced_settle {c : RepositoryCall} {x : c.Result} {p : Proc ProcessingRecord}
    {s : Option ProcessingState} {s' : ProcessingState} {k : UUID} {also : ProcessingRecord → Bool}
    {what : Observed} {r : Except PyError ProcessingRecord}
    (hτ : c.transition = some (s, s')) (hcounting : c.counting = .ifFound)
    (hlost : c.wrote x = false → p = reread k >>= counted s s' also what)
    (hwon : c.wrote x = true → ∃ record, c.records x = [record] ∧ p = counted s s' also what record)
    (hwhat : (Call.observe what).isIdle = true) (hreturns : Returns p h r)
    (htruthful : Truthful (.repository c (.ok x) :: h)) :
      Balanced (.repository c (.ok x) :: h) := by
  cases hwrote : c.wrote x with
  | true =>
      obtain ⟨record, hrecords, rfl⟩ := hwon hwrote
      have hstate : record.state = s' :=
        htruthful.moved c x (s, s') List.mem_cons_self hwrote hτ record (by simp [hrecords])
      obtain ⟨rest, hstill, ⟨-, rfl⟩ | ⟨hnot, -⟩⟩ := returns_counted hwhat hreturns
      · have hwon := Balanced.won hwrote hτ (by simp [hcounting]) [] (by simp)
        exact hwon.append (.of_stills hstill)
      · exact absurd hstate hnot
  | false =>
      rw [hlost hwrote] at hreturns
      have htruthful : Truthful h := htruthful.mono (List.subset_cons_self ..)
      rcases returns_bind_iff.mp hreturns with ⟨e, hraises, -⟩ | ⟨h₁, record, h₂, rfl, hread, hgoes⟩
      · rcases returns_reread hraises htruthful with ⟨-, rfl, -⟩ | ⟨record, -, heq⟩
        · exact .missed hwrote hτ (by simp)
        · cases heq
      · rcases returns_reread hread (htruthful.mono (List.subset_append_left ..)) with
          ⟨e, -, heq⟩ | ⟨record, rfl, heq⟩
        · cases heq
        cases heq
        obtain ⟨rest, hstill, ⟨hstate, rfl⟩ | ⟨hnot, rfl⟩⟩ := returns_counted hwhat hgoes
        · exact (Balanced.found hwrote hτ hcounting hstate).append (.of_stills hstill)
        · refine (Balanced.missed hwrote hτ ?_).append (.of_stills hstill)
          rintro _ ⟨⟩
          exact hnot

/-- The books as a kind of procedures. -/
theorem kind_balances : Kind (fun p => Only Call.Still p) (fun p => Balances p) where
  pure a := .pure a
  throw _ := .throw _
  bind hp hf := hp.bind hf
  catching hp := (still_of_idle hp).catching
  perform hidle := .perform (Call.still_of_isIdle hidle)
  read _ hnone := still_repository (.inl hnone)
  recovering hdetail := ⟨still_recovering hdetail, (still_recovering hdetail).catching⟩
  whole hp := .of_only hp
  after hp hf := .after hp hf
  settle {c} _ _ _ k also what _ hτ hcounting hlost hwon hwhat := by
    intro h r hreturns htruthful
    rcases returns_repository_bind_iff.mp hreturns with ⟨e, rfl, -⟩ | ⟨x, h', rfl, hgoes⟩
    · exact absurd (List.mem_singleton.mpr rfl) (htruthful.steady c e)
    · exact balanced_settle hτ hcounting (hlost x) (hwon x) hwhat hgoes htruthful
  settleCaught {c} _ _ _ k also what _ hτ hcounting _ hlost hwon hwhat := by
    intro h r hreturns htruthful
    obtain ⟨h₁, x, h', rfl, hcall, hgoes⟩ := returns_catching_bind_iff.mp hreturns
    obtain rfl := returns_repository_iff.mp hcall
    rcases x with e | x
    · exact absurd List.mem_cons_self (htruthful.steady c e)
    · exact balanced_settle hτ hcounting (hlost x) (hwon x) hwhat hgoes htruthful
  proceed {c} _ s s' k _ hτ hcounting _ _ _ hlost hwon := by
    intro h r hreturns htruthful
    obtain ⟨h₁, x, h', rfl, hcall, hgoes⟩ := returns_catching_bind_iff.mp hreturns
    obtain rfl := returns_repository_iff.mp hcall
    rcases x with e | x
    · exact absurd List.mem_cons_self (htruthful.steady c e)
    have htruthful' : Truthful h' := htruthful.mono (List.subset_append_right ..)
    cases hwrote : c.wrote x with
    | false =>
        rw [hlost x hwrote] at hgoes
        exact (Balanced.lost hwrote (by simp [hcounting])).append
          (Balances.of_only (still_reread k) h' r hgoes htruthful')
    | true =>
        obtain ⟨q, heq, hq⟩ := hwon x hwrote
        rw [heq] at hgoes
        obtain ⟨h₂, rfl, hrest⟩ := returns_observe_bind_iff.mp hgoes
        have hwon := Balanced.won hwrote hτ (by simp [hcounting]) [] (by simp)
        exact hwon.append (hq h₂ r hrest (htruthful'.mono (List.subset_cons_self ..)))
  unconfigured := .of_only ((still_repository (.inr rfl)).bind fun _ => still_orReread _ _)

theorem balances_failWithoutAttempt {category detail : String} (hstate : record.state = .accepted) :
    Balances (failWithoutAttempt record category detail) := by
  intro h r hreturns htruthful
  obtain ⟨h₁, x, h', rfl, hcall, hgoes⟩ := returns_catching_bind_iff.mp hreturns
  obtain rfl := returns_repository_iff.mp hcall
  rcases x with e | _ | failed
  · exact absurd List.mem_cons_self (htruthful.steady _ e)
  · obtain ⟨rfl, -⟩ := returns_pure_iff.mp hgoes
    exact .lost rfl (by simp [RepositoryCall.counting])
  · rw [hstate] at hgoes
    obtain ⟨h₂, rfl, hpure⟩ := returns_observe_bind_iff.mp hgoes
    obtain ⟨rfl, -⟩ := returns_pure_iff.mp hpure
    have hτ : (RepositoryCall.failProcessing record.processingId
      [.accepted] category detail none).transition
      = some (some .accepted, .failed) := rfl
    exact .won rfl hτ (by simp [RepositoryCall.counting]) [] (by simp)

theorem balances_advanceAccepted (hstate : record.state = .accepted) :
    Balances (advanceAccepted o record deadline) := by
  have hplan : Only Call.Still (o.plan record.alert) :=
    only_plan (fun _ => trivial) (fun _ => trivial) record.alert
  refine .after hplan.catching fun plan => ?_
  rcases plan with error | plan
  · cases error with
    | unsupportedCapabilities requested _ =>
        exact (balances_failWithoutAttempt hstate).bind fun failed => .throw _
    | ambiguousBackend requested eligible _ =>
        exact (balances_failWithoutAttempt hstate).bind fun failed => .throw _
    | _ =>
        refine (balances_failWithoutAttempt hstate).bind fun failed => ?_
        cases failed with
        | none => exact .of_only (still_reread _)
        | some failed => exact .throw _
  · exact kind_balances.carryOut

theorem balances_process {fp : CanonicalAlert → Except PyError (Int × List UInt8)}
    {alert : CanonicalAlert} {key : String} : Balances (process o fp alert key) := by
  refine .after (only_evaluate _) fun ⟨version, digest⟩ => ?_
  refine .after (.perform (c := Call.newUuid .processing) trivial) fun processingId => ?_
  intro h r hreturns htruthful
  obtain ⟨h₁, x, h₂, rfl, hcall, hgoes⟩ := returns_catching_bind_iff.mp hreturns
  obtain rfl := returns_repository_iff.mp hcall
  rcases x with e | acceptance
  · exact absurd List.mem_cons_self (htruthful.steady _ e)
  have hrest : Truthful h₂ := htruthful.mono (List.subset_append_right ..)
  have hwrote : (RepositoryCall.acceptProcessing processingId alert alert.source.source key version
    digest).wrote acceptance = acceptance.created := rfl
  cases hcreated : acceptance.created with
  | false =>
      refine (Balanced.lost (hwrote.trans hcreated) (by simp [RepositoryCall.counting])).append ?_
      dsimp only at hgoes
      split at hgoes
      · exact Balances.after (still_observe rfl) (fun _ => .throw _) h₂ r hgoes hrest
      · exact Balances.after (still_observe rfl) (fun _ => .pure _) h₂ r hgoes hrest
  | true =>
      obtain ⟨hversion, hdigest⟩ := htruthful.created _ _ _ _ _ _ acceptance
        List.mem_cons_self hcreated
      have hstate : acceptance.record.state = .accepted :=
        htruthful.moved _ _ (none, .accepted) List.mem_cons_self hcreated rfl _
          (by simp [RepositoryCall.records])
      dsimp only at hgoes
      rw [if_neg (by simp [hversion, hdigest]), if_neg (by simp [hcreated])] at hgoes
      obtain ⟨h₃, rfl, hcounted⟩ := returns_observe_bind_iff.mp hgoes
      obtain ⟨h₄, rfl, hadvances⟩ := returns_observe_bind_iff.mp hcounted
      have hτ : (RepositoryCall.acceptProcessing processingId alert alert.source.source key version
        digest).transition = some (none, .accepted) := rfl
      have hwon := Balanced.won (hwrote.trans hcreated) hτ (by simp [RepositoryCall.counting])
        [⟨.observe (.idempotency "accepted"), ()⟩] (by simp [Call.Still])
      refine hwon.append ((balances_advanceAccepted hstate).bind (fun _ => .pure _) h₄ r hadvances
        (hrest.mono ?_))
      exact fun o ho => List.mem_cons_of_mem _ (List.mem_cons_of_mem _ ho)

theorem balances_reconcileRecord {deadline : Rat} :
    Balances (reconcileRecord o record deadline) := by
  unfold reconcileRecord
  cases hstate : record.state with
  | accepted => exact balances_advanceAccepted hstate
  | planned =>
      refine .after (still_repository (.inl rfl)) fun found => ?_
      cases found with
      | none => exact .pure record
      | some attempt => exact kind_balances.submit
  | submitting =>
      refine .after (still_observe rfl) fun _ =>
        .after (still_repository (.inl rfl)) fun found => ?_
      cases found with
      | none => exact .pure record
      | some attempt => exact kind_balances.whole (kind_balances.recover (by decide))
  | submitted =>
      refine .after (still_repository (.inl rfl)) fun found => ?_
      cases found with
      | none => exact .pure record
      | some attempt => exact kind_balances.pollSubmitted
  | _ => exact .pure record

theorem balances_examine {deadline : Rat} (records : List ProcessingRecord)
    (report : ReconciliationReport) : Balances (examine o deadline records report) := by
  induction records generalizing report with
  | nil => exact .pure report
  | cons record records ih =>
      have hremaining : Only Call.Still (remainingReconciliationSeconds (some deadline)) :=
        kind_balances.remaining _
      unfold examine
      refine .after hremaining fun remaining => ?_
      split
      · exact .pure _
      refine .after (still_repository (.inl rfl)) fun _ => ?_
      have hrest : ∀ report, Balances (do
          let remaining ← remainingReconciliationSeconds (some deadline)
          if exhausted remaining then return { report with timeLimitReached := true }
          else examine o deadline records report) := by
        intro report
        refine .after hremaining fun remaining => ?_
        split
        · exact .pure _
        · exact ih report
      refine balances_reconcileRecord.catching.bind fun result => ?_
      cases result with
      | ok after =>
          exact .after (still_observe rfl) fun _ => .after (.pure _) fun report => hrest report
      | error e =>
          exact .after (still_observe rfl) fun _ => .after (.pure _) fun report => hrest report

theorem balances_reconcileOnce {limit : Int} {maxSeconds : Rat} {staleAfter : Int} :
    Balances (reconcileOnce o limit maxSeconds staleAfter) := by
  unfold reconcileOnce
  split
  · exact .throw _
  · exact .after (.perform trivial) fun _ => .after (.perform trivial) fun _ =>
      .after (still_repository (.inl rfl)) fun records => balances_examine _ _

end PersistentAlertProcessor

/-- **Whatever a processor does, its books are balanced.** -/
theorem Invocation.balances (fp : CanonicalAlert → Except PyError (Int × List UInt8))
    (i : Invocation) : Balances (i.procedure fp) := by
  cases i with
  | process o alert key =>
      exact PersistentAlertProcessor.balances_process.bind fun outcome => .pure _
  | reconcileOnce o limit maxSeconds staleAfter =>
      exact PersistentAlertProcessor.balances_reconcileOnce.bind fun report => .pure _

end Alert2IR
