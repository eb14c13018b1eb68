import Mathlib.Algebra.BigOperators.Group.Finset.Piecewise
import Alert2IR.Interleaving.Pool

/-!
# What one program does, call by call

A run of one program is the list of its calls with the answers they got. The answers alone decide
how the program goes on, so the runs of a sequence fall into runs of its parts, and what a thread of
a pool has done so far is a run of the program it was started with.
-/

namespace Interleaving

variable {σ ι C : Type} {R : C → Type} {α β ε : Type}

/-- A program that goes on as another one after the calls of a list. -/
inductive Prog.Leads : Prog C R α → List (Observation C R) → Prog C R α → Prop
  | refl (p : Prog C R α) : Leads p [] p
  | call {c : C} {k : R c → Prog C R α} {r : R c} {h : List (Observation C R)}
      {q : Prog C R α} (hrest : Leads (k r) h q) : Leads (.call c k) (⟨c, r⟩ :: h) q

/-- A complete run of a program, and what it returned. -/
def Prog.Returns (p : Prog C R α) (h : List (Observation C R)) (a : α) : Prop := p.Leads h (.pure a)

namespace Prog

variable {p : Prog C R α} {h : List (Observation C R)}

/-- A run goes on with one call more. -/
theorem Leads.snoc {c : C} {k : R c → Prog C R α} (hleads : p.Leads h (.call c k)) (r : R c) :
    p.Leads (h ++ [⟨c, r⟩]) (k r) := by
  generalize hq : Prog.call c k = q at hleads
  induction hleads with
  | refl =>
      subst hq
      exact .call (.refl _)
  | call _ ih => exact .call (ih hq)

theorem leads_pure_iff {a : α} {q : Prog C R α} :
    (Prog.pure a : Prog C R α).Leads h q ↔ h = [] ∧ q = .pure a := by
  constructor
  · rintro ⟨⟩
    exact ⟨rfl, rfl⟩
  · rintro ⟨rfl, rfl⟩
    exact .refl _

theorem leads_call_iff {c : C} {k : R c → Prog C R α} {q : Prog C R α} :
    (Prog.call c k).Leads h q ↔ (h = [] ∧ q = .call c k) ∨
      ∃ r h', h = ⟨c, r⟩ :: h' ∧ (k r).Leads h' q := by
  constructor
  · intro hleads
    cases hleads with
    | refl => exact .inl ⟨rfl, rfl⟩
    | call hrest => exact .inr ⟨_, _, rfl, hrest⟩
  · rintro (⟨rfl, rfl⟩ | ⟨r, h', rfl, hrest⟩)
    · exact .refl _
    · exact .call hrest

@[simp]
theorem returns_pure_iff {a b : α} :
    (Prog.pure a : Prog C R α).Returns h b ↔ h = [] ∧ b = a := by
  constructor
  · rintro ⟨⟩
    exact ⟨rfl, rfl⟩
  · rintro ⟨rfl, rfl⟩
    exact .refl _

@[simp]
theorem returns_call_iff {c : C} {k : R c → Prog C R α} {a : α} :
    (Prog.call c k).Returns h a ↔ ∃ r h', h = ⟨c, r⟩ :: h' ∧ (k r).Returns h' a := by
  constructor
  · intro hreturns
    cases hreturns with
    | call hrest => exact ⟨_, _, rfl, hrest⟩
  · rintro ⟨r, h', rfl, hrest⟩
    exact .call hrest

/-- A run of a sequence is a run of its first part and then one of its second. -/
theorem returns_bind_iff {f : α → Prog C R β} {b : β} :
    (p.bind f).Returns h b ↔
      ∃ h₁ a h₂, h = h₁ ++ h₂ ∧ p.Returns h₁ a ∧ (f a).Returns h₂ b := by
  induction p generalizing h with
  | pure a =>
      simp only [pure_bind, returns_pure_iff]
      constructor
      · intro hreturns
        exact ⟨[], a, h, rfl, ⟨rfl, rfl⟩, hreturns⟩
      · rintro ⟨h₁, a', h₂, rfl, ⟨rfl, rfl⟩, hreturns⟩
        exact hreturns
  | call c k ih =>
      simp only [call_bind, returns_call_iff, ih]
      constructor
      · rintro ⟨r, -, rfl, h₁, a, h₂, rfl, hfirst, hsecond⟩
        exact ⟨⟨c, r⟩ :: h₁, a, h₂, rfl, ⟨r, h₁, rfl, hfirst⟩, hsecond⟩
      · rintro ⟨-, a, h₂, rfl, ⟨r, h₁, rfl, hfirst⟩, hsecond⟩
        exact ⟨r, h₁ ++ h₂, rfl, h₁, a, h₂, rfl, hfirst, hsecond⟩

/-- **The answers alone decide what a program returns.** -/
theorem Returns.unique {a b : α} (hreturns : p.Returns h a) (hreturns' : p.Returns h b) :
    a = b := by
  induction p generalizing h with
  | pure c =>
      rw [(returns_pure_iff.mp hreturns).2, (returns_pure_iff.mp hreturns').2]
  | call c k ih =>
      obtain ⟨r, h', rfl, hrest⟩ := returns_call_iff.mp hreturns
      obtain ⟨r', h'', heq, hrest'⟩ := returns_call_iff.mp hreturns'
      cases heq
      exact ih r hrest hrest'

/-- A program all of whose calls are of one kind. -/
def Only (P : C → Prop) : Prog C R α → Prop
  | .pure _ => True
  | .call c k => P c ∧ ∀ r, (k r).Only P

theorem Only.bind {P : C → Prop} {f : α → Prog C R β} (hp : p.Only P) (hf : ∀ a, (f a).Only P) :
    (p.bind f).Only P := by
  induction p with
  | pure a => exact hf a
  | call c k ih => exact ⟨hp.1, fun r => ih r (hp.2 r)⟩

theorem Only.mono {P Q : C → Prop} (hp : p.Only P) (himp : ∀ c, P c → Q c) : p.Only Q := by
  induction p with
  | pure a => trivial
  | call c k ih => exact ⟨himp c hp.1, fun r => ih r (hp.2 r)⟩

theorem Returns.only {P : C → Prop} {a : α} (hreturns : p.Returns h a) (hp : p.Only P) :
    ∀ o ∈ h, P o.call := by
  induction p generalizing h with
  | pure b =>
      rw [(returns_pure_iff.mp hreturns).1]
      simp
  | call c k ih =>
      obtain ⟨r, h', rfl, hrest⟩ := returns_call_iff.mp hreturns
      rintro o (⟨⟩ | ⟨-, hmem⟩)
      · exact hp.1
      · exact ih r hrest (hp.2 r) o hmem

/-- Whatever the answers, a program returns, and by one of its runs. -/
theorem wp_returns {P : List (Observation C R) → C → Prop} {p₀ : Prog C R α}
    (hleads : p₀.Leads h p) (hallowed : ∀ h c, P h c) :
    p.wp ownStep P (fun a h => p₀.Returns h a) h := by
  induction p generalizing h with
  | pure a => exact hleads
  | call c k ih =>
      refine ⟨hallowed h c, fun r h' hstep => ?_⟩
      have hstep : h' = h ++ [⟨c, r⟩] := hstep
      subst hstep
      exact ih r (hleads.snoc r)

/-- A run of a program ends as its weakest precondition says. -/
theorem Returns.of_wp {P : List (Observation C R) → C → Prop}
    {Q : α → List (Observation C R) → Prop} {h₀ : List (Observation C R)} {a : α}
    (hreturns : p.Returns h a) (hwp : p.wp ownStep P Q h₀) : Q a (h₀ ++ h) := by
  induction p generalizing h h₀ with
  | pure b =>
      obtain ⟨rfl, rfl⟩ := returns_pure_iff.mp hreturns
      rw [List.append_nil]
      exact hwp
  | call c k ih =>
      obtain ⟨r, h', rfl, hrest⟩ := returns_call_iff.mp hreturns
      have hstep : ownStep h₀ c r (h₀ ++ [⟨c, r⟩]) := rfl
      have hend := ih r hrest (hwp.2 r _ hstep)
      rwa [List.append_assoc] at hend

end Prog

namespace Proc

variable {p : Proc C R ε α} {h : List (Observation C R)}

/-- A complete run of a procedure, and what it returned or raised. -/
abbrev Returns (p : Proc C R ε α) (h : List (Observation C R)) (r : Except ε α) : Prop :=
  Prog.Returns p.run h r

@[simp]
theorem returns_pure_iff {a : α} {r : Except ε α} :
    Returns (pure a : Proc C R ε α) h r ↔ h = [] ∧ r = .ok a := Prog.returns_pure_iff

@[simp]
theorem returns_throw_iff {e : ε} {r : Except ε α} :
    Returns (throw e : Proc C R ε α) h r ↔ h = [] ∧ r = .error e := Prog.returns_pure_iff

@[simp]
theorem returns_perform_iff {c : C} {r : Except ε (R c)} :
    Returns (perform c : Proc C R ε (R c)) h r ↔ ∃ x, h = [⟨c, x⟩] ∧ r = .ok x := by
  refine Prog.returns_call_iff.trans ?_
  simp [Prog.returns_pure_iff]

/-- A sequence ends with the exception of its first part, or goes on with its value. -/
theorem returns_bind_iff {f : α → Proc C R ε β} {r : Except ε β} :
    Returns (p >>= f) h r ↔ (∃ e, Returns p h (.error e) ∧ r = .error e) ∨
      ∃ h₁ a h₂, h = h₁ ++ h₂ ∧ Returns p h₁ (.ok a) ∧ Returns (f a) h₂ r := by
  refine Prog.returns_bind_iff.trans ?_
  constructor
  · rintro ⟨h₁, x, h₂, rfl, hfirst, hsecond⟩
    cases x with
    | ok a => exact .inr ⟨h₁, a, h₂, rfl, hfirst, hsecond⟩
    | error e =>
        obtain ⟨rfl, rfl⟩ := Prog.returns_pure_iff.mp hsecond
        rw [List.append_nil]
        exact .inl ⟨e, hfirst, rfl⟩
  · rintro (⟨e, hfirst, rfl⟩ | ⟨h₁, a, h₂, rfl, hfirst, hsecond⟩)
    · exact ⟨h, .error e, [], by simp, hfirst, Prog.returns_pure_iff.mpr ⟨rfl, rfl⟩⟩
    · exact ⟨h₁, .ok a, h₂, rfl, hfirst, hsecond⟩

/-- A call that cannot raise, and what follows it. -/
theorem returns_perform_bind_iff {c : C} {f : R c → Proc C R ε β} {r : Except ε β} :
    Returns (perform c >>= f) h r ↔ ∃ x h', h = ⟨c, x⟩ :: h' ∧ Returns (f x) h' r := by
  rw [returns_bind_iff]
  constructor
  · rintro (⟨e, hfirst, -⟩ | ⟨h₁, a, h₂, rfl, hfirst, hrest⟩)
    · obtain ⟨x, -, heq⟩ := returns_perform_iff.mp hfirst
      cases heq
    · obtain ⟨x, rfl, heq⟩ := returns_perform_iff.mp hfirst
      cases heq
      exact ⟨a, h₂, rfl, hrest⟩
  · rintro ⟨x, h₂, rfl, hrest⟩
    exact .inr ⟨_, x, h₂, rfl, returns_perform_iff.mpr ⟨x, rfl, rfl⟩, hrest⟩

/-- A procedure all of whose calls are of one kind. -/
abbrev Only (P : C → Prop) (p : Proc C R ε α) : Prop := Prog.Only P p.run

theorem Only.bind {P : C → Prop} {f : α → Proc C R ε β} (hp : Only P p) (hf : ∀ a, Only P (f a)) :
    Only P (p >>= f) := by
  refine Prog.Only.bind hp fun r => ?_
  cases r with
  | ok a => exact hf a
  | error e => trivial

theorem Only.mono {P Q : C → Prop} (hp : Only P p) (himp : ∀ c, P c → Q c) : Only Q p :=
  Prog.Only.mono hp himp

theorem Only.catching {P : C → Prop} (hp : Only P p) : Only P (catching p) :=
  Prog.Only.bind hp fun _ => trivial

theorem Only.pure {P : C → Prop} (a : α) : Only P (pure a : Proc C R ε α) := trivial

theorem Only.throw {P : C → Prop} (e : ε) : Only P (throw e : Proc C R ε α) := trivial

theorem Only.perform {P : C → Prop} {c : C} (hc : P c) : Only P (perform c : Proc C R ε (R c)) :=
  ⟨hc, fun _ => trivial⟩

@[simp]
theorem returns_catching_iff {r : Except ε (Except ε α)} :
    Returns (catching p) h r ↔ ∃ x, Returns p h x ∧ r = .ok x := by
  refine Prog.returns_bind_iff.trans ?_
  constructor
  · rintro ⟨h₁, x, h₂, rfl, hfirst, hsecond⟩
    obtain ⟨rfl, rfl⟩ := Prog.returns_pure_iff.mp hsecond
    rw [List.append_nil]
    exact ⟨x, hfirst, rfl⟩
  · rintro ⟨x, hfirst, rfl⟩
    exact ⟨h, x, [], by simp, hfirst, Prog.returns_pure_iff.mpr ⟨rfl, rfl⟩⟩

/-- A handler goes on with what its body returned or raised. -/
theorem returns_catching_bind_iff {f : Except ε α → Proc C R ε β} {r : Except ε β} :
    Returns (catching p >>= f) h r ↔
      ∃ h₁ x h₂, h = h₁ ++ h₂ ∧ Returns p h₁ x ∧ Returns (f x) h₂ r := by
  simp [returns_bind_iff]

end Proc

/-- **What a thread has done is a run of the program it was started with.** -/
theorem System.Reachable.leads {S : System σ ι C R α} {cfg : Config σ ι C R α}
    (hreach : S.Reachable cfg) {t : Nat} {i : ι} {p : Prog C R α}
    (hthread : cfg.threads[t]? = some ⟨i, p⟩) : (S.entry i).Leads (own t cfg.history) p :=
  (hreach.follows (I := fun i p h => (S.entry i).Leads h p) (fun _ => .refl _)
    fun _ _ _ r _ hleads => hleads.snoc r).2 t _ hthread

/-- What is counted in a history is counted thread by thread. -/
theorem countP_eq_sum_own (f : Observation C R → Bool) {n : Nat} {h : List (Event σ C R)}
    (hlt : ∀ event ∈ h, event.thread < n) :
    h.countP (fun event => f event.observed) = ∑ t ∈ Finset.range n, (own t h).countP f := by
  induction h with
  | nil => simp
  | cons event h ih =>
      have hone : ∀ t, (own t [event]).countP f =
          if event.thread = t then (if f event.observed then 1 else 0) else 0 := by
        intro t
        by_cases heq : event.thread = t
        · subst heq
          simp
        · simp [own_singleton_of_ne heq, heq]
      have hsum : ∑ t ∈ Finset.range n, (own t [event]).countP f =
          if f event.observed then 1 else 0 := by
        simp only [hone, Finset.sum_ite_eq, Finset.mem_range, hlt event List.mem_cons_self, if_true]
      calc (event :: h).countP (fun event => f event.observed)
          = h.countP (fun event => f event.observed) + if f event.observed then 1 else 0 := by
            rw [List.countP_cons]
        _ = ∑ t ∈ Finset.range n, (own t h).countP f +
              ∑ t ∈ Finset.range n, (own t [event]).countP f := by
            rw [ih fun event hmem => hlt event (List.mem_cons_of_mem _ hmem), hsum]
        _ = ∑ t ∈ Finset.range n, (own t (event :: h)).countP f := by
            rw [← Finset.sum_add_distrib]
            refine Finset.sum_congr rfl fun t _ => ?_
            have hsplit : own t (event :: h) = own t [event] ++ own t h := own_append t [event] h
            rw [hsplit, List.countP_append, Nat.add_comm]

end Interleaving
