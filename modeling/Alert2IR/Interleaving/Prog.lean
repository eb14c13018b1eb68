import Mathlib.Control.Monad.Basic
import Mathlib.Data.List.Basic

/-!
# Programs that issue atomic calls

A program is a tree: it either returns, or it issues one call and continues with the answer. The
answers come from outside, so one program stands for every behaviour of its environment. The
weakest precondition below runs a program against a transition relation on a state of the reader's
choice, be it the world the calls act on or only the list of calls made so far.
-/

namespace Interleaving

/-- A program issuing calls `c : C`, each answered by some `R c`, and returning an `α`. -/
inductive Prog (C : Type) (R : C → Type) (α : Type) : Type
  | pure (a : α)
  | call (c : C) (k : R c → Prog C R α)

namespace Prog

variable {C : Type} {R : C → Type} {α β γ σ : Type}

def bind : Prog C R α → (α → Prog C R β) → Prog C R β
  | .pure a, f => f a
  | .call c k, f => .call c fun r => (k r).bind f

instance : Monad (Prog C R) where
  pure := Prog.pure
  bind := Prog.bind

@[simp]
theorem pure_bind (a : α) (f : α → Prog C R β) : (Prog.pure a).bind f = f a := rfl

@[simp]
theorem call_bind (c : C) (k : R c → Prog C R α) (f : α → Prog C R β) :
    (Prog.call c k).bind f = .call c fun r => (k r).bind f := rfl

theorem bind_pure (p : Prog C R α) : p.bind Prog.pure = p := by
  induction p with
  | pure a => rfl
  | call c k ih =>
      rw [call_bind]
      exact congrArg (Prog.call c) (funext ih)

theorem bind_assoc (p : Prog C R α) (f : α → Prog C R β) (g : β → Prog C R γ) :
    (p.bind f).bind g = p.bind fun a => (f a).bind g := by
  induction p with
  | pure a => rfl
  | call c k ih =>
      simp only [call_bind]
      exact congrArg (Prog.call c) (funext ih)

instance : LawfulMonad (Prog C R) :=
  LawfulMonad.mk' _ bind_pure (fun _ _ => rfl) bind_assoc

/-- Issue one call and return its answer. -/
def perform (c : C) : Prog C R (R c) := .call c .pure

/-- The weakest precondition. Every call meets `P` where it is issued, and however the calls are
answered along `sem`, the program returns in a state that meets `Q`. The recursion is on the
program, so this is total correctness: no answer can keep the program from returning. -/
def wp (sem : σ → (c : C) → R c → σ → Prop) (P : σ → C → Prop) (Q : α → σ → Prop) :
    Prog C R α → σ → Prop
  | .pure a, s => Q a s
  | .call c k, s => P s c ∧ ∀ r s', sem s c r s' → (k r).wp sem P Q s'

variable {sem : σ → (c : C) → R c → σ → Prop} {P : σ → C → Prop}

@[simp]
theorem wp_pure (Q : α → σ → Prop) (a : α) (s : σ) :
    (Prog.pure a : Prog C R α).wp sem P Q s ↔ Q a s := Iff.rfl

@[simp]
theorem wp_call (Q : α → σ → Prop) (c : C) (k : R c → Prog C R α) (s : σ) :
    (Prog.call c k).wp sem P Q s ↔ P s c ∧ ∀ r s', sem s c r s' → (k r).wp sem P Q s' := Iff.rfl

theorem wp_mono {Q Q' : α → σ → Prop} {p : Prog C R α} {s : σ} (h : p.wp sem P Q s)
    (himp : ∀ a s, Q a s → Q' a s) : p.wp sem P Q' s := by
  induction p generalizing s with
  | pure a => exact himp a s h
  | call c k ih => exact ⟨h.1, fun r s' hs => ih r (h.2 r s' hs)⟩

/-- The rule of sequencing. -/
theorem wp_bind (Q : β → σ → Prop) (p : Prog C R α) (f : α → Prog C R β) (s : σ) :
    (p.bind f).wp sem P Q s ↔ p.wp sem P (fun a s' => (f a).wp sem P Q s') s := by
  induction p generalizing s with
  | pure a => rfl
  | call c k ih =>
      simp only [call_bind, wp_call]
      exact and_congr_right fun _ => forall_congr' fun r => forall_congr' fun s' =>
        imp_congr_right fun _ => ih r s'

end Prog

/-! ### Procedures that may raise -/

/-- A program that returns a value or raises an exception. -/
abbrev Proc (C : Type) (R : C → Type) (ε α : Type) := ExceptT ε (Prog C R) α

namespace Proc

variable {C : Type} {R : C → Type} {α β σ ε : Type}

/-- Issue a call that cannot raise. -/
def perform (c : C) : Proc C R ε (R c) := ExceptT.mk ((Prog.perform c).bind fun r => .pure (.ok r))

/-- Run a procedure and hand over its exception instead of raising it. -/
def catching (p : Proc C R ε α) : Proc C R ε (Except ε α) :=
  ExceptT.mk (p.run.bind fun r => .pure (.ok r))

/-- The weakest precondition of a procedure: `Q` speaks of the value or the exception. -/
def wp (sem : σ → (c : C) → R c → σ → Prop) (P : σ → C → Prop) (Q : Except ε α → σ → Prop)
    (p : Proc C R ε α) (s : σ) : Prop :=
  Prog.wp sem P Q p.run s

variable {sem : σ → (c : C) → R c → σ → Prop} {P : σ → C → Prop}

@[simp]
theorem wp_pure (Q : Except ε α → σ → Prop) (a : α) (s : σ) :
    wp sem P Q (pure a : Proc C R ε α) s ↔ Q (.ok a) s := Iff.rfl

@[simp]
theorem wp_throw (Q : Except ε α → σ → Prop) (e : ε) (s : σ) :
    wp sem P Q (throw e : Proc C R ε α) s ↔ Q (.error e) s := Iff.rfl

@[simp]
theorem wp_bind (Q : Except ε β → σ → Prop) (p : Proc C R ε α) (f : α → Proc C R ε β) (s : σ) :
    wp sem P Q (p >>= f) s ↔
      wp sem P (fun
        | .ok a => wp sem P Q (f a)
        | .error e => Q (.error e)) p s := by
  refine (Prog.wp_bind Q p.run _ s).trans ?_
  have hcont : ∀ (r : Except ε α) (s' : σ),
      Prog.wp sem P Q (ExceptT.bindCont f r) s' ↔
        (match r with
          | .ok a => wp sem P Q (f a)
          | .error e => Q (.error e)) s' := by
    intro r s'
    cases r <;> rfl
  exact ⟨fun h => Prog.wp_mono h fun r s' => (hcont r s').mp,
    fun h => Prog.wp_mono h fun r s' => (hcont r s').mpr⟩

@[simp]
theorem wp_perform (Q : Except ε (R c) → σ → Prop) (s : σ) :
    wp sem P Q (perform c : Proc C R ε (R c)) s ↔
      P s c ∧ ∀ r s', sem s c r s' → Q (.ok r) s' := Iff.rfl

@[simp]
theorem wp_catching (Q : Except ε (Except ε α) → σ → Prop) (p : Proc C R ε α) (s : σ) :
    wp sem P Q (catching p) s ↔ wp sem P (fun r => Q (.ok r)) p s :=
  Prog.wp_bind Q p.run _ s

theorem wp_mono {Q Q' : Except ε α → σ → Prop} {p : Proc C R ε α} {s : σ} (h : wp sem P Q p s)
    (himp : ∀ r s, Q r s → Q' r s) : wp sem P Q' p s :=
  Prog.wp_mono h himp

end Proc

end Interleaving
