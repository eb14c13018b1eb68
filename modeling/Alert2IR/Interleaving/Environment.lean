import Mathlib.Order.Defs.PartialOrder
import Alert2IR.Interleaving.Solo

/-!
# Programs against one environment

An environment answers every call, and its state decides how. Against it a program has a single run,
which can be computed; what a sequence does there is what its parts do one after the other.
-/

namespace Interleaving

variable {σ C : Type} {R : C → Type} {α β ε : Type}

/-- How an environment answers a call, and the state it is in afterwards. -/
abbrev Responder (σ C : Type) (R : C → Type) := σ → (c : C) → R c × σ

namespace Prog

/-- What a program returns against an environment, and the state it leaves behind. -/
def eval (env : Responder σ C R) : Prog C R α → σ → α × σ
  | .pure a, s => (a, s)
  | .call c k, s => (k (env s c).1).eval env (env s c).2

variable {env : Responder σ C R}

theorem eval_bind (p : Prog C R α) (f : α → Prog C R β) (s : σ) :
    (p.bind f).eval env s = (f (p.eval env s).1).eval env (p.eval env s).2 := by
  induction p generalizing s with
  | pure a => rfl
  | call c k ih => exact ih (env s c).1 (env s c).2

/-- What every call does not decrease, a program does not decrease. -/
theorem eval_mono [Preorder β] {f : σ → β} (hcall : ∀ s c, f s ≤ f (env s c).2) (p : Prog C R α)
    (s : σ) : f s ≤ f (p.eval env s).2 := by
  induction p generalizing s with
  | pure a => exact le_refl _
  | call c k ih =>
      calc f s ≤ f (env s c).2 := hcall s c
        _ ≤ f ((k (env s c).1).eval env (env s c).2).2 := ih _ _

/-- The calls of a program against an environment, with their answers. -/
def trace (env : Responder σ C R) : Prog C R α → σ → List (Observation C R)
  | .pure _, _ => []
  | .call c k, s => ⟨c, (env s c).1⟩ :: (k (env s c).1).trace env (env s c).2

end Prog

namespace Proc

/-- What a procedure returns or raises against an environment, and the state it leaves behind. -/
def eval (env : Responder σ C R) (p : Proc C R ε α) (s : σ) : Except ε α × σ :=
  Prog.eval env p.run s

variable {env : Responder σ C R}

@[simp]
theorem eval_pure (a : α) (s : σ) : eval env (pure a : Proc C R ε α) s = (.ok a, s) := rfl

@[simp]
theorem eval_throw (e : ε) (s : σ) : eval env (throw e : Proc C R ε α) s = (.error e, s) := rfl

@[simp]
theorem eval_perform (c : C) (s : σ) :
    eval env (perform c : Proc C R ε (R c)) s = (.ok (env s c).1, (env s c).2) := rfl

/-- A sequence ends with the exception of its first part, or goes on with its value. -/
theorem eval_bind (p : Proc C R ε α) (f : α → Proc C R ε β) (s : σ) :
    eval env (p >>= f) s =
      match eval env p s with
      | (.ok a, s') => eval env (f a) s'
      | (.error e, s') => (.error e, s') := by
  refine (Prog.eval_bind p.run _ s).trans ?_
  unfold eval
  generalize Prog.eval env p.run s = x
  obtain ⟨r, s'⟩ := x
  cases r <;> rfl

@[simp]
theorem eval_catching (p : Proc C R ε α) (s : σ) :
    eval env (catching p) s = (.ok (eval env p s).1, (eval env p s).2) :=
  Prog.eval_bind p.run _ s

theorem eval_bind_of_ok {p : Proc C R ε α} {f : α → Proc C R ε β} {s : σ} (a : α) (s' : σ)
    (h : eval env p s = (.ok a, s')) : eval env (p >>= f) s = eval env (f a) s' := by
  rw [eval_bind, h]

theorem eval_mono [Preorder β] {f : σ → β} (hcall : ∀ s c, f s ≤ f (env s c).2)
    (p : Proc C R ε α) (s : σ) : f s ≤ f (eval env p s).2 :=
  Prog.eval_mono hcall p.run s

end Proc

end Interleaving
