import Mathlib.Data.Option.Basic

/-!
# SQL's three-valued logic

A condition is true, false or unknown. A `CHECK` constraint is violated only by a false one, so an
unknown condition passes; a `WHERE` clause selects only by a true one.
-/

namespace Sql

/-- `none` is unknown. -/
abbrev Truth := Option Bool

namespace Truth

def and : Truth → Truth → Truth
  | some false, _ => some false
  | _, some false => some false
  | some true, some true => some true
  | _, _ => none

def or : Truth → Truth → Truth
  | some true, _ => some true
  | _, some true => some true
  | some false, some false => some false
  | _, _ => none

def not (t : Truth) : Truth := t.map (! ·)

/-- A conjunction of any length. -/
def all : List Truth → Truth
  | [] => some true
  | t :: rest => t.and (all rest)

/-- A disjunction of any length. -/
def any : List Truth → Truth
  | [] => some false
  | t :: rest => t.or (any rest)

/-- Whether a `CHECK` constraint lets a row pass. -/
def passes (t : Truth) : Bool := t ≠ some false

/-- Whether a `WHERE` clause selects a row. -/
def selects (t : Truth) : Bool := t = some true

@[simp]
theorem true_and (t : Truth) : and (some true) t = t := by
  rcases t with _ | _ | _ <;> rfl

@[simp]
theorem false_and (t : Truth) : and (some false) t = some false := rfl

@[simp]
theorem and_false (t : Truth) : and t (some false) = some false := by
  rcases t with _ | _ | _ <;> rfl

@[simp]
theorem and_true (t : Truth) : and t (some true) = t := by
  rcases t with _ | _ | _ <;> rfl

@[simp]
theorem or_false (t : Truth) : or t (some false) = t := by
  rcases t with _ | _ | _ <;> rfl

@[simp]
theorem true_or (t : Truth) : or (some true) t = some true := rfl

@[simp]
theorem false_or (t : Truth) : or (some false) t = t := by
  rcases t with _ | _ | _ <;> rfl

@[simp]
theorem or_true (t : Truth) : or t (some true) = some true := by
  rcases t with _ | _ | _ <;> rfl

theorem some_and_some (a b : Bool) : and (some a) (some b) = some (a && b) := by
  cases a <;> cases b <;> rfl

theorem some_or_some (a b : Bool) : or (some a) (some b) = some (a || b) := by
  cases a <;> cases b <;> rfl

@[simp]
theorem all_nil : all [] = some true := rfl

@[simp]
theorem all_cons (t : Truth) (rest : List Truth) : all (t :: rest) = t.and (all rest) := rfl

@[simp]
theorem any_nil : any [] = some false := rfl

@[simp]
theorem any_cons (t : Truth) (rest : List Truth) : any (t :: rest) = t.or (any rest) := rfl

@[simp]
theorem not_some (b : Bool) : not (some b) = some !b := rfl

@[simp]
theorem passes_some (b : Bool) : passes (some b) = b := by
  cases b <;> rfl

@[simp]
theorem passes_none : passes none = true := rfl

theorem passes_and (t u : Truth) : passes (t.and u) = (passes t && passes u) := by
  rcases t with _ | _ | _ <;> rcases u with _ | _ | _ <;> rfl

end Truth

variable {α : Type}

def isNull (x : Option α) : Truth := some x.isNone

def isNotNull (x : Option α) : Truth := some x.isSome

/-- A test on a nullable column: unknown on `NULL`. -/
def test (x : Option α) (p : α → Bool) : Truth := x.map p

@[simp]
theorem isNull_none : isNull (none : Option α) = some true := rfl

@[simp]
theorem isNull_some (a : α) : isNull (some a) = some false := rfl

@[simp]
theorem isNotNull_none : isNotNull (none : Option α) = some false := rfl

@[simp]
theorem isNotNull_some (a : α) : isNotNull (some a) = some true := rfl

@[simp]
theorem test_none (p : α → Bool) : test none p = none := rfl

@[simp]
theorem test_some (a : α) (p : α → Bool) : test (some a) p = some (p a) := rfl

end Sql
