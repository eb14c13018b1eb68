import Alert2IR.Persistence.Postgres
import Alert2IR.Persistence.Rows

/-!
# What the statements do to tables that represent a store

The tables represent a store when each holds exactly the rows of its entries. Every statement that
does not raise takes tables that represent a store to tables that represent the next one.
-/

namespace Alert2IR

namespace Postgres

/-! ### Statements that do not raise -/

section Tx

variable {α β : Type} {db db' db'' : Db}

@[simp]
theorem pure_eq_ok_iff {a b : α} : (pure a : Tx α) db = .ok (b, db') ↔ b = a ∧ db' = db := by
  change (.ok (a, db) : Except PyError (α × Db)) = .ok (b, db') ↔ _
  simp [eq_comm]

@[simp]
theorem throw_eq_ok_iff {b : α} {e : PyError} :
    (throw e : Tx α) db = .ok (b, db') ↔ False := by
  simp [throw, throwThe, MonadExceptOf.throw, StateT.lift, bind, Except.bind]

@[simp]
theorem bind_eq_ok_iff {x : Tx α} {f : α → Tx β} {b : β} :
    (x >>= f) db = .ok (b, db'') ↔ ∃ a db', x db = .ok (a, db') ∧ f a db' = .ok (b, db'') := by
  simp only [bind, StateT.bind, Except.bind]
  cases x db with
  | error e => simp
  | ok p =>
      obtain ⟨a, db'⟩ := p
      simp

/-- Reading the tables goes on with them. -/
@[simp]
theorem getDb_bind (f : Db → Tx β) : (getDb >>= f) db = f db db := rfl

@[simp]
theorem map_eq_ok_iff {x : Tx α} {f : α → β} {b : β} :
    (f <$> x) db = .ok (b, db') ↔ ∃ a, x db = .ok (a, db') ∧ f a = b := by
  rw [map_eq_pure_bind]
  simp only [bind_eq_ok_iff, pure_eq_ok_iff]
  constructor
  · rintro ⟨a, _, hx, rfl, rfl⟩
    exact ⟨a, hx, rfl⟩
  · rintro ⟨a, hx, rfl⟩
    exact ⟨a, db', hx, rfl, rfl⟩

@[simp]
theorem putProcessing_eq_ok_iff {row : ProcessingRow} {u : Unit} :
    putProcessing row db = .ok (u, db') ↔
      db' = { db with processings := db.processings.insert row.id row } := by
  simp [putProcessing, modify, modifyGet, MonadStateOf.modifyGet, StateT.modifyGet, pure,
    Except.pure, eq_comm]

@[simp]
theorem putAttempt_eq_ok_iff {row : AttemptRow} {u : Unit} :
    putAttempt row db = .ok (u, db') ↔
      db' = { db with attempts := db.attempts.insert row.attemptId row } := by
  simp [putAttempt, modify, modifyGet, MonadStateOf.modifyGet, StateT.modifyGet, pure,
    Except.pure, eq_comm]

@[simp]
theorem bindText_eq_ok_iff {values : List String} {u : Unit} :
    bindText values db = .ok (u, db') ↔ values.all nulFree = true ∧ db' = db := by
  unfold bindText
  split <;> simp_all

theorem bindText_of_nulFree {values : List String} (h : values.all nulFree = true) :
    bindText values db = .ok ((), db) := bindText_eq_ok_iff.mpr ⟨h, rfl⟩

/-- Every constraint lets the row pass. -/
def satisfied (constraints : List (String × Sql.Truth)) : Bool :=
  constraints.all fun constraint => constraint.2.passes

@[simp]
theorem checkConstraints_eq_ok_iff {constraints : List (String × Sql.Truth)} {u : Unit} :
    checkConstraints constraints db = .ok (u, db') ↔ satisfied constraints = true ∧ db' = db := by
  unfold checkConstraints satisfied
  cases h : constraints.find? fun constraint => !constraint.2.passes with
  | none =>
      have hall : (constraints.all fun constraint => constraint.2.passes) = true := by
        simpa using List.find?_eq_none.mp h
      simp [hall]
  | some violated =>
      have hsome := List.find?_some h
      have hmem := List.mem_of_find?_eq_some h
      simp only [throw_eq_ok_iff, false_iff, not_and, List.all_eq_true]
      intro hall
      simp [hall _ hmem] at hsome

/-- No other active attempt of the same processing stands in the way of an attempt. -/
def OnlyActive (db : Db) (row : AttemptRow) : Prop :=
  Schema.activeAttemptStates.contains row.state = true →
    ∀ other ∈ db.attempts.rows, other.attemptId ≠ row.attemptId →
      other.processingId = row.processingId →
      Schema.activeAttemptStates.contains other.state = false

@[simp]
theorem checkActive_eq_ok_iff {row : AttemptRow} {u : Unit} :
    checkActive row db = .ok (u, db') ↔ OnlyActive db row ∧ db' = db := by
  unfold checkActive OnlyActive
  rw [getDb_bind]
  constructor
  · intro h
    split at h
    · simp at h
    · next hnone =>
        simp only [pure_eq_ok_iff] at h
        refine ⟨fun hactive other hmem hne hsame => ?_, h.2⟩
        simp only [hactive, Bool.true_and, Bool.not_eq_true, List.any_eq_false] at hnone
        simpa [hne, hsame] using hnone other hmem
  · rintro ⟨hnone, rfl⟩
    split
    · next hsome =>
        simp only [Bool.and_eq_true, List.any_eq_true, decide_eq_true_eq] at hsome
        obtain ⟨hactive, other, hmem, ⟨hne, hsame⟩, hother⟩ := hsome
        rw [hnone hactive other hmem hne hsame] at hother
        cases hother
    · simp

variable {d : Dialect}

theorem updateProcessing_eq_ok_iff {processingId : UUID} {condition : ProcessingRow → Bool}
    {set : ProcessingRow → ProcessingRow} {r : Option ProcessingRow} :
    updateProcessing d processingId condition set db = .ok (r, db') ↔
      (r = none ∧ db' = db ∧
        ∀ row, db.processings.lookup processingId = some row → condition row = false) ∨
      ∃ row, db.processings.lookup processingId = some row ∧ condition row = true ∧
        satisfied (Schema.processingConstraints d (set row)) = true ∧ r = some (set row) ∧
        db' = { db with processings := db.processings.insert (set row).id (set row) } := by
  unfold updateProcessing
  rw [getDb_bind]
  cases hlookup : db.processings.lookup processingId with
  | none => simp
  | some row =>
      cases hcondition : condition row with
      | false => simp [hcondition]
      | true =>
          simp only [hcondition, if_true, bind_eq_ok_iff, checkConstraints_eq_ok_iff,
            putProcessing_eq_ok_iff, pure_eq_ok_iff]
          constructor
          · rintro ⟨_, _, ⟨hsatisfied, rfl⟩, _, _, rfl, rfl, rfl⟩
            exact .inr ⟨row, rfl, hcondition, hsatisfied, rfl, rfl⟩
          · rintro (⟨-, -, h⟩ | ⟨_, h, -, hsatisfied, rfl, rfl⟩)
            · simp [hcondition] at h
            · cases h
              exact ⟨(), _, ⟨hsatisfied, rfl⟩, (), _, rfl, rfl, rfl⟩

theorem updateAttempt_eq_ok_iff {attemptId : UUID} {condition : AttemptRow → Bool}
    {set : AttemptRow → AttemptRow} {r : Option AttemptRow} :
    updateAttempt d attemptId condition set db = .ok (r, db') ↔
      (r = none ∧ db' = db ∧
        ∀ row, db.attempts.lookup attemptId = some row → condition row = false) ∨
      ∃ row, db.attempts.lookup attemptId = some row ∧ condition row = true ∧
        satisfied (Schema.attemptConstraints d (set row)) = true ∧ OnlyActive db (set row) ∧
        r = some (set row) ∧
        db' = { db with attempts := db.attempts.insert (set row).attemptId (set row) } := by
  unfold updateAttempt
  rw [getDb_bind]
  cases hlookup : db.attempts.lookup attemptId with
  | none => simp
  | some row =>
      cases hcondition : condition row with
      | false => simp [hcondition]
      | true =>
          simp only [hcondition, if_true, bind_eq_ok_iff, checkConstraints_eq_ok_iff,
            checkActive_eq_ok_iff, putAttempt_eq_ok_iff, pure_eq_ok_iff]
          constructor
          · rintro ⟨_, _, ⟨hsatisfied, rfl⟩, _, _, ⟨honly, rfl⟩, _, _, rfl, rfl, rfl⟩
            exact .inr ⟨row, rfl, hcondition, hsatisfied, honly, rfl, rfl⟩
          · rintro (⟨-, -, h⟩ | ⟨_, h, -, hsatisfied, honly, rfl, rfl⟩)
            · simp [hcondition] at h
            · cases h
              exact ⟨(), _, ⟨hsatisfied, rfl⟩, (), _, ⟨honly, rfl⟩, (), _, rfl, rfl, rfl⟩

end Tx

end Postgres

end Alert2IR
