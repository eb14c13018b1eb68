import Alert2IR.Persistence.Statements

/-!
# Tables that represent a store

The tables represent a store when each holds exactly the rows of its entries. The store is then a
function of the tables, and the updates of the two tables are updates of the store.
-/

namespace Alert2IR

namespace Postgres

structure Represents (db : Db) (s : Store) : Prop where
  processings : ∀ k, db.processings.lookup k = (s k).map (·.processing.row)
  attempts : ∀ id row, db.attempts.lookup id = some row ↔
    ∃ k e a, s k = some e ∧ e.attempt = some a ∧ a.attemptId = id ∧ row = a.row

/-- The store the tables hold. -/
def view (db : Db) : Store := fun k =>
  match db.processings.lookup k with
  | none => none
  | some row =>
      match deserializeFields row with
      | .ok processing => some ⟨processing, (selectProcessingAttempt db k).bind fun attempt =>
          (deserializeAttemptFields attempt).toOption⟩
      | .error _ => none

theorem Represents.empty : Represents ⟨∅, ∅⟩ fun _ => none :=
  ⟨fun _ => rfl, fun _ _ => by simp⟩

section Lookups

variable {db : Db} {s : Store}

theorem Represents.lookup_some (h : Represents db s) {k : UUID} {e : Entry} (he : s k = some e) :
    db.processings.lookup k = some e.processing.row := by
  rw [h.processings, he]
  rfl

theorem Represents.lookup_none (h : Represents db s) {k : UUID} (he : s k = none) :
    db.processings.lookup k = none := by
  rw [h.processings, he]
  rfl

theorem Represents.attempt_lookup (h : Represents db s) {k : UUID} {e : Entry} {a : AttemptFields}
    (he : s k = some e) (ha : e.attempt = some a) : db.attempts.lookup a.attemptId = some a.row :=
  (h.attempts _ _).mpr ⟨k, e, a, he, ha, rfl, rfl⟩

theorem Represents.mem_processings (h : Represents db s) {row : ProcessingRow} :
    row ∈ db.processings.rows ↔ ∃ k e, s k = some e ∧ row = e.processing.row := by
  rw [Table.mem_rows]
  constructor
  · rintro ⟨k, hlookup⟩
    rw [h.processings, Option.map_eq_some_iff] at hlookup
    obtain ⟨e, he, rfl⟩ := hlookup
    exact ⟨k, e, he, rfl⟩
  · rintro ⟨k, e, he, rfl⟩
    exact ⟨k, h.lookup_some he⟩

theorem Represents.mem_attempts (h : Represents db s) {row : AttemptRow} :
    row ∈ db.attempts.rows ↔ ∃ k e a, s k = some e ∧ e.attempt = some a ∧ row = a.row := by
  rw [Table.mem_rows]
  constructor
  · rintro ⟨id, hlookup⟩
    obtain ⟨k, e, a, he, ha, -, rfl⟩ := (h.attempts id row).mp hlookup
    exact ⟨k, e, a, he, ha, rfl⟩
  · rintro ⟨k, e, a, he, ha, rfl⟩
    exact ⟨_, h.attempt_lookup he ha⟩

theorem selectIdempotency_some (h : Represents db s) {scope key : String} {row : ProcessingRow}
    (hselect : selectIdempotency db scope key = some row) :
    ∃ k e, s k = some e ∧ row = e.processing.row ∧ e.processing.idempotencyScope = some scope ∧
      e.processing.idempotencyKey = some key := by
  have hmem := List.mem_of_find?_eq_some hselect
  have hmatch := List.find?_some hselect
  obtain ⟨k, e, he, rfl⟩ := h.mem_processings.mp hmem
  simp only [Bool.and_eq_true, decide_eq_true_eq] at hmatch
  exact ⟨k, e, he, rfl, hmatch⟩

theorem selectIdempotency_none (h : Represents db s) {scope key : String}
    (hselect : selectIdempotency db scope key = none) {k : UUID} {e : Entry} (he : s k = some e) :
    ¬ (e.processing.idempotencyScope = some scope ∧ e.processing.idempotencyKey = some key) := by
  have hnone := List.find?_eq_none.mp hselect _ (h.mem_processings.mpr ⟨k, e, he, rfl⟩)
  simp only [Bool.and_eq_true, decide_eq_true_eq] at hnone
  exact hnone

theorem attempt_processingId (hcoherent : s.Coherent) {k : UUID} {e : Entry} {a : AttemptFields}
    (he : s k = some e) (ha : e.attempt = some a) : a.processingId = k := by
  obtain ⟨q, b, -, hserves⟩ := (hcoherent.entry k e he).executing ha
  rw [hserves.processing, hcoherent.id k e he]

/-- A processing has at most one attempt row. -/
theorem filter_attempts (h : Represents db s) (hcoherent : s.Coherent) (k : UUID) :
    (db.attempts.rows.filter fun row => row.processingId = k)
      = (((s k).bind (·.attempt)).map AttemptFields.row).toList := by
  have hmem : ∀ row, row ∈ (db.attempts.rows.filter fun row => row.processingId = k) ↔
      row ∈ (((s k).bind (·.attempt)).map AttemptFields.row).toList := by
    intro row
    rw [List.mem_filter, h.mem_attempts, Option.mem_toList, Option.map_eq_some_iff]
    constructor
    · rintro ⟨⟨k', e, a, he, ha, rfl⟩, hk⟩
      rw [decide_eq_true_eq, AttemptFields.row_processingId,
        attempt_processingId hcoherent he ha] at hk
      subst hk
      exact ⟨a, by simp [he, ha], rfl⟩
    · rintro ⟨a, ha, rfl⟩
      obtain ⟨e, he, ha⟩ := Option.bind_eq_some_iff.mp ha
      exact ⟨⟨k, e, a, he, ha, rfl⟩, decide_eq_true (attempt_processingId hcoherent he ha)⟩
  have hnodup : (db.attempts.rows.map AttemptRow.attemptId).Nodup := by
    refine Table.nodup_map_rows db.attempts _ fun id row id' row' hlookup hlookup' heq => ?_
    obtain ⟨-, -, a, -, -, rfl, rfl⟩ := (h.attempts id row).mp hlookup
    obtain ⟨-, -, a', -, -, rfl, rfl⟩ := (h.attempts id' row').mp hlookup'
    exact heq
  have hperm := (List.perm_ext_iff_of_nodup (hnodup.of_map.filter _) ?_).mpr hmem
  · cases hattempt : ((s k).bind (·.attempt)).map AttemptFields.row with
    | none => simpa [hattempt] using hperm
    | some row => simpa [hattempt] using hperm
  · cases ((s k).bind (·.attempt)).map AttemptFields.row <;> simp

/-- The attempt of a processing is the only one its query selects. -/
theorem selectProcessingAttempt_eq (h : Represents db s) (hcoherent : s.Coherent) (k : UUID) :
    selectProcessingAttempt db k = ((s k).bind (·.attempt)).map AttemptFields.row := by
  rw [selectProcessingAttempt, filter_attempts h hcoherent]
  cases ((s k).bind (·.attempt)).map AttemptFields.row <;> simp

/-- The rows `find_reconcilable` looks at: every processing with its attempt. -/
theorem joined_eq (h : Represents db s) (hcoherent : s.Coherent) :
    joined db = db.processings.rows.map fun p =>
      (p, ((s p.id).bind (·.attempt)).map AttemptFields.row) := by
  rw [List.map_eq_flatMap, joined]
  refine List.flatMap_congr fun p _ => ?_
  rw [filter_attempts h hcoherent]
  cases ((s p.id).bind (·.attempt)).map AttemptFields.row <;> simp

/-- **The tables determine the store.** -/
theorem Represents.view_eq (h : Represents db s) (hcoherent : s.Coherent) : view db = s := by
  funext k
  unfold view
  cases he : s k with
  | none => rw [h.lookup_none he]
  | some e =>
      have hentry := hcoherent.entry k e he
      have hattempt : (selectProcessingAttempt db k).bind
          (fun attempt => (deserializeAttemptFields attempt).toOption) = e.attempt := by
        rw [selectProcessingAttempt_eq h hcoherent, he]
        cases ha : e.attempt with
        | none => simp [ha]
        | some a =>
            have hdurable : a.durable = a := by simpa [ha] using hentry.attemptDurable
            simp [ha, deserializeAttemptFields_row hdurable, Except.toOption]
      simp only [h.lookup_some he, deserializeFields_row hentry, hattempt]

end Lookups

/-! ### Updates -/

section Updates

variable {db : Db} {s : Store} {k : UUID} {p : ProcessingFields}

/-- A new or changed processing that keeps what attempt it has. -/
theorem Represents.putProcessing (h : Represents db s) (hid : p.processingId = k) :
    Represents { db with processings := db.processings.insert k p.row }
      (Function.update s k (some ⟨p, (s k).bind (·.attempt)⟩)) := by
  constructor
  · intro k'
    rw [Table.lookup_insert]
    split
    · next hk =>
        subst hk
        simp
    · next hk => rw [Function.update_of_ne hk, h.processings]
  · intro id row
    rw [h.attempts]
    constructor
    · rintro ⟨k', e, a, he, ha, hattemptId, rfl⟩
      by_cases hk : k' = k
      · subst hk
        exact ⟨k', ⟨p, (s k').bind (·.attempt)⟩, a, by simp, by simp [he, ha], hattemptId, rfl⟩
      · exact ⟨k', e, a, by rw [Function.update_of_ne hk, he], ha, hattemptId, rfl⟩
    · rintro ⟨k', e, a, he, ha, hattemptId, rfl⟩
      by_cases hk : k' = k
      · subst hk
        simp only [Function.update_self, Option.some.injEq] at he
        subst he
        obtain ⟨e, he, ha⟩ := Option.bind_eq_some_iff.mp ha
        exact ⟨k', e, a, he, ha, hattemptId, rfl⟩
      · rw [Function.update_of_ne hk] at he
        exact ⟨k', e, a, he, ha, hattemptId, rfl⟩

/-- A new or changed attempt, under an attempt ID no other processing uses. -/
theorem Represents.putAttempt (h : Represents db s) {e : Entry} {a : AttemptFields}
    (he : s k = some e) (hsame : ∀ a', e.attempt = some a' → a'.attemptId = a.attemptId)
    (hother : ∀ k' e', k' ≠ k → s k' = some e' →
      e'.attempt.map (·.attemptId) ≠ some a.attemptId) :
    Represents { db with attempts := db.attempts.insert a.attemptId a.row }
      (Function.update s k (some { e with attempt := some a })) := by
  constructor
  · intro k'
    by_cases hk : k' = k
    · subst hk
      simp [h.processings, he]
    · simp only [Function.update_of_ne hk, h.processings]
  · intro id row
    rw [Table.lookup_insert]
    by_cases hid : id = a.attemptId
    · subst hid
      simp only [if_true, Option.some.injEq]
      constructor
      · rintro rfl
        exact ⟨k, { e with attempt := some a }, a, by simp, rfl, rfl, rfl⟩
      · rintro ⟨k', e', a', he', ha', hattemptId, rfl⟩
        by_cases hk : k' = k
        · subst hk
          simp only [Function.update_self, Option.some.injEq] at he'
          subst he'
          cases ha'
          rfl
        · rw [Function.update_of_ne hk] at he'
          exact absurd (by simp [ha', hattemptId]) (hother k' e' hk he')
    · simp only [hid, if_false]
      rw [h.attempts]
      constructor
      · rintro ⟨k', e', a', he', ha', rfl, rfl⟩
        by_cases hk : k' = k
        · subst hk
          obtain rfl := Option.some.inj (he.symm.trans he')
          exact absurd (hsame a' ha') hid
        · exact ⟨k', e', a', by rw [Function.update_of_ne hk, he'], ha', rfl, rfl⟩
      · rintro ⟨k', e', a', he', ha', rfl, rfl⟩
        by_cases hk : k' = k
        · subst hk
          simp only [Function.update_self, Option.some.injEq] at he'
          subst he'
          cases ha'
          exact absurd rfl hid
        · rw [Function.update_of_ne hk] at he'
          exact ⟨k', e', a', he', ha', rfl, rfl⟩

end Updates

end Postgres

end Alert2IR
