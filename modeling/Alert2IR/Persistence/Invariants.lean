import Alert2IR.Persistence.PostgresLaw

/-!
# Properties of the tables that every operation keeps

A property that no statement breaks is kept by every operation, whatever its arguments, and so by
every sequence of operations.
-/

namespace Alert2IR

open Sql

namespace Postgres

variable {d : Dialect} {P : Db → Prop} {now : Int} {db : Db} {α β : Type}

/-- A completed processing is a row whose completion is recorded; nothing else may have one. -/
theorem completedAt_of_satisfied {row : ProcessingRow}
    (h : satisfied (Schema.processingConstraints d row) = true) (hstate : row.state ≠ "completed") :
    row.completedAt = none := by
  have hcoherence : (Schema.lifecycleCoherence row).passes = true :=
    List.all_eq_true.mp h
      ("ck_processing_records_lifecycle_coherence", Schema.lifecycleCoherence row)
      (by simp [Schema.processingConstraints])
  cases hcompleted : row.completedAt with
  | none => rfl
  | some t => simp [Schema.lifecycleCoherence, hstate, hcompleted] at hcoherence

/-- A part of a transaction that keeps a property of the tables. -/
structure Keeps (P : Db → Prop) (x : Tx α) : Prop where
  kept : ∀ {db a db'}, P db → x db = .ok (a, db') → P db'

namespace Keeps

theorem pure (a : α) : Keeps P (pure a) := by
  constructor
  rintro db b db' h hx
  obtain ⟨-, rfl⟩ := pure_eq_ok_iff.mp hx
  exact h

theorem throw (e : PyError) : Keeps P (throw e : Tx α) :=
  ⟨fun _ hx => (throw_eq_ok_iff.mp hx).elim⟩

theorem getDb : Keeps P getDb := by
  constructor
  rintro db a db' h hx
  cases hx
  exact h

theorem bind {x : Tx α} {f : α → Tx β} (hx : Keeps P x) (hf : ∀ a, Keeps P (f a)) :
    Keeps P (x >>= f) := by
  constructor
  rintro db b db'' h hbind
  obtain ⟨a, db', ha, hb⟩ := bind_eq_ok_iff.mp hbind
  exact (hf a).kept (hx.kept h ha) hb

theorem ite {p : Prop} [Decidable p] {x y : Tx α} (hx : Keeps P x) (hy : Keeps P y) :
    Keeps P (if p then x else y) := by
  split
  · exact hx
  · exact hy

theorem bindText (values : List String) : Keeps P (bindText values) := by
  constructor
  rintro db a db' h hx
  obtain ⟨-, rfl⟩ := bindText_eq_ok_iff.mp hx
  exact h

end Keeps

theorem transaction_kept {body : Tx α} {after : α → Except PyError β} (hbody : Keeps P body)
    (h : P db) : P (transaction body after db).2 := by
  have hcases : transaction body after db = (_, _) := Prod.mk.eta.symm
  rcases transaction_cases hcases with ⟨e, -, hdb⟩ | ⟨a, ha, -⟩
  · rwa [hdb]
  · exact hbody.kept h ha

theorem guarded_kept {check : Except PyError Unit} {rest : Except PyError α × Db}
    (hrest : P rest.2) (h : P db) : P (guarded check db rest).2 := by
  cases check with
  | error e => exact h
  | ok u => exact hrest

/-- An update that the schema lets through only where the processing is not completed, and that
leaves the row under its key. -/
structure Progresses (d : Dialect) (condition : ProcessingRow → Bool)
    (set : ProcessingRow → ProcessingRow) : Prop where
  id : ∀ row, (set row).id = row.id
  incomplete : ∀ row, condition row = true →
    satisfied (Schema.processingConstraints d (set row)) = true →
      row.state ≠ "completed" ∨ row.completedAt = none

/-- A property of the tables that no statement breaks. -/
structure Invariant (d : Dialect) (P : Db → Prop) : Prop where
  updateProcessing : ∀ k condition set, Progresses d condition set →
    Keeps P (updateProcessing d k condition set)
  updateAttempt : ∀ id condition set, Keeps P (updateAttempt d id condition set)
  insertAttempt : ∀ row, Keeps P (insertAttempt d row)
  insertAccept : ∀ row scope key, Keeps P (insertAccept d row scope key)

theorem Invariant.updateBoth (hP : Invariant d P) (id : UUID) (condition : AttemptRow → Bool)
    (set : AttemptRow → AttemptRow) {processingCondition : ProcessingRow → Bool}
    {processingSet : ProcessingRow → ProcessingRow} (diverged : String) (text : List String)
    (hprogresses : Progresses d processingCondition processingSet) :
    Keeps P (updateBoth d id condition set processingCondition processingSet diverged text) := by
  refine .bind (hP.updateAttempt id condition set) fun updated => ?_
  cases updated with
  | none => exact .pure _
  | some attempt =>
      refine .bind (.bindText text) fun _ => .bind (hP.updateProcessing _ _ _ hprogresses) ?_
      rintro (_ | processing)
      · exact .throw _
      · exact .pure _

/-- An update of the processings in one state. -/
theorem progresses_of_state {condition : ProcessingRow → Bool} {set : ProcessingRow → ProcessingRow}
    (state : String) (hstate : state ≠ "completed")
    (hcondition : ∀ row, condition row = true → row.state = state)
    (hid : ∀ row, (set row).id = row.id) : Progresses d condition set :=
  ⟨hid, fun row hrow _ => .inl (hcondition row hrow ▸ hstate)⟩

/-- An update to a state in which nothing is completed. -/
theorem progresses_of_uncompleted {condition : ProcessingRow → Bool}
    {set : ProcessingRow → ProcessingRow} (state : String) (hstate : state ≠ "completed")
    (hset : ∀ row, (set row).state = state ∧ (set row).completedAt = row.completedAt)
    (hid : ∀ row, (set row).id = row.id) : Progresses d condition set := by
  refine ⟨hid, fun row _ hsatisfied => .inr ?_⟩
  obtain ⟨hstate', hcompletedAt⟩ := hset row
  rw [← hcompletedAt]
  exact completedAt_of_satisfied hsatisfied (hstate' ▸ hstate)

/-- **What no statement breaks, no operation breaks.** -/
theorem Invariant.exec (hP : Invariant d P) (c : RepositoryCall) (h : P db) :
    P (exec d now c db).2 := by
  cases c with
  | acceptProcessing =>
      refine transaction_kept (.bind (.bindText _) fun _ => .bind (hP.insertAccept ..) ?_) h
      refine fun _ => .ite (.pure _) (.bind .getDb fun db => ?_)
      split
      · exact .throw _
      · exact .pure _
  | get => exact transaction_kept (.bind .getDb fun _ => .pure _) h
  | storeNoActionResult =>
      refine guarded_kept (transaction_kept
        (.bind (.bindText _) fun _ => hP.updateProcessing _ _ _ ?_) h) h
      exact progresses_of_state "accepted" (by decide) (fun _ => of_decide_eq_true) fun _ => rfl
  | storePlan =>
      refine guarded_kept (transaction_kept
        (.bind (.bindText _) fun _ => .bind (hP.updateProcessing _ _ _ ?_) ?_) h) h
      · exact progresses_of_state "accepted" (by decide) (fun _ => of_decide_eq_true) fun _ => rfl
      · rintro (_ | processing)
        · exact .pure _
        · exact .bind (hP.insertAttempt _) fun _ => .pure _
  | getAttemptForProcessing => exact transaction_kept (.bind .getDb fun _ => .pure _) h
  | claimAttemptForSubmission =>
      refine transaction_kept (hP.updateBoth _ _ _ _ _ ?_) h
      exact progresses_of_state "planned" (by decide) (fun _ => of_decide_eq_true) fun _ => rfl
  | markAttemptSubmitted =>
      refine transaction_kept (.bind (.bindText _) fun _ => hP.updateBoth _ _ _ _ _ ?_) h
      exact progresses_of_state "submitting" (by decide) (fun _ => of_decide_eq_true) fun _ => rfl
  | recordPoll =>
      refine guarded_kept (transaction_kept
        (.bind (.bindText _) fun _ => hP.updateBoth _ _ _ _ _ ?_) h) h
      exact progresses_of_state "submitted" (by decide) (fun _ => of_decide_eq_true) fun _ => rfl
  | completeProcessing =>
      simp only [Postgres.exec, completeProcessing]
      split
      · refine transaction_kept (hP.updateBoth _ _ _ _ _ ?_) h
        exact progresses_of_state "submitted" (by decide) (fun _ => of_decide_eq_true) fun _ => rfl
      · exact h
  | failProcessing k expected category detail attemptId =>
      have hfails : ∀ condition, Progresses d condition fun row => { row with
          state := "failed"
          updatedAt := now
          failedAt := some now
          errorCategory := some category
          errorDetail := some detail } := fun condition =>
        progresses_of_uncompleted "failed" (by decide) (fun _ => ⟨rfl, rfl⟩) fun _ => rfl
      refine guarded_kept (transaction_kept (.bind (.bindText _) fun _ => ?_) h) h
      cases attemptId with
      | none =>
          exact .bind (.pure _) fun _ => .ite (.bind (hP.updateProcessing _ _ _ (hfails _))
            fun _ => .ite (.throw _) (.pure _)) (.pure _)
      | some attemptId =>
          exact .bind (hP.updateAttempt ..) fun _ => .bind (.pure _) fun _ => .ite
            (.bind (hP.updateProcessing _ _ _ (hfails _)) fun _ => .ite (.throw _) (.pure _))
            (.pure _)
  | markRecoveryRequired =>
      refine guarded_kept (transaction_kept
        (.bind (.bindText _) fun _ => hP.updateBoth _ _ _ _ _ ?_) h) h
      exact progresses_of_uncompleted "recovery_required" (by decide) (fun _ => ⟨rfl, rfl⟩)
        fun _ => rfl
  | findReconcilable => exact guarded_kept (transaction_kept (.bind .getDb fun _ => .pure _) h) h

/-- The tables after any number of operations at any times. -/
inductive Later (d : Dialect) (db : Db) : Db → Prop
  | refl : Later d db db
  | step {db' : Db} (now : Int) (c : RepositoryCall) (h : Later d db db') :
      Later d db (exec d now c db').2

theorem Invariant.later {db' : Db} (hP : Invariant d P) (hlater : Later d db db') (h : P db) :
    P db' := by
  induction hlater with
  | refl => exact h
  | step now c _ ih => exact hP.exec c ih

end Postgres

end Alert2IR
