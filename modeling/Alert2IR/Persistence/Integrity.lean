import Alert2IR.Lifecycle.Keys
import Alert2IR.Persistence.Constraints
import Alert2IR.Persistence.Invariants
import Alert2IR.Persistence.Raising

/-!
# No step is refused by a constraint

What a transaction leaves behind has passed the constraints, so the entries of every state that can
be reached are valid. From a valid entry, an operation with valid values writes rows that pass them
again, and no unique key it introduces is in use.
-/

namespace Alert2IR

open Sql Schema

/-- Every entry of a store is valid. -/
def Store.Valid (d : Dialect) (s : Store) : Prop := ∀ k e, s k = some e → e.Valid d

namespace Postgres

variable {d : Dialect} {now : Int} {db db' : Db} {s : Store} {c : RepositoryCall}
  {α β : Type} {name : String}

/-! ### What is written has been checked -/

/-- Every row satisfies the constraints of its table. -/
structure Checked (d : Dialect) (db : Db) : Prop where
  processings : ∀ k row, db.processings.lookup k = some row →
    satisfied (processingConstraints d row) = true
  attempts : ∀ id row, db.attempts.lookup id = some row →
    satisfied (attemptConstraints d row) = true

theorem checked_of_valid (hs : s.Coherent) (hrep : Represents db s) (hvalid : s.Valid d) :
    Checked d db := by
  constructor
  · intro k row hlookup
    rw [hrep.processings, Option.map_eq_some_iff] at hlookup
    obtain ⟨e, he, rfl⟩ := hlookup
    exact processing_satisfied (hs.entry k e he) (hvalid k e he).processing
  · intro id row hlookup
    obtain ⟨k, e, a, he, ha, rfl, rfl⟩ := (hrep.attempts id row).mp hlookup
    obtain ⟨q, b, hexecutes, hserves⟩ := (hs.entry k e he).executing ha
    exact attempt_satisfied hserves ((hvalid k e he).attempt a ha)
      ((hvalid k e he).processing.backend b hexecutes.backend)

theorem Checked.putProcessing (hchecked : Checked d db) {row : ProcessingRow}
    (hrow : satisfied (processingConstraints d row) = true) :
    Checked d { db with processings := db.processings.insert row.id row } := by
  refine ⟨fun k row' hlookup => ?_, hchecked.attempts⟩
  rw [Table.lookup_insert] at hlookup
  split at hlookup
  · cases hlookup
    exact hrow
  · exact hchecked.processings k row' hlookup

theorem Checked.putAttempt (hchecked : Checked d db) {row : AttemptRow}
    (hrow : satisfied (attemptConstraints d row) = true) :
    Checked d { db with attempts := db.attempts.insert row.attemptId row } := by
  refine ⟨hchecked.processings, fun id row' hlookup => ?_⟩
  rw [Table.lookup_insert] at hlookup
  split at hlookup
  · cases hlookup
    exact hrow
  · exact hchecked.attempts id row' hlookup

/-- No statement leaves a row behind that violates a constraint. -/
theorem checked_invariant : Invariant d (Checked d) where
  updateProcessing k condition set _ := by
    constructor
    rintro db a db' hchecked hx
    rcases updateProcessing_eq_ok_iff.mp hx with ⟨-, rfl, -⟩ | ⟨row, -, -, hrow, -, rfl⟩
    · exact hchecked
    · exact hchecked.putProcessing hrow
  updateAttempt id condition set := by
    constructor
    rintro db a db' hchecked hx
    rcases updateAttempt_eq_ok_iff.mp hx with ⟨-, rfl, -⟩ | ⟨row, -, -, hrow, -, -, rfl⟩
    · exact hchecked
    · exact hchecked.putAttempt hrow
  insertAttempt row := by
    constructor
    rintro db a db' hchecked hx
    obtain ⟨-, hrow, -, rfl⟩ := insertAttempt_eq_ok hx
    exact hchecked.putAttempt hrow
  insertAccept row scope key := by
    constructor
    rintro db a db' hchecked hx
    rcases insertAccept_eq_ok hx with ⟨-, rfl, -⟩ | ⟨-, hrow, -, -, rfl⟩
    · exact hchecked
    · exact hchecked.putProcessing hrow

/-- **No operation leaves a row behind that violates a constraint.** -/
theorem exec_checked (hchecked : Checked d db) : Checked d (exec d now c db).2 :=
  checked_invariant.exec c hchecked

/-! ### Entries stay valid -/

theorem valid_of_moves {s' : Store} (hs : s.Coherent) (hvalid : s.Valid d)
    (hmoves : s.Moves now c s') (hrep : Represents db' s') (hchecked : Checked d db') :
    s'.Valid d := by
  have hrow : ∀ {k e}, s' k = some e → satisfied
    (processingConstraints d e.processing.row) = true :=
    fun he => hchecked.processings _ _ (hrep.lookup_some he)
  intro k e he
  cases hmoves with
  | @accept processingId alert scope key version digest hfresh hnew =>
      by_cases hk : k = processingId
      · subst hk
        have hsatisfied := hrow he
        rw [Function.update_self, Option.some.injEq] at he
        subst he
        exact Entry.accepted_valid (identity_of_satisfied rfl rfl rfl rfl hsatisfied)
      · rw [Function.update_of_ne hk] at he
        exact hvalid k e he
  | @advance _ k' e₀ e' hentry hadvance hfresh =>
      by_cases hk : k = k'
      · subst hk
        have hsatisfied := hrow he
        have hattempt : ∀ a, e.attempt = some a → satisfied (attemptConstraints d a.row) = true :=
          fun a ha => hchecked.attempts _ _ (hrep.attempt_lookup he ha)
        rw [Function.update_self, Option.some.injEq] at he
        subst he
        exact Entry.advance_valid (hs.entry k e₀ hentry) (hvalid k e₀ hentry)
          (valued_of_satisfied hadvance hsatisfied hattempt) hadvance
      · rw [Function.update_of_ne hk] at he
        exact hvalid k e he

theorem step_checked {r : Except PyError c.Result} (hchecked : Checked d db)
    (hstep : (repository d).step db c r db') : Checked d db' := by
  obtain ⟨now, hexec | ⟨-, -, rfl | rfl⟩⟩ := hstep
  · have hdb : (exec d now c db).2 = db' := congrArg Prod.snd hexec
    rw [← hdb]
    exact exec_checked hchecked
  · exact hchecked
  · exact exec_checked hchecked

/-- **The PostgreSQL repository is lawful, and holds only valid entries.** -/
def validRepository (d : Dialect) : LawfulRepository (repository d) where
  view := view
  Good db := (lawfulRepository d).Good db ∧ (view db).Valid d
  good_init := by
    refine ⟨(lawfulRepository d).good_init, fun k e he => ?_⟩
    have hnone : view (repository d).init = fun _ => none := (lawfulRepository d).view_init
    rw [hnone] at he
    cases he
  view_init := (lawfulRepository d).view_init
  coherent hgood := (lawfulRepository d).coherent hgood.1
  good_step := by
    rintro db c r db' ⟨hgood, hvalid⟩ hfits hstep
    have hgood' := (lawfulRepository d).good_step hgood hfits hstep
    refine ⟨hgood', ?_⟩
    have hs := (lawfulRepository d).coherent hgood
    obtain ⟨now, hlawful⟩ := (lawfulRepository d).lawful hgood hfits hstep
    rcases hlawful.changes with hsame | hmoves
    · have hsame : view db' = view db := hsame
      rwa [hsame]
    · exact valid_of_moves hs hvalid hmoves (represents_of_good hgood')
        (step_checked (checked_of_valid hs (represents_of_good hgood) hvalid) hstep)
  lawful hgood := (lawfulRepository d).lawful hgood.1

/-! ### Statements that no constraint refuses -/

/-- A computation that no constraint has made fail. -/
def Unrefused (x : Except PyError α) : Prop := ∀ name, x ≠ .error (.integrityError name)

theorem Unrefused.ok (a : α) : Unrefused (.ok a) := nofun

theorem unrefused_of_value {x : Except PyError α}
    (h : ∀ e, x = .error e → ∃ message, e = .valueError message) : Unrefused x := by
  intro name hx
  obtain ⟨message, hmessage⟩ := h _ hx
  cases hmessage

theorem unrefused_seq {x y : Except PyError Unit} (hx : Unrefused x) (hy : Unrefused y) :
    Unrefused (x >>= fun _ => y) := by
  cases x with
  | error e => exact fun name h => hx name (congrArg Except.error (Except.error.inj h))
  | ok u => exact hy

theorem unrefused_decodeProcessing {e : Entry} (h : e.Coherent) :
    Unrefused (decodeProcessing (some e.processing.row)) := by
  refine unrefused_of_value fun error herror => ?_
  simp only [decodeProcessing, Functor.map, Except.map] at herror
  cases hrow : deserializeProcessing e.processing.row with
  | error e' =>
      rw [hrow] at herror
      cases herror
      exact deserializeProcessing_error h hrow
  | ok x => simp [hrow] at herror

theorem unrefused_decodeAttempt {a : AttemptFields} (h : a.durable = a) :
    Unrefused (decodeAttempt (some a.row)) := by
  refine unrefused_of_value fun error herror => ?_
  simp only [decodeAttempt, Functor.map, Except.map] at herror
  cases hrow : deserializeAttempt a.row with
  | error e' =>
      rw [hrow] at herror
      cases herror
      exact deserializeAttempt_error h hrow
  | ok x => simp [hrow] at herror

theorem unrefused_decodePlan {e : Entry} {a : AttemptFields} (h : e.Coherent) (ha : a.durable = a) :
    Unrefused (decodePlan (some (e.processing.row, a.row))) := by
  refine unrefused_of_value fun error herror => ?_
  simp only [decodePlan, bind, Except.bind] at herror
  cases hrow : deserializeProcessing e.processing.row with
  | error e' =>
      rw [hrow] at herror
      cases herror
      exact deserializeProcessing_error h hrow
  | ok x =>
      rw [hrow] at herror
      cases hattempt : deserializeAttempt a.row with
      | error e' =>
          rw [hattempt] at herror
          cases herror
          exact deserializeAttempt_error ha hattempt
      | ok y => simp [hattempt, pure, Except.pure] at herror

theorem transaction_unrefused {body : Tx α} {after : α → Except PyError β}
    (hbody : ∀ name, body db ≠ .error (.integrityError name))
    (hafter : ∀ a db', body db = .ok (a, db') → Unrefused (after a)) :
    Unrefused (transaction body after db).1 := by
  intro name h
  rcases transaction_error h with h | ⟨a, db', hok, h⟩
  · exact hbody name h
  · exact hafter a db' hok name h

theorem guarded_unrefused {check : Except PyError Unit} {rest : Except PyError α × Db}
    (hcheck : Unrefused check) (hrest : Unrefused rest.1) :
    Unrefused (guarded check db rest).1 := by
  intro name h
  rcases guarded_error h with h | h
  · exact hcheck name h
  · exact hrest name h

theorem bindText_ne_integrityError {values : List String} :
    bindText values db ≠ .error (.integrityError name) := by
  unfold bindText
  split <;> simp

/-- The binding of parameters is no constraint. -/
theorem bindText_unrefused {text : List String} {body : Tx α} {after : α → Except PyError β}
    (h : Unrefused (transaction body after db).1) :
    Unrefused (transaction (bindText text >>= fun _ => body) after db).1 := by
  unfold transaction at h ⊢
  cases htext : text.all nulFree with
  | true =>
      have hbound : (bindText text >>= fun _ => body) db = body db := by
        simp only [bind, StateT.bind, bindText_of_nulFree htext, Except.bind]
      rwa [hbound]
  | false =>
      have hraised : (bindText text >>= fun _ => body) db
          = .error (.dataError "PostgreSQL text fields cannot contain NUL (0x00) bytes") := by
        simp [bindText, htext, bind, StateT.bind, throw, throwThe, MonadExceptOf.throw,
          StateT.lift, Except.bind]
      rw [hraised]
      intro name hname
      cases hname

theorem checkConstraints_unrefused {constraints : List (String × Truth)}
    (h : satisfied constraints = true) :
    checkConstraints constraints db ≠ .error (.integrityError name) := by
  rw [(checkConstraints_eq_ok_iff (u := ())).mpr ⟨h, rfl⟩]
  nofun

theorem updateProcessing_unrefused {k : UUID} {condition : ProcessingRow → Bool}
    {set : ProcessingRow → ProcessingRow}
    (h : ∀ row, db.processings.lookup k = some row → condition row = true →
      satisfied (processingConstraints d (set row)) = true) :
    updateProcessing d k condition set db ≠ .error (.integrityError name) := by
  intro hraised
  unfold updateProcessing at hraised
  rw [getDb_bind] at hraised
  cases hlookup : db.processings.lookup k with
  | none => simp [hlookup] at hraised
  | some row =>
      cases hcondition : condition row with
      | false => simp [hlookup, hcondition] at hraised
      | true =>
          simp only [hlookup, hcondition, if_true, bind_eq_error_iff, putProcessing_ne_error,
            pure_eq_error_iff, and_false, exists_false, or_false] at hraised
          exact checkConstraints_unrefused (h row hlookup hcondition) hraised

theorem checkActive_unrefused {row : AttemptRow} (h : OnlyActive db row) :
    checkActive row db ≠ .error (.integrityError name) := by
  rw [(checkActive_eq_ok_iff (u := ())).mpr ⟨h, rfl⟩]
  nofun

theorem updateAttempt_unrefused {id : UUID} {condition : AttemptRow → Bool}
    {set : AttemptRow → AttemptRow}
    (h : ∀ row, db.attempts.lookup id = some row → condition row = true →
      satisfied (attemptConstraints d (set row)) = true ∧ OnlyActive db (set row)) :
    updateAttempt d id condition set db ≠ .error (.integrityError name) := by
  intro hraised
  unfold updateAttempt at hraised
  rw [getDb_bind] at hraised
  cases hlookup : db.attempts.lookup id with
  | none => simp [hlookup] at hraised
  | some row =>
      cases hcondition : condition row with
      | false => simp [hlookup, hcondition] at hraised
      | true =>
          obtain ⟨hrow, honly⟩ := h row hlookup hcondition
          simp only [hlookup, hcondition, if_true, bind_eq_error_iff, putAttempt_ne_error,
            pure_eq_error_iff, and_false, exists_false, or_false, checkConstraints_eq_ok_iff]
            at hraised
          rcases hraised with hraised | ⟨_, _, ⟨-, rfl⟩, hraised⟩
          · exact checkConstraints_unrefused hrow hraised
          · exact checkActive_unrefused honly hraised

/-- A processing has no attempt but its own. -/
theorem onlyActive_of_coherent (hs : s.Coherent) (hrep : Represents db s) {k : UUID} {e : Entry}
    {a : AttemptFields} (he : s k = some e) (ha : e.attempt = some a) {row : AttemptRow}
    (hid : row.attemptId = a.attemptId) (hprocessing : row.processingId = k) :
    OnlyActive db row := by
  intro _ other hother hne hsame
  obtain ⟨k', e', a', he', ha', rfl⟩ := hrep.mem_attempts.mp hother
  have hk : k' = k := by
    rw [← attempt_processingId hs he' ha', ← hprocessing, ← hsame, AttemptFields.row_processingId]
  subst hk
  obtain rfl := Option.some.inj (he.symm.trans he')
  obtain rfl := Option.some.inj (ha.symm.trans ha')
  exact absurd hid.symm hne

/-- The rows of a valid entry that an operation has moved. -/
theorem satisfied_of_moved {e' : Entry} (hcoherent : e'.Coherent) (hvalid : e'.Valid d) :
    satisfied (processingConstraints d e'.processing.row) = true ∧
      ∀ a, e'.attempt = some a → satisfied (attemptConstraints d a.row) = true := by
  refine ⟨processing_satisfied hcoherent hvalid.processing, fun a ha => ?_⟩
  obtain ⟨q, b, hexecutes, hserves⟩ := hcoherent.executing ha
  exact attempt_satisfied hserves (hvalid.attempt a ha)
    (hvalid.processing.backend b hexecutes.backend)

/-- An update of both rows that moves a valid entry to a valid one. -/
theorem updateBoth_unrefused (hs : s.Coherent) (hrep : Represents db s) {attemptId : UUID}
    {condition : AttemptRow → Bool} {set : AttemptRow → AttemptRow}
    {processingCondition : ProcessingRow → Bool} {processingSet : ProcessingRow → ProcessingRow}
    {diverged : String} {expected : List ExecutionAttemptState}
    {attemptMove : AttemptFields → AttemptFields}
      {processingMove : ProcessingFields → ProcessingFields}
    {text : List String}
    (hcondition : ∀ a : AttemptFields, condition a.row = true ↔ a.state ∈ expected)
    (hset : ∀ a : AttemptFields, set a.row = (attemptMove a).row ∧
      (attemptMove a).attemptId = a.attemptId ∧ (attemptMove a).processingId = a.processingId)
    (hprocessingSet : ∀ k e a, s k = some e → e.attempt = some a → a.attemptId = attemptId →
      processingSet e.processing.row = (processingMove e.processing).row ∧
        (processingMove e.processing).processingId = e.processing.processingId)
    (hmoved : ∀ k e e', s k = some e →
      e.move attemptId expected attemptMove processingMove = some e' → e'.Coherent ∧ e'.Valid d) :
    updateBoth d attemptId condition set processingCondition processingSet diverged text db
      ≠ .error (.integrityError name) := by
  intro hraised
  unfold updateBoth at hraised
  have hentry : ∀ row, db.attempts.lookup attemptId = some row → condition row = true →
      ∃ k e a, s k = some e ∧ e.attempt = some a ∧ a.attemptId = attemptId ∧ row = a.row ∧
        satisfied (processingConstraints d (processingMove e.processing).row) = true ∧
        satisfied (attemptConstraints d (attemptMove a).row) = true := by
    intro row hlookup hrow
    obtain ⟨k, e, a, he, ha, hid, rfl⟩ := (hrep.attempts _ _).mp hlookup
    obtain ⟨hcoherent, hvalid⟩ := hmoved k e _ he
      (Entry.move_eq_some_iff.mpr ⟨a, ha, hid, (hcondition a).mp hrow, rfl⟩)
    obtain ⟨hprocessing, hattempt⟩ := satisfied_of_moved hcoherent hvalid
    exact ⟨k, e, a, he, ha, hid, rfl, hprocessing, hattempt _ rfl⟩
  rw [bind_eq_error_iff] at hraised
  rcases hraised with hraised | ⟨attempt, db₁, hattempt, hraised⟩
  · refine updateAttempt_unrefused (fun row hlookup hrow => ?_) hraised
    obtain ⟨k, e, a, he, ha, rfl, rfl, -, hsatisfied⟩ := hentry row hlookup hrow
    rw [(hset a).1]
    refine ⟨hsatisfied, onlyActive_of_coherent hs hrep he ha (hset a).2.1 ?_⟩
    rw [AttemptFields.row_processingId, (hset a).2.2, attempt_processingId hs he ha]
  rcases updateAttempt_eq_ok_iff.mp hattempt with ⟨rfl, -, -⟩ | ⟨row, hlookup, hrow, -, -, rfl, rfl⟩
  · simp at hraised
  obtain ⟨k, e, a, he, ha, hid, rfl, hsatisfied, -⟩ := hentry row hlookup hrow
  have hk : (set a.row).processingId = k := by
    rw [(hset a).1, AttemptFields.row_processingId, (hset a).2.2, attempt_processingId hs he ha]
  simp only [bind_eq_error_iff, bindText_eq_ok_iff] at hraised
  rcases hraised with hraised | ⟨_, _, ⟨-, rfl⟩, hraised | ⟨processing, db₂, -, hraised⟩⟩
  · exact bindText_ne_integrityError hraised
  · refine updateProcessing_unrefused (fun row' hlookup' _ => ?_) hraised
    rw [hk, hrep.lookup_some he, Option.some.injEq] at hlookup'
    subst hlookup'
    rw [(hprocessingSet k e a he ha hid).1]
    exact hsatisfied
  · cases processing <;> simp at hraised

/-- A new attempt whose keys are not in use. -/
theorem insertAttempt_unrefused {row : AttemptRow}
    (hrow : satisfied (attemptConstraints d row) = true)
    (hid : db.attempts.lookup row.attemptId = none)
    (hother : ∀ other ∈ db.attempts.rows,
      other.operationKey ≠ row.operationKey ∧ other.processingId ≠ row.processingId)
    (hprocessing : (db.processings.lookup row.processingId).isSome = true) :
    insertAttempt d row db ≠ .error (.integrityError name) := by
  have hkey : (db.attempts.rows.any fun other => other.operationKey = row.operationKey) =
    false := by
    simpa using fun other hmem => (hother other hmem).1
  have hnumber : (db.attempts.rows.any fun other =>
      other.processingId = row.processingId && other.attemptNumber = row.attemptNumber)
      = false := by
    simpa using fun other hmem hsame => absurd hsame (hother other hmem).2
  have honly : OnlyActive db row := fun _ other hmem _ hsame => absurd hsame (hother other hmem).2
  intro hraised
  unfold insertAttempt at hraised
  rw [bind_eq_error_iff] at hraised
  simp only [checkConstraints_eq_ok_iff] at hraised
  rcases hraised with hraised | ⟨_, _, ⟨-, rfl⟩, hraised⟩
  · exact checkConstraints_unrefused hrow hraised
  rw [getDb_bind] at hraised
  simp only [hid, hkey, hnumber, Option.isSome_none, Bool.false_eq_true, if_false,
    bind_eq_error_iff, checkActive_eq_ok_iff] at hraised
  rcases hraised with hraised | ⟨_, _, ⟨-, rfl⟩, hraised⟩
  · exact checkActive_unrefused honly hraised
  · obtain ⟨p, hp⟩ := Option.isSome_iff_exists.mp hprocessing
    simp [hp] at hraised

/-- An acceptance under a processing ID that is not in use. -/
theorem insertAccept_unrefused {row : ProcessingRow} {scope key : String}
    (hrow : satisfied (processingConstraints d row) = true)
    (hid : db.processings.lookup row.id = none) :
    insertAccept d row scope key db ≠ .error (.integrityError name) := by
  intro hraised
  unfold insertAccept at hraised
  rw [bind_eq_error_iff] at hraised
  simp only [checkConstraints_eq_ok_iff] at hraised
  rcases hraised with hraised | ⟨_, _, ⟨-, rfl⟩, hraised⟩
  · exact checkConstraints_unrefused hrow hraised
  rw [getDb_bind] at hraised
  split at hraised
  · simp at hraised
  · simp [hid] at hraised

/-! ### Operations that no constraint refuses -/

theorem advance_kept (hs : s.Coherent) (hvalid : s.Valid d) (hfits : s.Fits c)
    (hvalued : c.Valued d) {k : UUID} {e e' : Entry}
    (he : s k = some e) (h : e.advance now c = some e') : e'.Coherent ∧ e'.Valid d :=
  ⟨Entry.advance_coherent (hs.entry k e he) (hfits k e he (Entry.concerns_of_advance h)) h,
    Entry.advance_valid (hs.entry k e he) (hvalid k e he) hvalued h⟩

/-- An operation that is the move of an entry, and decodes a row it has written. -/
theorem move_unrefused (hs : s.Coherent) (hrep : Represents db s) (hvalid : s.Valid d)
    (hfits : s.Fits c) (hvalued : c.Valued d) {attemptId : UUID}
    {condition : AttemptRow → Bool} {set : AttemptRow → AttemptRow}
    {processingCondition : ProcessingRow → Bool} {processingSet : ProcessingRow → ProcessingRow}
    {diverged : String} {expected : List ExecutionAttemptState}
    {attemptMove : AttemptFields → AttemptFields}
      {processingMove : ProcessingFields → ProcessingFields}
    {text : List String} {after : Option (AttemptRow × ProcessingRow) → Except PyError β}
    (hadvance : ∀ e : Entry, e.advance now c = e.move attemptId expected attemptMove processingMove)
    (hcondition : ∀ a : AttemptFields, condition a.row = true ↔ a.state ∈ expected)
    (hset : ∀ a : AttemptFields, set a.row = (attemptMove a).row ∧
      (attemptMove a).attemptId = a.attemptId ∧ (attemptMove a).processingId = a.processingId)
    (hprocessingSet : ∀ k e a, s k = some e → e.attempt = some a → a.attemptId = attemptId →
      processingSet e.processing.row = (processingMove e.processing).row ∧
        (processingMove e.processing).processingId = e.processing.processingId)
    (hnone : Unrefused (after none))
    (hsome : ∀ (e : Entry) (a : AttemptFields), e.Coherent → a.durable = a →
      Unrefused (after (some (a.row, e.processing.row)))) :
    Unrefused (transaction (updateBoth d attemptId condition set processingCondition processingSet
      diverged text) after db).1 := by
  have hmoved : ∀ k e e', s k = some e →
      e.move attemptId expected attemptMove processingMove = some e' → e'.Coherent ∧ e'.Valid d :=
    fun k e e' he hmove => advance_kept hs hvalid hfits hvalued he ((hadvance e).trans hmove)
  refine transaction_unrefused (fun name =>
    updateBoth_unrefused hs hrep hcondition hset hprocessingSet hmoved) fun updated db' hbody => ?_
  rcases updateBoth_spec hs hrep hcondition hset hprocessingSet hbody with
    ⟨rfl, -, -⟩ | ⟨k, e, e', a', he, hmove, ha', rfl, -⟩
  · exact hnone
  · obtain ⟨hcoherent, -⟩ := hmoved k e e' he hmove
    exact hsome e' a' hcoherent (by simpa [ha'] using hcoherent.attemptDurable)

theorem claimAttemptForSubmission_unrefused (hs : s.Coherent) (hrep : Represents db s)
    (hvalid : s.Valid d)
    {attemptId : UUID} :
    Unrefused (claimAttemptForSubmission d attemptId now db).1 :=
  move_unrefused (c := .claimAttemptForSubmission attemptId) hs hrep hvalid
    (fun _ _ _ _ => trivial) trivial (fun e => (rfl : e.advance now _ = _))
      (state_eq_iff · .planned)
    (fun a => ⟨attempt_claim_row a now, rfl, rfl⟩)
    (fun _ e _ _ _ _ => ⟨claim_row e.processing now, rfl⟩) (.ok _)
    fun _ _ _ hdurable => unrefused_decodeAttempt hdurable

theorem markAttemptSubmitted_unrefused (hs : s.Coherent) (hrep : Represents db s)
    (hvalid : s.Valid d)
    {attemptId : UUID} {externalOperationId : String}
    (hvalued : (RepositoryCall.markAttemptSubmitted attemptId externalOperationId).Valued d) :
    Unrefused (markAttemptSubmitted d attemptId externalOperationId now db).1 :=
  bindText_unrefused <| move_unrefused (c := .markAttemptSubmitted attemptId externalOperationId)
    hs hrep hvalid (fun _ _ _ _ => trivial) hvalued (fun e => (rfl : e.advance now _ = _))
    (state_eq_iff · .submitting)
    (fun a => ⟨attempt_markSubmitted_row a now _, rfl, rfl⟩)
    (fun _ e _ _ _ _ => ⟨markSubmitted_row e.processing now, rfl⟩) (.ok _)
    fun _ _ _ hdurable => unrefused_decodeAttempt hdurable

theorem recordPoll_unrefused (hs : s.Coherent) (hrep : Represents db s) (hvalid : s.Valid d)
    {attemptId : UUID} {remoteState : String}
    {category detail : Option String}
    (hvalued : (RepositoryCall.recordPoll attemptId remoteState category detail).Valued d) :
    Unrefused (recordPoll d attemptId remoteState category detail now db).1 := by
  refine guarded_unrefused (unrefused_of_value fun e h => ?_) <| bindText_unrefused <|
    move_unrefused (c := .recordPoll attemptId remoteState category detail) hs hrep hvalid
      (fun _ _ _ _ => trivial) hvalued (fun e => (rfl : e.advance now _ = _))
      (state_eq_iff · .submitted) (fun a => ⟨attempt_recordPoll_row a now _ _ _, rfl, rfl⟩)
      (fun _ e _ _ _ _ => ⟨recordPoll_row e.processing now _ _, rfl⟩) (.ok _)
      fun _ _ _ hdurable => unrefused_decodeAttempt hdurable
  unfold validatePollError at h
  split at h
  · cases h
  · exact checks_error h
  · cases h
    exact ⟨_, rfl⟩

theorem markRecoveryRequired_unrefused (hs : s.Coherent) (hrep : Represents db s)
    (hvalid : s.Valid d)
    {attemptId : UUID} {expected : List ExecutionAttemptState}
    {category detail : String}
    (hfits : s.Fits (.markRecoveryRequired attemptId expected category detail))
    (hvalued : (RepositoryCall.markRecoveryRequired attemptId expected category detail).Valued d) :
    Unrefused (markRecoveryRequired d attemptId expected category detail now db).1 := by
  refine guarded_unrefused ?_ <| bindText_unrefused <|
    move_unrefused hs hrep hvalid hfits hvalued (fun e => (rfl : e.advance now _ = _))
      (fun a => ?_)
      (fun a => ⟨attempt_markRecoveryRequired_row a _ _, rfl, rfl⟩)
      (fun _ e _ _ _ _ => ⟨markRecoveryRequired_row e.processing now _ _, rfl⟩) (.ok _)
      fun _ _ hcoherent _ => unrefused_decodeProcessing hcoherent
  · exact unrefused_seq (unrefused_of_value fun _ => checks_error)
      (unrefused_of_value fun _ => checks_error)
  · rw [List.contains_iff_mem, AttemptFields.row_state,
      List.mem_map_of_injective ExecutionAttemptState.value_injective]

theorem completeProcessing_unrefused (hs : s.Coherent) (hrep : Represents db s) (hvalid : s.Valid d)
    {attemptId : UUID} {result : OrchestrationResult}
    (hfits : s.Fits (.completeProcessing attemptId result)) :
    Unrefused (completeProcessing d attemptId result now db).1 := by
  unfold completeProcessing
  split
  · next x houtcome hresult =>
    refine move_unrefused hs hrep hvalid hfits trivial (fun e => (rfl : e.advance now _ = _))
      (state_eq_iff · .submitted) (fun a => ⟨attempt_complete_row a now, rfl, rfl⟩)
      (fun k e a he ha hid => ?_) (.ok _) fun e _ hcoherent _ =>
        unrefused_of_value fun error h => ?_
    · obtain ⟨hdecision, hincident, hrequest⟩ := hfits k e he (by
        simp [RepositoryCall.Concerns, ha, hid])
      exact ⟨complete_row hresult hdecision hrequest, rfl⟩
    · simp only [bind, Except.bind] at h
      cases hrow : deserializeProcessing e.processing.row with
      | error e' =>
          rw [hrow] at h
          cases h
          exact deserializeProcessing_error hcoherent hrow
      | ok y =>
          simp only [hrow] at h
          split at h
          · cases h
            exact ⟨_, rfl⟩
          · cases h
  · intro name hname
    cases hname

theorem storeNoActionResult_unrefused (hs : s.Coherent) (hrep : Represents db s)
    (hvalid : s.Valid d)
    {processingId : UUID} {result : OrchestrationResult}
    (hfits : s.Fits (.storeNoActionResult processingId result)) :
    Unrefused (storeNoActionResult d processingId result now db).1 := by
  have hset : ∀ e, s processingId = some e → decide (e.processing.row.state = "accepted") = true →
      decisionValues result.decision { e.processing.row with
        state := "completed", updatedAt := now, completedAt := some now }
        = (e.processing.storeNoActionResult now result).row := fun e he hstate =>
    storeNoActionResult_row (hfits _ e he (hs.id _ _ he)).1
      ((hs.entry _ _ he).phase.of_accepted ((state_accepted_iff _).mp hstate)).1
  have hmoved : ∀ e, s processingId = some e → decide (e.processing.row.state = "accepted") = true →
      Entry.Coherent { e with processing := e.processing.storeNoActionResult now result } ∧
        Entry.Valid d { e with processing := e.processing.storeNoActionResult now result } := by
    intro e he hstate
    have hadvance : e.advance now (.storeNoActionResult processingId result) = _ :=
      if_pos ⟨hs.id _ _ he, (state_accepted_iff _).mp hstate⟩
    exact advance_kept hs hvalid hfits trivial he hadvance
  refine guarded_unrefused (unrefused_of_value fun _ => checks_error) <| bindText_unrefused <|
    transaction_unrefused (fun name => updateProcessing_unrefused fun row hlookup hrow => ?_)
      fun updated db' hbody => ?_
  · rw [hrep.processings, Option.map_eq_some_iff] at hlookup
    obtain ⟨e, he, rfl⟩ := hlookup
    rw [hset e he hrow]
    exact (satisfied_of_moved (hmoved e he hrow).1 (hmoved e he hrow).2).1
  · rcases updateProcessing_spec hrep (hs.id _) (fun e he hstate => ⟨hset e he hstate, rfl⟩) hbody
      with ⟨rfl, -, -⟩ | ⟨e, he, hstate, rfl, -⟩
    · exact .ok _
    · obtain ⟨hcoherent, -⟩ := hmoved e he hstate
      exact unrefused_decodeProcessing hcoherent

/-- An attempt that has not ended may fail, whatever becomes of its processing. -/
theorem fail_satisfied {a : AttemptFields} {p : ProcessingFields} {b category detail : String}
    (hserves : a.Serves p b) (hactive : a.state ∈ ExecutionAttemptState.active)
    (hvalid : a.Valid d) (hbackend : notBlank d b = true) (hcategory : Bounded d 256 category)
    (hdetail : Bounded d 256 detail) :
    satisfied (attemptConstraints d (a.fail now category detail).row) = true := by
  have hcompletedAt : a.completedAt.isSome = false := by
    rw [hserves.completedAt]
    exact decide_eq_false fun h => by simp [ExecutionAttemptState.active, h] at hactive
  have hfailed : (a.fail now category detail).Serves (p.fail now category detail) b := {
    processing := hserves.processing
    number := hserves.number
    backend := hserves.backend
    state := rfl
    submitted := hserves.submitted
    unsubmitted := by simp [AttemptFields.fail]
    identified := by simp [AttemptFields.fail]
    unstarted := by simp [AttemptFields.fail]
    started := by simp [AttemptFields.fail]
    completedAt := hcompletedAt
    failedAt := rfl }
  exact attempt_satisfied hfailed
    ⟨hvalid.external, hvalid.remoteState, .some hcategory hdetail, fun _ => rfl⟩ hbackend

theorem failProcessing_unrefused (hs : s.Coherent) (hrep : Represents db s) (hvalid : s.Valid d)
    {processingId : UUID} {expected : List ProcessingState} {category detail : String}
    {attemptId : Option UUID}
    (hfits : s.Fits (.failProcessing processingId expected category detail attemptId))
    (hvalued : (RepositoryCall.failProcessing processingId expected category detail
      attemptId).Valued d) :
    Unrefused (failProcessing d processingId expected category detail attemptId now db).1 := by
  have hcondition : ∀ p : ProcessingFields,
      (expected.map ProcessingState.value).contains p.row.state = true ↔ p.state ∈ expected := by
    intro p
    rw [List.contains_iff_mem, ProcessingFields.row_state,
      List.mem_map_of_injective ProcessingState.value_injective]
  refine guarded_unrefused (unrefused_seq (unrefused_of_value fun _ => checks_error)
    (unrefused_of_value fun _ => checks_error)) <| bindText_unrefused ?_
  cases attemptId with
  | none =>
      have hmoved : ∀ e, s processingId = some e → e.processing.state ∈ expected →
          Entry.Coherent { e with processing := e.processing.fail now category detail } ∧
            Entry.Valid d { e with processing := e.processing.fail now category detail } := by
        intro e he hstate
        have hadvance : e.advance now
            (.failProcessing processingId expected category detail none) = _ :=
          if_pos ⟨hs.id _ _ he, hstate⟩
        exact advance_kept hs hvalid hfits hvalued he hadvance
      refine transaction_unrefused (fun name hraised => ?_) fun updated db' hbody => ?_
      · simp only [pure_bind, if_true] at hraised
        rw [bind_eq_error_iff] at hraised
        rcases hraised with hraised | ⟨updated, db₁, -, hraised⟩
        · refine updateProcessing_unrefused (fun row hlookup hrow => ?_) hraised
          rw [hrep.processings, Option.map_eq_some_iff] at hlookup
          obtain ⟨e, he, rfl⟩ := hlookup
          obtain ⟨hcoherent, hfailed⟩ := hmoved e he ((hcondition _).mp hrow)
          rw [fail_row]
          exact (satisfied_of_moved hcoherent hfailed).1
        · simp at hraised
      · simp only [pure_bind, if_true, bind_eq_ok_iff] at hbody
        obtain ⟨row, db₁, hupdate, hrest⟩ := hbody
        simp only [Option.isSome_none, Bool.and_false, Bool.false_eq_true, if_false,
          pure_eq_ok_iff] at hrest
        obtain ⟨rfl, rfl⟩ := hrest
        rcases updateProcessing_spec hrep (hs.id _)
            (fun e _ _ => ⟨fail_row e.processing now _ _, rfl⟩) hupdate with
          ⟨rfl, -, -⟩ | ⟨e, he, hstate, rfl, -⟩
        · exact .ok _
        · obtain ⟨hcoherent, -⟩ := hmoved e he ((hcondition _).mp hstate)
          have hdecode := unrefused_decodeProcessing hcoherent
          exact hdecode
  | some attemptId =>
      have hactive : ∀ a : AttemptFields,
          Schema.activeAttemptStates.contains a.row.state = true ↔
            a.state ∈ ExecutionAttemptState.active := by
        intro a
        rw [AttemptFields.row_state]
        cases a.state <;> decide
      have hmoved : ∀ e a, s processingId = some e → e.attempt = some a → a.attemptId = attemptId →
          a.state ∈ ExecutionAttemptState.active → e.processing.state ∈ expected →
          Entry.Coherent ⟨e.processing.fail now category detail,
            some (a.fail now category detail)⟩ ∧
            Entry.Valid d
              ⟨e.processing.fail now category detail, some (a.fail now category detail)⟩ := by
        intro e a he ha hid hstate hexpected
        have hmove : e.move attemptId ExecutionAttemptState.active (.fail now category detail)
            (.fail now category detail) = some ⟨e.processing.fail now category detail,
              some (a.fail now category detail)⟩ :=
          Entry.move_eq_some_iff.mpr ⟨a, ha, hid, hstate, rfl⟩
        have hadvance : e.advance now
            (.failProcessing processingId expected category detail (some attemptId)) = _ :=
          (if_pos ⟨hs.id _ _ he, hexpected⟩).trans hmove
        exact advance_kept hs hvalid hfits hvalued he hadvance
      refine transaction_unrefused (fun name hraised => ?_) fun updated db' hbody => ?_
      · rw [bind_eq_error_iff] at hraised
        rcases hraised with hraised | ⟨attempt, db₁, hattempt, hraised⟩
        · refine updateAttempt_unrefused (fun row hlookup hrow => ?_) hraised
          obtain ⟨k, e, a, he, ha, -, rfl⟩ := (hrep.attempts _ _).mp hlookup
          obtain ⟨q, b, hexecutes, hserves⟩ := (hs.entry _ _ he).executing ha
          rw [Bool.and_eq_true, hactive] at hrow
          rw [attempt_fail_row]
          refine ⟨fail_satisfied hserves hrow.2 ((hvalid k e he).attempt a ha)
            ((hvalid k e he).processing.backend b hexecutes.backend) hvalued.1 hvalued.2, ?_⟩
          have hprocessing := attempt_processingId hs he ha
          exact onlyActive_of_coherent (k := k) (e := e) (a := a) hs hrep he ha rfl hprocessing
        · rcases updateAttempt_eq_ok_iff.mp hattempt with
            ⟨rfl, -, -⟩ | ⟨row, hlookup, hrow, -, -, rfl, rfl⟩
          · simp at hraised
          obtain ⟨k, e, a, he, ha, hid, rfl⟩ := (hrep.attempts _ _).mp hlookup
          rw [Bool.and_eq_true, hactive, decide_eq_true_eq, AttemptFields.row_processingId,
            attempt_processingId hs he ha] at hrow
          obtain ⟨rfl, hstate⟩ := hrow
          simp only [Option.isSome_some, pure_bind, if_true] at hraised
          rw [bind_eq_error_iff] at hraised
          rcases hraised with hraised | ⟨updated, db₂, -, hraised⟩
          · refine updateProcessing_unrefused (fun row hlookup' hrow => ?_) hraised
            rw [hrep.lookup_some he, Option.some.injEq] at hlookup'
            subst hlookup'
            obtain ⟨hcoherent, hfailed⟩ := hmoved e a he ha hid hstate ((hcondition _).mp hrow)
            rw [fail_row]
            exact (satisfied_of_moved hcoherent hfailed).1
          · split at hraised <;> simp at hraised
      · simp only [bind_eq_ok_iff, pure_eq_ok_iff] at hbody
        obtain ⟨attempt, db₁, hattempt, _, _, ⟨rfl, rfl⟩, hrest⟩ := hbody
        rcases updateAttempt_eq_ok_iff.mp hattempt with
          ⟨rfl, -, -⟩ | ⟨row, hlookup, hrow, -, -, rfl, rfl⟩
        · simp only [Option.isSome_none, Bool.false_eq_true, if_false, pure_eq_ok_iff] at hrest
          obtain ⟨rfl, -⟩ := hrest
          exact .ok _
        obtain ⟨k, e, a, he, ha, hid, rfl⟩ := (hrep.attempts _ _).mp hlookup
        rw [Bool.and_eq_true, hactive, decide_eq_true_eq, AttemptFields.row_processingId,
          attempt_processingId hs he ha] at hrow
        obtain ⟨rfl, hstate⟩ := hrow
        simp only [Option.isSome_some, if_true, bind_eq_ok_iff] at hrest
        obtain ⟨row, db₂, hupdate, hrest⟩ := hrest
        rcases updateProcessing_eq_ok_iff.mp hupdate with
          ⟨rfl, -, -⟩ | ⟨row', hlookup', hrow', -, rfl, -⟩
        · simp at hrest
        simp only [Option.isNone_some, Bool.false_and, Bool.false_eq_true, if_false,
          pure_eq_ok_iff] at hrest
        obtain ⟨rfl, -⟩ := hrest
        rw [hrep.lookup_some he, Option.some.injEq] at hlookup'
        subst hlookup'
        obtain ⟨hcoherent, -⟩ := hmoved e a he ha hid hstate ((hcondition _).mp hrow')
        have hdecode := unrefused_decodeProcessing hcoherent
        rw [fail_row]
        exact hdecode

theorem storePlan_unrefused (hs : s.Coherent) (hrep : Represents db s) (hvalid : s.Valid d)
    {processingId : UUID} {decision : Decision} {incident : Incident}
    {request : InvestigationRequest} {backend : String} {attemptId operationKey : UUID}
    (hfits : s.Fits
      (.storePlan processingId decision incident request backend attemptId operationKey))
    (hbackend : notBlank d backend = true)
    (hunused : s.Unused
      (.storePlan processingId decision incident request backend attemptId operationKey)) :
    Unrefused (storePlan d processingId decision incident request backend attemptId operationKey
      now db).1 := by
  have hset : ∀ e, s processingId = some e → decide (e.processing.row.state = "accepted") = true →
      decisionValues decision (requestValues request { e.processing.row with
        state := "planned", updatedAt := now, selectedBackend := some backend })
        = (e.processing.storePlan now decision incident request backend).row := fun e he hstate =>
    storePlan_row ((hs.entry _ _ he).phase.of_accepted ((state_accepted_iff _).mp hstate)).1
  have hmoved : ∀ e, s processingId = some e → decide (e.processing.row.state = "accepted") = true →
      Entry.Coherent ⟨e.processing.storePlan now decision incident request backend,
          some (Entry.plannedAttempt now processingId attemptId operationKey backend)⟩ ∧
        Entry.Valid d ⟨e.processing.storePlan now decision incident request backend,
          some (Entry.plannedAttempt now processingId attemptId operationKey backend)⟩ := by
    intro e he hstate
    have hadvance : e.advance now
        (.storePlan processingId decision incident request backend attemptId operationKey) = _ :=
      if_pos ⟨hs.id _ _ he, (state_accepted_iff _).mp hstate⟩
    exact advance_kept hs hvalid hfits hbackend he hadvance
  refine guarded_unrefused (unrefused_of_value fun _ => checks_error) <| bindText_unrefused <|
    transaction_unrefused (fun name hraised => ?_) fun updated db' hbody => ?_
  · rw [bind_eq_error_iff] at hraised
    rcases hraised with hraised | ⟨updated, db₁, hupdate, hraised⟩
    · refine updateProcessing_unrefused (fun row hlookup hrow => ?_) hraised
      rw [hrep.processings, Option.map_eq_some_iff] at hlookup
      obtain ⟨e, he, rfl⟩ := hlookup
      rw [hset e he hrow]
      exact (satisfied_of_moved (hmoved e he hrow).1 (hmoved e he hrow).2).1
    · rcases updateProcessing_spec hrep (hs.id _) (fun e he hstate => ⟨hset e he hstate, rfl⟩)
        hupdate with ⟨rfl, -, -⟩ | ⟨e, he, hstate, rfl, hrep₁⟩
      · simp at hraised
      obtain ⟨hcoherent, hplanned⟩ := hmoved e he hstate
      obtain ⟨-, hnone⟩ := (hs.entry _ _ he).phase.of_accepted ((state_accepted_iff _).mp hstate)
      -- No attempt there is has anything in common with the planned one.
      have hother : ∀ other ∈ db₁.attempts.rows, other.attemptId ≠ attemptId ∧
          other.operationKey ≠ operationKey ∧ other.processingId ≠ processingId := by
        intro other hmem
        obtain ⟨k', e', a', he', ha', rfl⟩ := hrep₁.mem_attempts.mp hmem
        have hne : k' ≠ processingId := by
          rintro rfl
          rw [Function.update_self, Option.some.injEq] at he'
          subst he'
          simp [hnone] at ha'
        rw [Function.update_of_ne hne] at he'
        obtain ⟨hid, hkey⟩ := hunused k' e' a' he' ha'
        refine ⟨hid, hkey, ?_⟩
        rw [AttemptFields.row_processingId, attempt_processingId hs he' ha']
        exact hne
      simp only [bind_eq_error_iff, pure_eq_error_iff, and_false, exists_false, or_false]
        at hraised
      rw [plannedAttempt_row] at hraised
      refine insertAttempt_unrefused ((satisfied_of_moved hcoherent hplanned).2 _ rfl) ?_
        (fun other hmem => (hother other hmem).2) ?_ hraised
      · rw [Option.eq_none_iff_forall_ne_some]
        intro other hlookup
        obtain ⟨k', e', a', he', ha', hid, rfl⟩ := (hrep₁.attempts _ _).mp hlookup
        exact (hother _ (hrep₁.mem_attempts.mpr ⟨k', e', a', he', ha', rfl⟩)).1 hid
      · rw [AttemptFields.row_processingId, Entry.plannedAttempt,
          hrep₁.lookup_some (Function.update_self ..)]
        rfl
  · rw [bind_eq_ok_iff] at hbody
    obtain ⟨row, db₁, hupdate, hrest⟩ := hbody
    rcases updateProcessing_spec hrep (hs.id _) (fun e he hstate => ⟨hset e he hstate, rfl⟩)
      hupdate with ⟨rfl, -, -⟩ | ⟨e, he, hstate, rfl, -⟩
    · simp only [pure_eq_ok_iff] at hrest
      obtain ⟨rfl, -⟩ := hrest
      exact .ok _
    · simp only [bind_eq_ok_iff, pure_eq_ok_iff] at hrest
      obtain ⟨attempt, db₂, hinsert, rfl, rfl⟩ := hrest
      rw [plannedAttempt_row] at hinsert
      obtain ⟨rfl, -⟩ := insertAttempt_eq_ok hinsert
      obtain ⟨hcoherent, -⟩ := hmoved e he hstate
      have hdurable : (Entry.plannedAttempt now processingId attemptId operationKey backend).durable
          = Entry.plannedAttempt now processingId attemptId operationKey backend := by
        simpa using hcoherent.attemptDurable
      exact unrefused_decodePlan hcoherent hdurable

theorem acceptProcessing_unrefused (hs : s.Coherent) (hrep : Represents db s)
    {processingId : UUID} {alert : CanonicalAlert}
    {scope key : String} {version : Int} {digest : List UInt8}
    (hidentity : ValidIdentity alert.source.source scope key version digest)
    (hunused : s processingId = none) :
    Unrefused (acceptProcessing d processingId alert scope key version digest now db).1 := by
  have hcoherent : (Entry.accepted now processingId alert scope key version digest).Coherent :=
    Entry.accepted_coherent ..
  have hdecode : ∀ (e : Entry) (created : Bool), e.Coherent → Unrefused (do
      let record ← deserializeProcessing e.processing.row
      return (⟨record, created⟩ : ProcessingAcceptance)) := by
    intro e created he
    refine unrefused_of_value fun error herror => ?_
    simp only [bind, Except.bind] at herror
    cases hrow : deserializeProcessing e.processing.row with
    | error e' =>
        rw [hrow] at herror
        cases herror
        exact deserializeProcessing_error he hrow
    | ok x => simp [hrow, pure, Except.pure] at herror
  refine bindText_unrefused <| transaction_unrefused (fun name hraised => ?_) ?_
  · simp only [accepted_row] at hraised
    rw [bind_eq_error_iff] at hraised
    rcases hraised with hraised | ⟨inserted, db₁, hinsert, hraised⟩
    · refine insertAccept_unrefused ?_ (hrep.lookup_none hunused) hraised
      exact processing_satisfied hcoherent (Entry.accepted_valid hidentity).processing
    · split at hraised
      · simp at hraised
      · rw [getDb_bind] at hraised
        cases hselect : selectIdempotency db₁ scope key <;> simp [hselect] at hraised
  · rintro ⟨row, created⟩ db' hbody
    simp only [accepted_row] at hbody
    rw [bind_eq_ok_iff] at hbody
    obtain ⟨inserted, db₁, hinsert, hrest⟩ := hbody
    rcases insertAccept_eq_ok hinsert with ⟨rfl, rfl, hconflict⟩ | ⟨rfl, -, -, -, rfl⟩
    · simp only [Bool.false_eq_true, if_false, getDb_bind] at hrest
      obtain ⟨row', hselect⟩ := Option.isSome_iff_exists.mp hconflict
      simp only [hselect, pure_eq_ok_iff, Prod.mk.injEq] at hrest
      obtain ⟨⟨rfl, rfl⟩, rfl⟩ := hrest
      obtain ⟨k, e, he, rfl, -⟩ := selectIdempotency_some hrep hselect
      exact hdecode e _ (hs.entry k e he)
    · simp only [if_true, pure_eq_ok_iff, Prod.mk.injEq] at hrest
      obtain ⟨⟨rfl, rfl⟩, rfl⟩ := hrest
      exact hdecode _ _ hcoherent

theorem mapM_unrefused (hs : s.Coherent) {rows : List ProcessingRow}
    (hrows : ∀ row ∈ rows, ∃ k e, s k = some e ∧ row = e.processing.row) :
    Unrefused (rows.mapM deserializeProcessing) := by
  refine unrefused_of_value fun error herror => ?_
  induction rows with
  | nil => cases herror
  | cons row rows ih =>
      obtain ⟨k, e, he, rfl⟩ := hrows row (by simp)
      rw [List.mapM_cons] at herror
      cases hrow : deserializeProcessing e.processing.row with
      | error e' =>
          simp only [hrow, bind, Except.bind, Except.error.injEq] at herror
          exact herror ▸ deserializeProcessing_error (hs.entry k e he) hrow
      | ok x =>
          cases hrest : rows.mapM deserializeProcessing with
          | error e' =>
              simp only [hrow, hrest, bind, Except.bind, Except.error.injEq] at herror
              exact ih (fun row hmem => hrows row (by simp [hmem])) (herror ▸ hrest)
          | ok xs => simp [hrow, hrest, bind, Except.bind, pure, Except.pure] at herror

/-- What only reads the tables is not refused if what it has read decodes. -/
theorem read_unrefused {read : Db → α} {after : α → Except PyError β}
    (h : Unrefused (after (read db))) :
    Unrefused (transaction (do return read (← getDb)) after db).1 := h

/-- **No call is refused by a constraint**, if its values are valid and its new keys not in use. -/
theorem exec_unrefused (hs : s.Coherent) (hrep : Represents db s) (hvalid : s.Valid d)
    (hfits : s.Fits c) (hvalued : c.Valued d) (hunused : s.Unused c) :
    Unrefused (exec d now c db).1 := by
  cases c with
  | acceptProcessing => exact acceptProcessing_unrefused hs hrep hvalued hunused
  | get processingId =>
      change Unrefused (decodeProcessing (db.processings.lookup processingId))
      cases he : s processingId with
      | none => exact hrep.lookup_none he ▸ .ok _
      | some e => exact hrep.lookup_some he ▸ unrefused_decodeProcessing (hs.entry _ _ he)
  | storeNoActionResult => exact storeNoActionResult_unrefused hs hrep hvalid hfits
  | storePlan => exact storePlan_unrefused hs hrep hvalid hfits hvalued hunused
  | getAttemptForProcessing processingId =>
      change Unrefused (decodeAttempt (selectProcessingAttempt db processingId))
      rw [selectProcessingAttempt_eq hrep hs]
      cases ha : (s processingId).bind (·.attempt) with
      | none => exact .ok _
      | some a =>
          obtain ⟨e, he, ha⟩ := Option.bind_eq_some_iff.mp ha
          exact unrefused_decodeAttempt (by simpa [ha] using (hs.entry _ _ he).attemptDurable)
  | claimAttemptForSubmission => exact claimAttemptForSubmission_unrefused hs hrep hvalid
  | markAttemptSubmitted => exact markAttemptSubmitted_unrefused hs hrep hvalid hvalued
  | recordPoll => exact recordPoll_unrefused hs hrep hvalid hvalued
  | completeProcessing => exact completeProcessing_unrefused hs hrep hvalid hfits
  | failProcessing => exact failProcessing_unrefused hs hrep hvalid hfits hvalued
  | markRecoveryRequired => exact markRecoveryRequired_unrefused hs hrep hvalid hfits hvalued
  | findReconcilable limit staleBefore =>
      refine guarded_unrefused (unrefused_of_value fun _ => checks_error) <|
        read_unrefused (mapM_unrefused hs fun row hrow => ?_)
      obtain ⟨all, -, -, hmem, htake⟩ := reconcilable_rows hs hrep staleBefore.instant
      rw [htake] at hrow
      obtain ⟨k, e, he, -, rfl⟩ := (hmem row).mp (List.mem_of_mem_take hrow)
      exact ⟨k, e, he, rfl⟩

end Postgres

end Alert2IR
