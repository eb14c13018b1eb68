import Alert2IR.Persistence.Decoding
import Alert2IR.Persistence.Refusal

/-!
# When a raising operation is rolled back

An operation that raises inside its transaction leaves the tables alone. One that raises in decoding
what it has committed does not, and what keeps a row from decoding is not much: a time before that
of its creation, or a text that is blank to Python but not to the
server. -/

namespace Alert2IR

namespace Postgres

section Decoding

variable {d : Dialect} {e : Entry} {a : AttemptFields}

/-- **When a processing decodes.** -/
theorem deserializeProcessing_iff (hcoherent : e.Coherent) (hvalid : e.Valid d) :
    (∃ r, deserializeProcessing e.processing.row = .ok r) ↔
      e.processing.createdAt.instant ≤ e.processing.updatedAt.instant := by
  simp only [deserializeProcessing, deserializeFields_row hcoherent, bind, Except.bind]
  constructor
  · rintro ⟨r, hr⟩
    have hchecks := r.valid
    rw [ProcessingRecord.make_eq_ok_iff.mp hr, ProcessingFields.postInit, checks_append,
      checks_append, checks_append, checks_append] at hchecks
    have htimes := checks_eq_ok_iff.mp hchecks.1.1.1.1
    simp only [ProcessingFields.timestampChecks, List.forall_mem_cons] at htimes
    exact of_decide_eq_true htimes.2.2.2.2.1
  · intro htimes
    have htimely : e.Timely e.processing.updatedAt.instant := ⟨htimes, le_rfl⟩
    obtain ⟨r, hr, -⟩ := ProcessingRecord.exists_make_of_postInit
      (Entry.postInit_eq_ok hcoherent hvalid htimely)
    exact ⟨r, hr⟩

/-- The texts of an attempt that its table holds to the server's notion of a blank. -/
structure Readable (a : AttemptFields) : Prop where
  backend : isBlank a.backend = false
  external : ∀ x, a.externalOperationId = some x → isBlank x = false

theorem stateChecks_of_serves {p : ProcessingFields} {b : String} (hserves : a.Serves p b)
    (hvalid : a.Valid d) : checks a.stateChecks = .ok () := by
  have hexternal := hserves.submitted
  have hunsubmitted := hserves.unsubmitted
  have hidentified := hserves.identified
  have hunstarted := hserves.unstarted
  have hstarted := hserves.started
  have hcompleted := hserves.completedAt
  have hfailed := hserves.failedAt
  have herrored := hvalid.errored
  cases hstate : a.state <;>
    simp_all [AttemptFields.stateChecks, checks]

/-- **When an attempt decodes.** -/
theorem deserializeAttempt_iff {p : ProcessingFields} {b : String} (hdurable : a.durable = a)
    (hserves : a.Serves p b) (hvalid : a.Valid d) :
    (∃ x, deserializeAttempt a.row = .ok x) ↔ Readable a := by
  obtain ⟨hcreated, hstarted, hsubmitted, hpolled, hcompleted, hfailed⟩ :=
    AttemptFields.durable_eq_self_iff.mp hdurable
  simp only [deserializeAttempt, deserializeAttemptFields_row hdurable, bind, Except.bind]
  constructor
  · rintro ⟨x, hx⟩
    have hchecks := x.valid
    rw [ExecutionAttempt.make_eq_ok_iff.mp hx, AttemptFields.postInit, checks_append] at hchecks
    have hcommon := checks_eq_ok_iff.mp hchecks.1
    simp only [AttemptFields.commonChecks, List.forall_mem_cons, Bool.not_eq_true'] at hcommon
    obtain ⟨-, hbackend, -, -, -, -, -, -, -, -, -, -, hexternal, -⟩ := hcommon
    refine ⟨hbackend, fun y hy => ?_⟩
    simp only [hy, ifPresent_some, Bool.and_eq_true, Bool.not_eq_true'] at hexternal
    exact hexternal.1
  · rintro ⟨hbackend, hexternal⟩
    have hpair := hvalid.errors.isSome_eq
    obtain ⟨hcategory, hdetail⟩ := hvalid.errors.bounded
    have hremote : (requireBoundedError a.lastRemoteState "last_remote_state").1 = true := by
      cases hremote : a.lastRemoteState with
      | none => rfl
      | some value =>
          have hbounded := hvalid.remoteState value hremote
          simp [requireBoundedError, hbounded.nonempty, hbounded.2]
    have hid : ifPresent a.externalOperationId
        (fun id => !isBlank id && decide (id.length ≤ 512)) = true := by
      cases hid : a.externalOperationId with
      | none => rfl
      | some value => simp [hexternal value hid, (hvalid.external value hid).2]
    have hchecks : a.postInit = .ok () := by
      rw [AttemptFields.postInit, checks_append]
      refine ⟨?_, stateChecks_of_serves hserves hvalid⟩
      simp [AttemptFields.commonChecks, checks, requireAware, hserves.number, hbackend,
        isAware_of_utc hcreated, ifPresent_isAware hstarted, ifPresent_isAware hsubmitted,
        ifPresent_isAware hpolled, ifPresent_isAware hcompleted, ifPresent_isAware hfailed, hremote,
        hcategory, hdetail, ← Option.not_isSome, hpair, hid]
    obtain ⟨x, hx, -⟩ := ExecutionAttempt.exists_make_of_postInit hchecks
    exact ⟨x, hx⟩

end Decoding

/-- Every row is what it was. -/
structure Unchanged (db db' : Db) : Prop where
  processings : ∀ k, db'.processings.lookup k = db.processings.lookup k
  attempts : ∀ id, db'.attempts.lookup id = db.attempts.lookup id

theorem Unchanged.refl (db : Db) : Unchanged db db := ⟨fun _ => rfl, fun _ => rfl⟩

section Moves

variable {d : Dialect} {now : Int} {db : Db} {s : Store} {c : RepositoryCall} {e e' : Entry}

/-- The rows of a moved entry satisfy the constraints exactly if the values of the move are
valid. -/
theorem satisfied_iff_valued (hcoherent : e.Coherent) (hvalid : e.Valid d) (hfits : c.Fits e)
    (hadvance : e.advance now c = some e') :
    (satisfied (Schema.processingConstraints d e'.processing.row) = true ∧
      ∀ a, e'.attempt = some a → satisfied (Schema.attemptConstraints d a.row) = true) ↔
        c.Valued d := by
  constructor
  · rintro ⟨hprocessing, hattempt⟩
    exact valued_of_satisfied hadvance hprocessing hattempt
  · intro hvalued
    exact satisfied_of_moved (Entry.advance_coherent hcoherent hfits hadvance)
      (Entry.advance_valid hcoherent hvalid hvalued hadvance)

/-- The update of both rows finds them where an attempt is in a state it expects, its text can be
bound and the constraints let the rows pass. Otherwise it raises, or finds nothing. -/
theorem updateBoth_cases (diverged : String) (text : List String) {valued : Prop}
    (hs : s.Coherent) (hrep : Represents db s) {attemptId : UUID}
    {condition : AttemptRow → Bool} {set : AttemptRow → AttemptRow}
    {processingCondition : ProcessingRow → Bool} {processingSet : ProcessingRow → ProcessingRow}
    {expected : List ExecutionAttemptState}
    {attemptMove : AttemptFields → AttemptFields}
    {processingMove : ProcessingFields → ProcessingFields}
    (hcondition : ∀ a : AttemptFields, condition a.row = true ↔ a.state ∈ expected)
    (hguard : ∀ (p : ProcessingFields), ∀ state ∈ expected,
      p.state = state.processingState → processingCondition p.row = true)
    (hset : ∀ a : AttemptFields, set a.row = (attemptMove a).row ∧
      (attemptMove a).attemptId = a.attemptId ∧ (attemptMove a).processingId = a.processingId)
    (hprocessingSet : ∀ k e a, s k = some e → e.attempt = some a → a.attemptId = attemptId →
      processingSet e.processing.row = (processingMove e.processing).row ∧
        (processingMove e.processing).processingId = e.processing.processingId)
    (hvalued : ∀ k e a, s k = some e → e.attempt = some a → a.attemptId = attemptId →
      a.state ∈ expected →
        (satisfied (Schema.processingConstraints d (processingMove e.processing).row) = true ∧
          satisfied (Schema.attemptConstraints d (attemptMove a).row) = true ↔ valued)) :
    (∃ k e a, s k = some e ∧ e.attempt = some a ∧ a.attemptId = attemptId ∧ a.state ∈ expected ∧
      valued ∧ text.all nulFree = true ∧
      updateBoth d attemptId condition set processingCondition processingSet diverged text db =
        .ok (some ((attemptMove a).row, (processingMove e.processing).row),
          { processings := db.processings.insert k (processingMove e.processing).row
            attempts := db.attempts.insert attemptId (attemptMove a).row })) ∨
    ((∀ k e a, s k = some e → e.attempt = some a → a.attemptId = attemptId → a.state ∈ expected →
        ¬(valued ∧ text.all nulFree = true)) ∧
      ((∃ error, updateBoth d attemptId condition set processingCondition processingSet diverged
          text db = .error error) ∨
        updateBoth d attemptId condition set processingCondition processingSet diverged text db =
          .ok (none, db))) := by
  by_cases hfound : ∃ k e a, s k = some e ∧ e.attempt = some a ∧ a.attemptId = attemptId ∧
      a.state ∈ expected
  · obtain ⟨k, e, a, he, ha, hid, hexpected⟩ := hfound
    obtain ⟨q, b, -, hserves⟩ := (hs.entry k e he).executing ha
    obtain ⟨hsetRow, hsetId, hsetProcessing⟩ := hset a
    obtain ⟨hprocessingRow, hprocessingId⟩ := hprocessingSet k e a he ha hid
    have hconstraints := hvalued k e a he ha hid hexpected
    have hlookup : db.attempts.lookup attemptId = some a.row := hid ▸ hrep.attempt_lookup he ha
    have hk : (set a.row).processingId = k := by
      rw [hsetRow, AttemptFields.row_processingId, hsetProcessing, attempt_processingId hs he ha]
    have honly : OnlyActive db (set a.row) :=
      onlyActive_of_coherent hs hrep he ha (hsetRow ▸ hsetId) hk
    by_cases hstored : valued ∧ text.all nulFree = true
    · obtain ⟨hprocessing, hattempt⟩ := hconstraints.mpr hstored.1
      refine .inl ⟨k, e, a, he, ha, hid, hexpected, hstored.1, hstored.2, ?_⟩
      rw [← hsetRow] at hattempt ⊢
      rw [← hprocessingRow] at hprocessing ⊢
      have hguarded := hguard e.processing a.state hexpected hserves.state
      have hfirst := updateAttempt_eq_ok_iff.mpr
        (.inr ⟨a.row, hlookup, (hcondition a).mpr hexpected, hattempt, honly, rfl, rfl⟩)
      have hsecond : ∀ db₁ : Db, db₁.processings = db.processings →
          updateProcessing d (set a.row).processingId processingCondition processingSet db₁ =
            .ok (some (processingSet e.processing.row),
              { db₁ with
                processings := db₁.processings.insert (processingSet e.processing.row).id
                  (processingSet e.processing.row) }) := by
        intro db₁ hsame
        have hfound : db₁.processings.lookup (set a.row).processingId = some e.processing.row := by
          rw [hsame, hk, hrep.lookup_some he]
        exact updateProcessing_eq_ok_iff.mpr
          (.inr ⟨_, hfound, hguarded, hprocessing, rfl, rfl⟩)
      unfold updateBoth
      refine bind_eq_ok_iff.mpr ⟨_, _, hfirst, ?_⟩
      refine bind_eq_ok_iff.mpr ⟨(), _, bindText_of_nulFree hstored.2, ?_⟩
      refine bind_eq_ok_iff.mpr ⟨_, _, hsecond _ rfl, ?_⟩
      rw [pure_eq_ok_iff]
      have hrowId : (set a.row).attemptId = attemptId := by
        rw [hsetRow, AttemptFields.row_attemptId, hsetId, hid]
      have hrowKey : (processingSet e.processing.row).id = k := by
        rw [hprocessingRow, ProcessingFields.row_id, hprocessingId, hs.id k e he]
      exact ⟨rfl, by rw [hrowId, hrowKey]⟩
    · refine .inr ⟨fun _ _ _ _ _ _ _ => hstored, .inl ?_⟩
      cases hbody : updateBoth d attemptId condition set processingCondition processingSet diverged
          text db with
      | error error => exact ⟨error, rfl⟩
      | ok p =>
        refine absurd ?_ hstored
        obtain ⟨updated, db'⟩ := p
        unfold updateBoth at hbody
        obtain ⟨attempt, db₁, hfirst, hrest⟩ := bind_eq_ok_iff.mp hbody
        rcases updateAttempt_eq_ok_iff.mp hfirst with
          ⟨-, -, hnone⟩ | ⟨row, hrow, -, hattempt, -, rfl, rfl⟩
        · have hfalse := hnone _ hlookup
          rw [(hcondition a).mpr hexpected] at hfalse
          cases hfalse
        obtain rfl := Option.some.inj (hrow.symm.trans hlookup)
        simp only [bind_eq_ok_iff, bindText_eq_ok_iff] at hrest
        obtain ⟨_, _, ⟨htext, rfl⟩, processing, db₂, hsecond, hrest⟩ := hrest
        rcases updateProcessing_eq_ok_iff.mp hsecond with
          ⟨rfl, -, -⟩ | ⟨row, hrow, -, hprocessing, -⟩
        · simp at hrest
        rw [hk, hrep.lookup_some he, Option.some.injEq] at hrow
        subst hrow
        exact ⟨hconstraints.mp ⟨hprocessingRow ▸ hprocessing, hsetRow ▸ hattempt⟩, htext⟩
  · have hlost : updateAttempt d attemptId condition set db = .ok (none, db) := by
      refine updateAttempt_lost fun row hrow => ?_
      obtain ⟨k, e, a, he, ha, hid, rfl⟩ := (hrep.attempts _ _).mp hrow
      rw [Bool.eq_false_iff]
      exact fun hmatch => hfound ⟨k, e, a, he, ha, hid, (hcondition a).mp hmatch⟩
    refine .inr ⟨fun k e a he ha hid hexpected => absurd ⟨k, e, a, he, ha, hid, hexpected⟩ hfound,
      .inr ?_⟩
    unfold updateBoth
    exact bind_eq_ok_iff.mpr ⟨_, _, hlost, pure_eq_ok_iff.mpr ⟨rfl, rfl⟩⟩

end Moves

/-! ### Calls that take effect -/

/-- The text parameters of a call. -/
def callText : RepositoryCall → List String
  | .completeProcessing _ result => (result.investigationResult.map resultText).getD []
  | c => guardText c

/-- The arguments of a call pass its checks, can be bound and pass the constraints, and its keys are
not in use. -/
structure Storable (d : Dialect) (s : Store) (c : RepositoryCall) : Prop where
  admitted : c.Admitted
  text : (callText c).all nulFree = true
  valued : c.Valued d
  unused : s.Unused c

/-- A call that can be stored finds an entry in a state it expects, and changes it. -/
structure Takes (d : Dialect) (now : Int) (s : Store) (c : RepositoryCall) (e : Entry) : Prop where
  storable : Storable d s c
  unended : e.processing.state ≠ .completed
  advance : ∃ e', e.advance now c = some e' ∧ e' ≠ e

/-- What a call leaves of an entry decodes, and is what it was given. -/
def Decodes (now : Int) (e : Entry) : RepositoryCall → Prop
  | .storePlan _ _ _ _ backend _ _ =>
      e.processing.createdAt.instant ≤ now ∧ isBlank backend = false
  | .claimAttemptForSubmission _ | .recordPoll .. => ∀ a, e.attempt = some a → Readable a
  | .markAttemptSubmitted _ externalOperationId =>
      ∀ a, e.attempt = some a → isBlank a.backend = false ∧ isBlank externalOperationId = false
  | .completeProcessing attemptId result =>
      e.processing.createdAt.instant ≤ now ∧
        (RepositoryCall.completeProcessing attemptId result).Fits e
  | .failProcessing .. | .markRecoveryRequired .. => e.processing.createdAt.instant ≤ now
  | _ => True

/-- What comes of a call: it takes effect on one entry, and then returns exactly if the entry
decodes, or it changes nothing. -/
inductive Outcome (d : Dialect) (now : Int) (s : Store) (c : RepositoryCall) (db : Db) : Prop
  | taken {k : UUID} {e : Entry} (he : s k = some e) (htakes : Takes d now s c e)
      (hchanged : ¬Unchanged db (exec d now c db).2)
      (hreturns : (∃ x, (exec d now c db).1 = .ok x) ↔ Decodes now e c) : Outcome d now s c db
  | untaken (hnone : ∀ k e, s k = some e → ¬Takes d now s c e)
      (hunchanged : Unchanged db (exec d now c db).2) : Outcome d now s c db

section Outcomes

variable {d : Dialect} {now : Int} {db : Db} {s : Store} {c : RepositoryCall} {e e' : Entry}

theorem row_injective {p p' : Entry} (hp : p.Coherent) (hp' : p'.Coherent)
    (h : p.processing.row = p'.processing.row) : p.processing = p'.processing := by
  have hread := deserializeFields_row hp
  rw [h, deserializeFields_row hp'] at hread
  exact (Except.ok.inj hread).symm

theorem attemptRow_injective {a a' : AttemptFields} (ha : a.durable = a) (ha' : a'.durable = a')
    (h : a.row = a'.row) : a = a' := by
  have hread := deserializeAttemptFields_row ha
  rw [h, deserializeAttemptFields_row ha'] at hread
  exact (Except.ok.inj hread).symm

/-- Writing the rows of another entry over those of an entry changes them. -/
theorem unchanged_iff_of_moved (hs : s.Coherent) (hrep : Represents db s) {k : UUID}
    {a a' : AttemptFields} {p' : ProcessingFields} (he : s k = some e) (ha : e.attempt = some a)
    (hcoherent : Entry.Coherent ⟨p', some a'⟩) :
    Unchanged db { processings := db.processings.insert k p'.row
                   attempts := db.attempts.insert a.attemptId a'.row } ↔
      (⟨p', some a'⟩ : Entry) = e := by
  have hentry := hs.entry k e he
  have hdurable : a.durable = a := by simpa [ha] using hentry.attemptDurable
  have hdurable' : a'.durable = a' := by simpa using hcoherent.attemptDurable
  constructor
  · rintro ⟨hprocessings, hattempts⟩
    have hprocessing := hprocessings k
    have hattempt := hattempts a.attemptId
    rw [Table.lookup_insert, if_pos rfl, hrep.lookup_some he, Option.some.injEq] at hprocessing
    rw [Table.lookup_insert, if_pos rfl, hrep.attempt_lookup he ha, Option.some.injEq] at hattempt
    obtain ⟨p, b⟩ := e
    cases ha
    have hp : p' = p := row_injective hcoherent hentry hprocessing
    rw [hp, attemptRow_injective hdurable' hdurable hattempt]
  · rintro rfl
    cases ha
    refine ⟨fun k' => ?_, fun id => ?_⟩
    · rw [Table.lookup_insert]
      split
      · next hk => rw [hk, hrep.lookup_some he]
      · rfl
    · rw [Table.lookup_insert]
      split
      · next hid =>
        have hlookup := hrep.attempt_lookup he rfl
        rw [hid, hlookup]
      · rfl

theorem transaction_of_ok {α β : Type} {body : Tx α} {after : α → Except PyError β} (a : α)
    (db' : Db) (h : body db = .ok (a, db')) : transaction body after db = (after a, db') := by
  rw [transaction, h]

theorem transaction_of_error {α β : Type} {body : Tx α} {after : α → Except PyError β}
    (error : PyError) (h : body db = .error error) :
    transaction body after db = (.error error, db) := by
  rw [transaction, h]

theorem transaction_returns {α β : Type} {body : Tx α} {after : α → Except PyError β} {x : β}
    (h : (transaction body after db).1 = .ok x) :
    ∃ a db', body db = .ok (a, db') ∧ after a = .ok x ∧ (transaction body after db).2 = db' := by
  cases hbody : body db with
  | error error =>
    rw [transaction_of_error error hbody] at h
    cases h
  | ok result =>
    rw [transaction_of_ok result.1 result.2 hbody] at h ⊢
    exact ⟨_, _, rfl, h, rfl⟩

/-- A transaction changes what its body changes, if the body succeeds. -/
theorem transaction_unchanged {α β : Type} {body : Tx α} {after : α → Except PyError β}
    (h : ∀ a db', body db = .ok (a, db') → Unchanged db db') :
    Unchanged db (transaction body after db).2 := by
  rw [transaction]
  cases hbody : body db with
  | error error => exact .refl db
  | ok result => exact h result.1 result.2 hbody

/-- The outcome of a call that moves an attempt and its processing. -/
theorem move_outcome (expected : List ExecutionAttemptState) (text : List String)
    (processingMove : ProcessingFields → ProcessingFields) (hs : s.Coherent)
      (hrep : Represents db s) {attemptId : UUID}
    {condition : AttemptRow → Bool} {set : AttemptRow → AttemptRow}
    {processingCondition : ProcessingRow → Bool} {processingSet : ProcessingRow → ProcessingRow}
    {diverged : String} {attemptMove : AttemptFields → AttemptFields}
    {after : Option (AttemptRow × ProcessingRow) → Except PyError c.Result}
    (hexec : exec d now c db = transaction (updateBoth d attemptId condition set
      processingCondition processingSet diverged text) after db)
    (hstorable : Storable d s c ↔ c.Valued d ∧ text.all nulFree = true)
    (hcondition : ∀ a : AttemptFields, condition a.row = true ↔ a.state ∈ expected)
    (hguard : ∀ (p : ProcessingFields), ∀ state ∈ expected,
      p.state = state.processingState → processingCondition p.row = true)
    (hset : ∀ a : AttemptFields, set a.row = (attemptMove a).row ∧
      (attemptMove a).attemptId = a.attemptId ∧ (attemptMove a).processingId = a.processingId)
    (hprocessingSet : ∀ k e a, s k = some e → e.attempt = some a → a.attemptId = attemptId →
      processingSet e.processing.row = (processingMove e.processing).row ∧
        (processingMove e.processing).processingId = e.processing.processingId)
    (hactive : ∀ state ∈ expected, state ∈ ExecutionAttemptState.active)
    (hfinds : ∀ k e e', s k = some e → e.advance now c = some e' →
      ∃ a, e.attempt = some a ∧ a.attemptId = attemptId ∧ a.state ∈ expected)
    (hmoved : ∀ k e a, s k = some e → e.attempt = some a → a.attemptId = attemptId →
      a.state ∈ expected →
        Entry.Coherent ⟨processingMove e.processing, some (attemptMove a)⟩ ∧
        ((satisfied (Schema.processingConstraints d (processingMove e.processing).row) = true ∧
          satisfied (Schema.attemptConstraints d (attemptMove a).row) = true) ↔ c.Valued d) ∧
        ((∃ e', e.advance now c = some e' ∧ e' ≠ e) ↔
          (⟨processingMove e.processing, some (attemptMove a)⟩ : Entry) ≠ e) ∧
        (c.Valued d → ((∃ x, after (some ((attemptMove a).row, (processingMove e.processing).row))
          = .ok x) ↔ Decodes now e c))) : Outcome d now s c db := by
  have hcases := updateBoth_cases (d := d) diverged text hs hrep hcondition hguard hset
    hprocessingSet fun k e a he ha hid hexpected => (hmoved k e a he ha hid hexpected).2.1
  rcases hcases with ⟨k, e, a, he, ha, rfl, hexpected, hvalued, htext, hbody⟩ | ⟨hnone, hbody⟩
  · obtain ⟨hcoherent, -, htakes, hdecodes⟩ := hmoved k e a he ha rfl hexpected
    have hresult : exec d now c db = (after _, _) := hexec.trans (transaction_of_ok _ _ hbody)
    have hunended := ((hs.entry k e he).unended ha (hactive _ hexpected)).1
    by_cases hsame : (⟨processingMove e.processing, some (attemptMove a)⟩ : Entry) = e
    · refine .untaken (fun k' e' he' htaken => ?_) ?_
      · obtain ⟨e'', hadvance, hne⟩ := htaken.advance
        obtain ⟨a', ha', hid', -⟩ := hfinds k' e' e'' he' hadvance
        have hkey : e.attempt.map (·.attemptId) = e'.attempt.map (·.attemptId) := by
          rw [ha, ha', Option.map_some, Option.map_some, hid']
        obtain rfl := hs.attempts k e k' e' he he' (by rw [ha]; rfl) hkey
        obtain rfl := Option.some.inj (he.symm.trans he')
        exact htakes.mp ⟨e'', hadvance, hne⟩ hsame
      · rw [hresult]
        exact (unchanged_iff_of_moved hs hrep he ha hcoherent).mpr hsame
    · refine .taken he ⟨hstorable.mpr ⟨hvalued, htext⟩, hunended, htakes.mpr hsame⟩ ?_ ?_
      · rw [hresult]
        exact (unchanged_iff_of_moved hs hrep he ha hcoherent).not.mpr hsame
      · rw [hresult]
        exact hdecodes hvalued
  · refine .untaken (fun k e he htaken => ?_) ?_
    · obtain ⟨e', hadvance, -⟩ := htaken.advance
      obtain ⟨a, ha, hid, hexpected⟩ := hfinds k e e' he hadvance
      exact hnone k e a he ha hid hexpected (hstorable.mp htaken.storable)
    · rcases hbody with ⟨error, hbody⟩ | hbody
      · rw [hexec, transaction_of_error _ hbody]
        exact .refl db
      · rw [hexec, transaction_of_ok _ _ hbody]
        exact .refl db

theorem transaction_bindText {α β : Type} (text : List String) (body : Tx α)
    (after : α → Except PyError β) (db : Db) :
    transaction (bindText text >>= fun _ => body) after db =
      if text.all nulFree = true then transaction body after db
      else (.error (.dataError "PostgreSQL text fields cannot contain NUL (0x00) bytes"), db) := by
  unfold transaction
  by_cases htext : text.all nulFree = true
  · have hbound : (bindText text >>= fun _ => body) db = body db := by
      simp only [bind, StateT.bind, bindText_of_nulFree htext, Except.bind]
    rw [if_pos htext, hbound]
  · have hraised : (bindText text >>= fun _ => body) db
        = .error (.dataError "PostgreSQL text fields cannot contain NUL (0x00) bytes") := by
      simp only [bindText, if_neg htext]
      rfl
    rw [if_neg htext, hraised]

/-- A call that nothing can be stored of changes nothing. -/
theorem Outcome.refused (hstorable : ¬Storable d s c) (hexec : (exec d now c db).2 = db) :
    Outcome d now s c db :=
  .untaken (fun _ _ _ htakes => hstorable htakes.storable) (by rw [hexec]; exact .refl db)

/-- A call whose arguments are checked and bound before anything else. -/
theorem Outcome.of_checked {α : Type} (check : Except PyError Unit) (body : Tx α)
    {text : List String} {after : α → Except PyError c.Result}
    (hexec : exec d now c db =
      guarded check db (transaction (bindText text >>= fun _ => body) after db))
    (hadmitted : check = .ok () ↔ c.Admitted) (htext : text = callText c)
    (hrest : c.Admitted → text.all nulFree = true → exec d now c db = transaction body after db →
      Outcome d now s c db) : Outcome d now s c db := by
  by_cases hcheck : check = .ok ()
  · rw [hcheck, guarded, transaction_bindText] at hexec
    by_cases hbound : text.all nulFree = true
    · rw [if_pos hbound] at hexec
      exact hrest (hadmitted.mp hcheck) hbound hexec
    · rw [if_neg hbound] at hexec
      exact .refused (fun h => hbound (htext ▸ h.text)) (by rw [hexec])
  · refine .refused (fun h => hcheck (hadmitted.mpr h.admitted)) ?_
    rw [hexec]
    cases check with
    | ok u => exact absurd rfl hcheck
    | error e => rfl

theorem decodeAttempt_returns {row : AttemptRow} :
    (∃ x, decodeAttempt (some row) = .ok x) ↔ ∃ x, deserializeAttempt row = .ok x := by
  simp only [decodeAttempt, Functor.map, Except.map]
  cases deserializeAttempt row <;> simp

theorem decodeProcessing_returns {row : ProcessingRow} :
    (∃ x, decodeProcessing (some row) = .ok x) ↔ ∃ x, deserializeProcessing row = .ok x := by
  simp only [decodeProcessing, Functor.map, Except.map]
  cases deserializeProcessing row <;> simp

end Outcomes

end Postgres

end Alert2IR
