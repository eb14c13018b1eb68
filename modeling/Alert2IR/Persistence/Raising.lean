import Alert2IR.Persistence.PostgresLaw

/-!
# When a PostgreSQL operation raises

The statements raise only what the database itself raises. The `RuntimeError` of two rows that
diverged is left to the one comparison that looks for it, and a coherent store gives it no cause.
-/

namespace Alert2IR

namespace Postgres

theorem make_error {f : ProcessingFields} {e : PyError} (h : ProcessingRecord.make f = .error e) :
    ∃ message, e = .valueError message := by
  unfold ProcessingRecord.make at h
  split at h
  · cases h
  · next hchecks =>
    cases h
    exact checks_error hchecks

theorem makeAttempt_error {f : AttemptFields} {e : PyError}
    (h : ExecutionAttempt.make f = .error e) : ∃ message, e = .valueError message := by
  unfold ExecutionAttempt.make at h
  split at h
  · cases h
  · next hchecks =>
    cases h
    exact checks_error hchecks

/-- A row of a coherent store fails to decode only by a check of the record it becomes. -/
theorem deserializeProcessing_error {entry : Entry} (hcoherent : entry.Coherent) {e : PyError}
    (h : deserializeProcessing entry.processing.row = .error e) :
    ∃ message, e = .valueError message := by
  simp only [deserializeProcessing, deserializeFields_row hcoherent, bind, Except.bind] at h
  exact make_error h

theorem deserializeAttempt_error {a : AttemptFields} (hdurable : a.durable = a) {e : PyError}
    (h : deserializeAttempt a.row = .error e) : ∃ message, e = .valueError message := by
  simp only [deserializeAttempt, deserializeAttemptFields_row hdurable, bind, Except.bind] at h
  exact makeAttempt_error h

/-- What a statement or the binding of its parameters can raise. -/
def isDatabaseError : PyError → Bool
  | .dataError _ | .integrityError _ => true
  | _ => false

section Tx

variable {α β : Type} {d : Dialect} {db db' : Db} {e : PyError} {s : Store}

@[simp]
theorem pure_eq_error_iff {a : α} : (pure a : Tx α) db = .error e ↔ False := by
  change (.ok (a, db) : Except PyError (α × Db)) = .error e ↔ _
  simp

@[simp]
theorem throw_eq_error_iff {e' : PyError} : (throw e' : Tx α) db = .error e ↔ e' = e := by
  simp [throw, throwThe, MonadExceptOf.throw, StateT.lift, bind, Except.bind]

@[simp]
theorem bind_eq_error_iff {x : Tx α} {f : α → Tx β} :
    (x >>= f) db = .error e ↔
      x db = .error e ∨ ∃ a db', x db = .ok (a, db') ∧ f a db' = .error e := by
  simp only [bind, StateT.bind, Except.bind]
  cases x db with
  | error e => simp
  | ok p =>
      obtain ⟨a, db'⟩ := p
      simp

@[simp]
theorem map_eq_error_iff {x : Tx α} {f : α → β} : (f <$> x) db = .error e ↔ x db = .error e := by
  rw [map_eq_pure_bind, bind_eq_error_iff]
  simp

theorem bindText_error {values : List String} (h : bindText values db = .error e) :
    isDatabaseError e = true := by
  unfold bindText at h
  split at h
  · simp at h
  · rw [throw_eq_error_iff] at h
    rw [← h]
    rfl

theorem checkConstraints_error {constraints : List (String × Sql.Truth)}
    (h : checkConstraints constraints db = .error e) : isDatabaseError e = true := by
  unfold checkConstraints at h
  cases hfind : constraints.find? fun constraint => !constraint.2.passes with
  | none => simp [hfind] at h
  | some violated =>
      simp only [hfind, throw_eq_error_iff] at h
      rw [← h]
      rfl

@[simp]
theorem putProcessing_ne_error {row : ProcessingRow} :
    putProcessing row db = .error e ↔ False := by
  simp [putProcessing, modify, modifyGet, MonadStateOf.modifyGet, StateT.modifyGet, pure,
    Except.pure]

@[simp]
theorem putAttempt_ne_error {row : AttemptRow} : putAttempt row db = .error e ↔ False := by
  simp [putAttempt, modify, modifyGet, MonadStateOf.modifyGet, StateT.modifyGet, pure,
    Except.pure]

theorem checkActive_error {row : AttemptRow} (h : checkActive row db = .error e) :
    isDatabaseError e = true := by
  unfold checkActive at h
  rw [getDb_bind] at h
  split at h
  · rw [throw_eq_error_iff] at h
    rw [← h]
    rfl
  · simp at h

theorem updateProcessing_error {processingId : UUID} {condition : ProcessingRow → Bool}
    {set : ProcessingRow → ProcessingRow}
    (h : updateProcessing d processingId condition set db = .error e) :
    isDatabaseError e = true := by
  unfold updateProcessing at h
  rw [getDb_bind] at h
  cases hlookup : db.processings.lookup processingId with
  | none => simp [hlookup] at h
  | some row =>
      cases hcondition : condition row with
      | false => simp [hlookup, hcondition] at h
      | true =>
          simp only [hlookup, hcondition, if_true, bind_eq_error_iff, putProcessing_ne_error,
            pure_eq_error_iff, and_false, exists_false, or_false] at h
          exact checkConstraints_error h

theorem updateAttempt_error {attemptId : UUID} {condition : AttemptRow → Bool}
    {set : AttemptRow → AttemptRow} (h : updateAttempt d attemptId condition set db = .error e) :
    isDatabaseError e = true := by
  unfold updateAttempt at h
  rw [getDb_bind] at h
  cases hlookup : db.attempts.lookup attemptId with
  | none => simp [hlookup] at h
  | some row =>
      cases hcondition : condition row with
      | false => simp [hlookup, hcondition] at h
      | true =>
          simp only [hlookup, hcondition, if_true, bind_eq_error_iff, putAttempt_ne_error,
            pure_eq_error_iff, and_false, exists_false, or_false] at h
          rcases h with h | ⟨_, _, -, h⟩
          · exact checkConstraints_error h
          · exact checkActive_error h

/-- An update of both rows raises nothing else, where a matching attempt has a matching
processing. -/
theorem updateBoth_error (hs : s.Coherent) (hrep : Represents db s) {attemptId : UUID}
    {condition : AttemptRow → Bool} {set : AttemptRow → AttemptRow}
    {processingCondition : ProcessingRow → Bool} {processingSet : ProcessingRow → ProcessingRow}
    {diverged : String} {text : List String}
    (hset : ∀ row : AttemptRow, (set row).processingId = row.processingId)
    (hmatch : ∀ k e a, s k = some e → e.attempt = some a → condition a.row = true →
      processingCondition e.processing.row = true)
    (h : updateBoth d attemptId condition set processingCondition processingSet diverged text db
      = .error e) : isDatabaseError e = true := by
  unfold updateBoth at h
  rw [bind_eq_error_iff] at h
  rcases h with h | ⟨attempt, db₁, hattempt, h⟩
  · exact updateAttempt_error h
  rcases updateAttempt_eq_ok_iff.mp hattempt with ⟨rfl, -, -⟩ | ⟨row, hlookup, hrow, -, -, rfl, rfl⟩
  · simp at h
  obtain ⟨k, entry, a, he, ha, -, rfl⟩ := (hrep.attempts _ _).mp hlookup
  simp only [bind_eq_error_iff, bindText_eq_ok_iff] at h
  rcases h with h | ⟨_, _, ⟨-, rfl⟩, h | ⟨processing, db₂, hprocessing, h⟩⟩
  · exact bindText_error h
  · exact updateProcessing_error h
  rcases updateProcessing_eq_ok_iff.mp hprocessing with ⟨rfl, -, hnone⟩ | ⟨_, -, -, -, rfl, -⟩
  · have hid : (set a.row).processingId = k := by
      rw [hset, AttemptFields.row_processingId, attempt_processingId hs he ha]
    have hfalse := hnone entry.processing.row (by rw [hid]; exact hrep.lookup_some he)
    rw [hmatch k entry a he ha hrow] at hfalse
    cases hfalse
  · simp at h

end Tx

/-- The operations that move an attempt and its processing under one guard. -/
def movesBoth : RepositoryCall → Bool
  | .claimAttemptForSubmission _ | .markAttemptSubmitted .. | .recordPoll ..
  | .completeProcessing .. | .markRecoveryRequired .. => true
  | _ => false

section Divergence

variable {d : Dialect} {now : Int} {db db' : Db} {s : Store} {c : RepositoryCall} {e : PyError}

theorem transaction_error {α β : Type} {body : Tx α} {after : α → Except PyError β}
    (h : (transaction body after db).1 = .error e) :
    body db = .error e ∨ ∃ a db', body db = .ok (a, db') ∧ after a = .error e := by
  unfold transaction at h
  cases hbody : body db with
  | error e' =>
      rw [hbody] at h
      exact .inl (by rw [show e' = e from Except.error.inj h])
  | ok p =>
      rw [hbody] at h
      exact .inr ⟨p.1, p.2, rfl, h⟩

theorem guarded_error {α : Type} {check : Except PyError Unit} {rest : Except PyError α × Db}
    (h : (guarded check db rest).1 = .error e) : check = .error e ∨ rest.1 = .error e := by
  cases check with
  | error e' => exact .inl (congrArg Except.error (Except.error.inj h))
  | ok u => exact .inr h

/-- What an operation can raise that is not a divergence of two rows. -/
def isOrdinary : PyError → Bool
  | .valueError _ => true
  | e => isDatabaseError e

theorem isOrdinary_of_database (h : isDatabaseError e = true) : isOrdinary e = true := by
  cases e <;> first | rfl | exact h

/-- An update of both rows under one guard finds them in one state. -/
theorem updateBoth_ordinary (hs : s.Coherent) (hrep : Represents db s) {attemptId : UUID}
    {expected : List ExecutionAttemptState} {condition : AttemptRow → Bool}
    {set : AttemptRow → AttemptRow} {processingCondition : ProcessingRow → Bool}
    {processingSet : ProcessingRow → ProcessingRow} {diverged : String} {text : List String}
    (hcondition : ∀ a : AttemptFields, condition a.row = true → a.state ∈ expected)
    (hprocessing : ∀ (p : ProcessingFields), ∀ state ∈ expected,
      p.state = state.processingState → processingCondition p.row = true)
    (hset : ∀ row : AttemptRow, (set row).processingId = row.processingId)
    (h : updateBoth d attemptId condition set processingCondition processingSet diverged text db
      = .error e) : isOrdinary e = true := by
  refine isOrdinary_of_database (updateBoth_error hs hrep hset (fun k entry a he ha hmatch => ?_) h)
  obtain ⟨q, b, -, hserves⟩ := (hs.entry k entry he).executing ha
  exact hprocessing _ _ (hcondition a hmatch) hserves.state

theorem isOrdinary_of_value {message : String} (h : e = .valueError message) :
    isOrdinary e = true := by
  rw [h]
  rfl

theorem decodeAttempt_ordinary {a : AttemptFields} (hdurable : a.durable = a)
    (h : decodeAttempt (some a.row) = .error e) : isOrdinary e = true := by
  simp only [decodeAttempt, Functor.map, Except.map] at h
  cases hrow : deserializeAttempt a.row with
  | error e' =>
      rw [hrow] at h
      cases h
      exact isOrdinary_of_value (deserializeAttempt_error hdurable hrow).choose_spec
  | ok x => simp [hrow] at h

theorem decodeProcessing_ordinary {entry : Entry} (hcoherent : entry.Coherent)
    (h : decodeProcessing (some entry.processing.row) = .error e) : isOrdinary e = true := by
  simp only [decodeProcessing, Functor.map, Except.map] at h
  cases hrow : deserializeProcessing entry.processing.row with
  | error e' =>
      rw [hrow] at h
      cases h
      exact isOrdinary_of_value (deserializeProcessing_error hcoherent hrow).choose_spec
  | ok x => simp [hrow] at h

/-- What an operation goes on to do with the rows it has moved, it does with a coherent entry's. -/
theorem move_ordinary (now : Int) (hs : s.Coherent) (hfits : s.Fits c) {attemptId : UUID}
    {expected : List ExecutionAttemptState} {attemptMove : AttemptFields → AttemptFields}
    {processingMove : ProcessingFields → ProcessingFields}
    {updated : Option (AttemptRow × ProcessingRow)}
    (hadvance : ∀ e : Entry, e.advance now c = e.move attemptId expected attemptMove processingMove)
    (hspec : (updated = none ∧ db' = db ∧
        ∀ k e, s k = some e → e.move attemptId expected attemptMove processingMove = none) ∨
      ∃ k e e' a', s k = some e ∧ e.move attemptId expected attemptMove processingMove = some e' ∧
        e'.attempt = some a' ∧ updated = some (a'.row, e'.processing.row) ∧
        Represents db' (Function.update s k (some e')))
    (hnone : updated = none → isOrdinary e = true)
    (hsome : ∀ (entry : Entry) (a : AttemptFields), entry.Coherent → a.durable = a →
      updated = some (a.row, entry.processing.row) → isOrdinary e = true) :
    isOrdinary e = true := by
  rcases hspec with ⟨hupdated, -, -⟩ | ⟨k, entry, entry', a', he, hmove, ha', hupdated, -⟩
  · exact hnone hupdated
  · have hmoved := (hadvance entry).trans hmove
    have hcoherent := Entry.advance_coherent (hs.entry k entry he)
      (hfits k entry he (Entry.concerns_of_advance hmoved)) hmoved
    exact hsome entry' a' hcoherent (by simpa [ha'] using hcoherent.attemptDurable) hupdated

theorem row_state_value {p : ProcessingFields} {state : ExecutionAttemptState}
    (hp : p.state = state.processingState) : p.row.state = state.value := by
  rw [ProcessingFields.row_state, hp, ExecutionAttemptState.value_processingState]

/-- Rows in one state stand under one guard. -/
theorem guard_eq {p : ProcessingFields} {state expected : ExecutionAttemptState}
    (hstate : state ∈ [expected]) (hp : p.state = state.processingState) :
    decide (p.row.state = expected.value) = true := by
  rw [row_state_value hp, List.mem_singleton.mp hstate]
  exact decide_eq_true rfl

theorem claimAttemptForSubmission_ordinary (hs : s.Coherent) (hrep : Represents db s)
    {attemptId : UUID} (h : (claimAttemptForSubmission d attemptId now db).1 = .error e) :
    isOrdinary e = true := by
  have hfits : s.Fits (.claimAttemptForSubmission attemptId) := fun _ _ _ _ => trivial
  replace h := transaction_error h
  rcases h with h | ⟨updated, db', hbody, h⟩
  · refine updateBoth_ordinary hs hrep (fun a => (state_eq_iff a .planned).mp) ?_ ?_ h
    · exact fun p state hstate hp => guard_eq hstate hp
    · exact fun _ => rfl
  · refine move_ordinary now hs hfits (fun _ => rfl)
      (updateBoth_spec hs hrep (state_eq_iff · .planned) ?_ ?_ hbody) ?_ ?_
    · exact fun a => ⟨attempt_claim_row a now, rfl, rfl⟩
    · exact fun _ e _ _ _ _ => ⟨claim_row e.processing now, rfl⟩
    · rintro rfl
      cases h
    · rintro _ _ - hdurable rfl
      exact decodeAttempt_ordinary hdurable h

theorem markAttemptSubmitted_ordinary (hs : s.Coherent) (hrep : Represents db s)
    {attemptId : UUID} {externalOperationId : String}
    (h : (markAttemptSubmitted d attemptId externalOperationId now db).1 = .error e) :
    isOrdinary e = true := by
  have hfits : s.Fits (.markAttemptSubmitted attemptId externalOperationId) :=
    fun _ _ _ _ => trivial
  replace h := transaction_error h
  rcases h with h | ⟨updated, db', hbody, h⟩
  · simp only [bind_eq_error_iff, bindText_eq_ok_iff] at h
    rcases h with h | ⟨_, _, ⟨-, rfl⟩, h⟩
    · exact isOrdinary_of_database (bindText_error h)
    refine updateBoth_ordinary hs hrep (fun a => (state_eq_iff a .submitting).mp) ?_ ?_ h
    · exact fun p state hstate hp => guard_eq hstate hp
    · exact fun _ => rfl
  · simp only [bind_eq_ok_iff, bindText_eq_ok_iff] at hbody
    obtain ⟨_, _, ⟨-, rfl⟩, hbody⟩ := hbody
    refine move_ordinary now hs hfits (fun _ => rfl)
      (updateBoth_spec hs hrep (state_eq_iff · .submitting) ?_ ?_ hbody) ?_ ?_
    · exact fun a => ⟨attempt_markSubmitted_row a now _, rfl, rfl⟩
    · exact fun _ e _ _ _ _ => ⟨markSubmitted_row e.processing now, rfl⟩
    · rintro rfl
      cases h
    · rintro _ _ - hdurable rfl
      exact decodeAttempt_ordinary hdurable h

theorem validatePollError_ordinary {category detail : Option String}
    (h : validatePollError category detail = .error e) : isOrdinary e = true := by
  unfold validatePollError at h
  split at h
  · cases h
  · exact isOrdinary_of_value (checks_error h).choose_spec
  · cases h
    rfl

theorem recordPoll_ordinary (hs : s.Coherent) (hrep : Represents db s) {attemptId : UUID}
    {remoteState : String} {category detail : Option String}
    (h : (recordPoll d attemptId remoteState category detail now db).1 = .error e) :
    isOrdinary e = true := by
  have hfits : s.Fits (.recordPoll attemptId remoteState category detail) := fun _ _ _ _ => trivial
  replace h := guarded_error h
  rcases h with h | h
  · exact validatePollError_ordinary h
  replace h := transaction_error h
  rcases h with h | ⟨updated, db', hbody, h⟩
  · simp only [bind_eq_error_iff, bindText_eq_ok_iff] at h
    rcases h with h | ⟨_, _, ⟨-, rfl⟩, h⟩
    · exact isOrdinary_of_database (bindText_error h)
    refine updateBoth_ordinary hs hrep (fun a => (state_eq_iff a .submitted).mp) ?_ ?_ h
    · exact fun p state hstate hp => guard_eq hstate hp
    · exact fun _ => rfl
  · simp only [bind_eq_ok_iff, bindText_eq_ok_iff] at hbody
    obtain ⟨_, _, ⟨-, rfl⟩, hbody⟩ := hbody
    refine move_ordinary now hs hfits (fun _ => rfl)
      (updateBoth_spec hs hrep (state_eq_iff · .submitted) ?_ ?_ hbody) ?_ ?_
    · exact fun a => ⟨attempt_recordPoll_row a now _ _ _, rfl, rfl⟩
    · exact fun _ e _ _ _ _ => ⟨recordPoll_row e.processing now _ _, rfl⟩
    · rintro rfl
      cases h
    · rintro _ _ - hdurable rfl
      exact decodeAttempt_ordinary hdurable h

theorem markRecoveryRequired_ordinary (hs : s.Coherent) (hrep : Represents db s)
    {attemptId : UUID} {expected : List ExecutionAttemptState} {category detail : String}
    (hfits : s.Fits (.markRecoveryRequired attemptId expected category detail))
    (h : (markRecoveryRequired d attemptId expected category detail now db).1 = .error e) :
    isOrdinary e = true := by
  have hcontains : ∀ state : ExecutionAttemptState,
      (expected.map ExecutionAttemptState.value).contains state.value = true ↔ state ∈ expected :=
    fun state => by
      rw [List.contains_iff_mem, List.mem_map_of_injective ExecutionAttemptState.value_injective]
  replace h := guarded_error h
  rcases h with h | h
  · simp only [bind, Except.bind] at h
    split at h
    · next hvalid =>
      cases h
      exact isOrdinary_of_value (checks_error hvalid).choose_spec
    · exact isOrdinary_of_value (checks_error h).choose_spec
  replace h := transaction_error h
  rcases h with h | ⟨updated, db', hbody, h⟩
  · simp only [bind_eq_error_iff, bindText_eq_ok_iff] at h
    rcases h with h | ⟨_, _, ⟨-, rfl⟩, h⟩
    · exact isOrdinary_of_database (bindText_error h)
    refine updateBoth_ordinary hs hrep (fun a => (hcontains a.state).mp) ?_ ?_ h
    · intro p state hstate hp
      rw [row_state_value hp]
      exact (hcontains state).mpr hstate
    · exact fun _ => rfl
  · simp only [bind_eq_ok_iff, bindText_eq_ok_iff] at hbody
    obtain ⟨_, _, ⟨-, rfl⟩, hbody⟩ := hbody
    refine move_ordinary now hs hfits (fun _ => rfl)
      (updateBoth_spec hs hrep (fun a => hcontains a.state) ?_ ?_ hbody) ?_ ?_
    · exact fun a => ⟨attempt_markRecoveryRequired_row a _ _, rfl, rfl⟩
    · exact fun _ e _ _ _ _ => ⟨markRecoveryRequired_row e.processing now _ _, rfl⟩
    · rintro rfl
      cases h
    · rintro _ _ hcoherent - rfl
      exact decodeProcessing_ordinary hcoherent h

theorem completeProcessing_ordinary (hs : s.Coherent) (hrep : Represents db s) {attemptId : UUID}
    {result : OrchestrationResult} (hfits : s.Fits (.completeProcessing attemptId result))
    (h : (completeProcessing d attemptId result now db).1 = .error e) : isOrdinary e = true := by
  unfold completeProcessing at h
  split at h
  · next x houtcome hresult =>
    replace h := transaction_error h
    rcases h with h | ⟨updated, db', hbody, h⟩
    · refine updateBoth_ordinary hs hrep (fun a => (state_eq_iff a .submitted).mp) ?_ ?_ h
      · exact fun p state hstate hp => guard_eq hstate hp
      · exact fun _ => rfl
    · refine move_ordinary now hs hfits (fun _ => rfl)
        (updateBoth_spec hs hrep (state_eq_iff · .submitted) ?_ ?_ hbody) ?_ ?_
      · exact fun a => ⟨attempt_complete_row a now, rfl, rfl⟩
      · intro k e a he ha hid
        refine ⟨?_, rfl⟩
        obtain ⟨hdecision, hincident, hrequest⟩ := hfits k e he (by
          simp [RepositoryCall.Concerns, ha, hid])
        exact complete_row hresult hdecision hrequest
      · rintro rfl
        cases h
      · rintro entry a hcoherent - rfl
        simp only [bind, Except.bind] at h
        cases hrow : deserializeProcessing entry.processing.row with
        | error e' =>
            simp only [hrow, Except.error.injEq] at h
            rw [← h]
            exact isOrdinary_of_value (deserializeProcessing_error hcoherent hrow).choose_spec
        | ok y =>
            simp only [hrow] at h
            split at h
            · cases h
              rfl
            · cases h
  · cases h
    rfl

/-- **The two rows of a coherent store do not diverge.** An operation that moves both of them may
fail a check, a constraint or a binding, and raises nothing else. -/
theorem exec_ordinary (hs : s.Coherent) (hrep : Represents db s) (hfits : s.Fits c)
    (hmoves : movesBoth c = true) (h : (exec d now c db).1 = .error e) : isOrdinary e = true := by
  cases c <;> simp only [movesBoth, Bool.false_eq_true] at hmoves
  case claimAttemptForSubmission => exact claimAttemptForSubmission_ordinary hs hrep h
  case markAttemptSubmitted => exact markAttemptSubmitted_ordinary hs hrep h
  case recordPoll => exact recordPoll_ordinary hs hrep h
  case completeProcessing => exact completeProcessing_ordinary hs hrep hfits h
  case markRecoveryRequired => exact markRecoveryRequired_ordinary hs hrep hfits h

end Divergence

end Postgres

end Alert2IR
