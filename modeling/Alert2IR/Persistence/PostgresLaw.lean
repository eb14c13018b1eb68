import Alert2IR.Persistence.Representation

/-!
# The PostgreSQL repository keeps the law of a repository

Each operation, run on tables that represent a coherent store, answers and changes them as the law
allows, whether it returns or raises.
-/

namespace Alert2IR

namespace Postgres

variable {d : Dialect} {now : Int} {db db' : Db} {s : Store} {c : RepositoryCall}

theorem transaction_cases {α β : Type} {body : Tx α} {after : α → Except PyError β}
    {r : Except PyError β} (h : transaction body after db = (r, db')) :
    (∃ e, r = .error e ∧ db' = db) ∨ ∃ a, body db = .ok (a, db') ∧ r = after a := by
  unfold transaction at h
  cases hbody : body db with
  | error e =>
      simp only [hbody, Prod.mk.injEq] at h
      exact .inl ⟨e, h.1.symm, h.2.symm⟩
  | ok p =>
      simp only [hbody, Prod.mk.injEq] at h
      obtain ⟨rfl, rfl⟩ := h
      exact .inr ⟨p.1, rfl, rfl⟩

theorem guarded_cases {α : Type} {check : Except PyError Unit} {rest : Except PyError α × Db}
    {r : Except PyError α} (h : guarded check db rest = (r, db')) :
    (∃ e, r = .error e ∧ db' = db) ∨ (check = .ok () ∧ rest = (r, db')) := by
  cases check with
  | error e =>
      simp only [guarded, Prod.mk.injEq] at h
      exact .inl ⟨e, h.1.symm, h.2.symm⟩
  | ok u => exact .inr ⟨rfl, h⟩

theorem deserializeProcessing_row {e : Entry} (h : e.Coherent) {r : ProcessingRecord}
    (hr : deserializeProcessing e.processing.row = .ok r) :
    r.toProcessingFields = e.processing := by
  simp only [deserializeProcessing, deserializeFields_row h, bind, Except.bind] at hr
  exact ProcessingRecord.make_eq_ok_iff.mp hr

theorem deserializeAttempt_row {a : AttemptFields} (h : a.durable = a) {x : ExecutionAttempt}
    (hx : deserializeAttempt a.row = .ok x) : x.toAttemptFields = a := by
  simp only [deserializeAttempt, deserializeAttemptFields_row h, bind, Except.bind] at hx
  exact ExecutionAttempt.make_eq_ok_iff.mp hx

theorem decodeProcessing_row {e : Entry} (h : e.Coherent) {x : Option ProcessingRecord}
    (hx : decodeProcessing (some e.processing.row) = .ok x) :
    ∃ r : ProcessingRecord, x = some r ∧ r.toProcessingFields = e.processing := by
  simp only [decodeProcessing] at hx
  cases hrow : deserializeProcessing e.processing.row with
  | error _ => simp [hrow, Functor.map, Except.map] at hx
  | ok r =>
      simp only [hrow, Functor.map, Except.map, Except.ok.injEq] at hx
      exact ⟨r, hx.symm, deserializeProcessing_row h hrow⟩

theorem decodeAttempt_row {a : AttemptFields} (h : a.durable = a) {x : Option ExecutionAttempt}
    (hx : decodeAttempt (some a.row) = .ok x) :
    ∃ y : ExecutionAttempt, x = some y ∧ y.toAttemptFields = a := by
  simp only [decodeAttempt] at hx
  cases hrow : deserializeAttempt a.row with
  | error _ => simp [hrow, Functor.map, Except.map] at hx
  | ok y =>
      simp only [hrow, Functor.map, Except.map, Except.ok.injEq] at hx
      exact ⟨y, hx.symm, deserializeAttempt_row h hrow⟩

theorem decodePlan_row {e : Entry} {a : AttemptFields} (h : e.Coherent) (ha : a.durable = a)
    {x : Option PlannedProcessing} (hx : decodePlan (some (e.processing.row, a.row)) = .ok x) :
    ∃ y : PlannedProcessing, x = some y ∧ y.record.toProcessingFields = e.processing ∧
      y.attempt.toAttemptFields = a := by
  simp only [decodePlan, bind, Except.bind] at hx
  cases hrow : deserializeProcessing e.processing.row with
  | error _ => simp [hrow] at hx
  | ok r =>
      cases hrow' : deserializeAttempt a.row with
      | error _ => simp [hrow, hrow'] at hx
      | ok y =>
          simp only [hrow, hrow', pure, Except.pure, Except.ok.injEq] at hx
          exact ⟨⟨r, y⟩, hx.symm, deserializeProcessing_row h hrow, deserializeAttempt_row ha hrow'⟩

/-! ### Reads -/

/-- A call that raises before its commit keeps the law. -/
theorem lawful_of_rollback {r : Except PyError c.Result} (hrep : Represents db s)
    (h : ∃ e, r = .error e ∧ db' = db) : ∃ s', Represents db' s' ∧ s.Lawful now c r s' := by
  obtain ⟨e, rfl, rfl⟩ := h
  exact ⟨s, hrep, .raised s now c e⟩

/-- A call that leaves the tables alone and reports what they hold. -/
theorem lawful_of_read {r : Except PyError c.Result} (hrep : Represents db s)
    (hreports : ∀ x, r = .ok x → c.Reports s x) (hwrote : ∀ x, r = .ok x → c.wrote x = false)
    (hrefused : ∀ k e, s k = some e → e.advance now c = none)
    (hcomplete : ∀ x, r = .ok x → s.Complete c x) :
    ∃ s', Represents db s' ∧ s.Lawful now c r s' := by
  refine ⟨s, hrep, .inl rfl, hreports, fun x hx htrue => ?_, fun _ _ _ => ⟨rfl, hrefused⟩,
    hcomplete⟩
  rw [hwrote x hx] at htrue
  cases htrue

theorem getRecord_lawful (hs : s.Coherent) (hrep : Represents db s) {processingId : UUID}
    {r : Except PyError (Option ProcessingRecord)}
    (hexec : getRecord processingId db = (r, db')) :
    ∃ s', Represents db' s' ∧ s.Lawful now (.get processingId) r s' := by
  rcases transaction_cases hexec with hraised | ⟨row, hbody, rfl⟩
  · exact lawful_of_rollback hrep hraised
  · simp only [getDb_bind, pure_eq_ok_iff] at hbody
    obtain ⟨rfl, rfl⟩ := hbody
    cases he : s processingId with
    | none =>
        rw [hrep.lookup_none he]
        refine lawful_of_read hrep ?_ (fun _ _ => rfl) (fun _ _ _ => rfl) ?_
        · rintro x ⟨⟩
          exact ⟨by simp [RepositoryCall.records], by simp [RepositoryCall.attempts]⟩
        · intro x _ _
          exact he
    | some e =>
        rw [hrep.lookup_some he]
        refine lawful_of_read hrep ?_ (fun _ _ => rfl) (fun _ _ _ => rfl) ?_
        · intro x hx
          obtain ⟨r, rfl, hr⟩ := decodeProcessing_row (hs.entry _ _ he) hx
          have hid : r.processingId = processingId := by
            rw [hr, hs.id _ _ he]
          refine ⟨?_, by simp [RepositoryCall.attempts]⟩
          simp only [RepositoryCall.records, Option.toList_some, List.mem_singleton]
          rintro _ rfl
          exact ⟨e, by rw [hid, he], by rw [hr, (hs.entry _ _ he).durable], hs.id _ _ he⟩
        · intro x hx hnone
          obtain ⟨r, rfl, -⟩ := decodeProcessing_row (hs.entry _ _ he) hx
          cases hnone

theorem getAttemptForProcessing_lawful (hs : s.Coherent) (hrep : Represents db s)
    {processingId : UUID} {r : Except PyError (Option ExecutionAttempt)}
    (hexec : getAttemptForProcessing processingId db = (r, db')) :
    ∃ s', Represents db' s' ∧ s.Lawful now (.getAttemptForProcessing processingId) r s' := by
  rcases transaction_cases hexec with hraised | ⟨row, hbody, rfl⟩
  · exact lawful_of_rollback hrep hraised
  · simp only [getDb_bind, pure_eq_ok_iff] at hbody
    obtain ⟨rfl, rfl⟩ := hbody
    rw [selectProcessingAttempt_eq hrep hs]
    cases hattempt : (s processingId).bind (·.attempt) with
    | none =>
        refine lawful_of_read hrep ?_ (fun _ _ => rfl) (fun _ _ _ => rfl) ?_
        · rintro x ⟨⟩
          exact ⟨by simp [RepositoryCall.records], by simp [RepositoryCall.attempts]⟩
        · intro x _ _ e he
          simpa [he] using hattempt
    | some a =>
        obtain ⟨e, he, ha⟩ := Option.bind_eq_some_iff.mp hattempt
        obtain ⟨q, b, -, hserves⟩ := (hs.entry _ _ he).executing ha
        have hdurable : a.durable = a := by simpa [ha] using (hs.entry _ _ he).attemptDurable
        refine lawful_of_read hrep ?_ (fun _ _ => rfl) (fun _ _ _ => rfl) ?_
        · intro x hx
          obtain ⟨y, rfl, hy⟩ := decodeAttempt_row hdurable hx
          have hid : y.processingId = processingId := by
            rw [hy, hserves.processing, hs.id _ _ he]
          refine ⟨by simp [RepositoryCall.records], ?_⟩
          simp only [RepositoryCall.attempts, Option.toList_some, List.mem_singleton]
          rintro _ rfl
          exact ⟨e, by rw [hid, he], by rw [hy, hdurable, ha], hs.id _ _ he⟩
        · intro x hx hnone
          obtain ⟨y, rfl, -⟩ := decodeAttempt_row hdurable hx
          cases hnone

/-! ### Operations on an attempt and its processing -/

/-- The update of an attempt is an update of its entry. -/
theorem updateAttempt_spec (hs : s.Coherent) (hrep : Represents db s) {attemptId : UUID}
    {condition : AttemptRow → Bool} {set : AttemptRow → AttemptRow} {updated : Option AttemptRow}
    {move : AttemptFields → AttemptFields}
    (hset : ∀ a : AttemptFields, set a.row = (move a).row)
    (hid : ∀ a : AttemptFields, (move a).attemptId = a.attemptId)
    (hbody : updateAttempt d attemptId condition set db = .ok (updated, db')) :
    (updated = none ∧ db' = db ∧ ∀ k e a, s k = some e → e.attempt = some a →
      a.attemptId = attemptId → condition a.row = false) ∨
    ∃ k e a, s k = some e ∧ e.attempt = some a ∧ a.attemptId = attemptId ∧
      condition a.row = true ∧ updated = some (move a).row ∧
      Represents db' (Function.update s k (some { e with attempt := some (move a) })) := by
  rcases updateAttempt_eq_ok_iff.mp hbody with ⟨rfl, rfl, hnone⟩ |
    ⟨row, hlookup, hrow, -, -, rfl, rfl⟩
  · refine .inl ⟨rfl, rfl, ?_⟩
    rintro k e a he ha rfl
    exact hnone _ (hrep.attempt_lookup he ha)
  · obtain ⟨k, e, a, he, ha, rfl, rfl⟩ := (hrep.attempts _ _).mp hlookup
    have hset := hset a
    have hmoveId := hid a
    refine .inr ⟨k, e, a, he, ha, rfl, hrow, by rw [hset], ?_⟩
    rw [hset, AttemptFields.row_attemptId]
    refine hrep.putAttempt he (fun a' ha' => ?_) fun k' e' hne he' hsame => ?_
    · obtain rfl := Option.some.inj (ha.symm.trans ha')
      exact hmoveId.symm
    · refine hne (hs.attempts k e k' e' he he' (by simp [ha]) ?_).symm
      rw [hsame, ha, hmoveId]
      rfl

/-- The update of a processing is an update of its entry. -/
theorem updateProcessing_spec (hrep : Represents db s) {k : UUID}
    (hid : ∀ e, s k = some e → e.processing.processingId = k) {condition : ProcessingRow → Bool}
    {set : ProcessingRow → ProcessingRow} {updated : Option ProcessingRow}
    {move : ProcessingFields → ProcessingFields}
    (hset : ∀ e, s k = some e → condition e.processing.row = true →
      set e.processing.row = (move e.processing).row ∧
        (move e.processing).processingId = e.processing.processingId)
    (hbody : updateProcessing d k condition set db = .ok (updated, db')) :
    (updated = none ∧ db' = db ∧ ∀ e, s k = some e → condition e.processing.row = false) ∨
    ∃ e, s k = some e ∧ condition e.processing.row = true ∧
      updated = some (move e.processing).row ∧
      Represents db' (Function.update s k (some { e with processing := move e.processing })) := by
  rcases updateProcessing_eq_ok_iff.mp hbody with ⟨rfl, rfl, hnone⟩ |
    ⟨row, hlookup, hrow, -, rfl, rfl⟩
  · exact .inl ⟨rfl, rfl, fun e he => hnone _ (hrep.lookup_some he)⟩
  · rw [hrep.processings, Option.map_eq_some_iff] at hlookup
    obtain ⟨e, he, rfl⟩ := hlookup
    obtain ⟨hset, hmoveId⟩ := hset e he hrow
    have hput := hrep.putProcessing (hmoveId.trans (hid e he))
    refine .inr ⟨e, he, hrow, by rw [hset], ?_⟩
    rw [hset, ProcessingFields.row_id, hmoveId, hid e he]
    simpa [he] using hput

/-- The two updates are one move of an entry. -/
theorem updateBoth_spec (hs : s.Coherent) (hrep : Represents db s) {attemptId : UUID}
    {condition : AttemptRow → Bool} {set : AttemptRow → AttemptRow}
    {processingCondition : ProcessingRow → Bool} {processingSet : ProcessingRow → ProcessingRow}
    {diverged : String} {text : List String} {updated : Option (AttemptRow × ProcessingRow)}
    {expected : List ExecutionAttemptState} {attemptMove : AttemptFields → AttemptFields}
    {processingMove : ProcessingFields → ProcessingFields}
    (hcondition : ∀ a : AttemptFields, condition a.row = true ↔ a.state ∈ expected)
    (hset : ∀ a : AttemptFields, set a.row = (attemptMove a).row ∧
      (attemptMove a).attemptId = a.attemptId ∧ (attemptMove a).processingId = a.processingId)
    (hprocessingSet : ∀ k e a, s k = some e → e.attempt = some a → a.attemptId = attemptId →
      processingSet e.processing.row = (processingMove e.processing).row ∧
        (processingMove e.processing).processingId = e.processing.processingId)
    (hbody : updateBoth d attemptId condition set processingCondition processingSet diverged text db
      = .ok (updated, db')) :
    (updated = none ∧ db' = db ∧
      ∀ k e, s k = some e → e.move attemptId expected attemptMove processingMove = none) ∨
    ∃ k e e' a', s k = some e ∧ e.move attemptId expected attemptMove processingMove = some e' ∧
      e'.attempt = some a' ∧ updated = some (a'.row, e'.processing.row) ∧
      Represents db' (Function.update s k (some e')) := by
  unfold updateBoth at hbody
  rw [bind_eq_ok_iff] at hbody
  obtain ⟨attempt, db₁, hattempt, hrest⟩ := hbody
  rcases updateAttempt_spec hs hrep (fun a => (hset a).1) (fun a => (hset a).2.1) hattempt with
    ⟨rfl, rfl, hnone⟩ | ⟨k, e, a, he, ha, rfl, hrow, rfl, hrep₁⟩
  · simp only [pure_eq_ok_iff] at hrest
    obtain ⟨rfl, rfl⟩ := hrest
    refine .inl ⟨rfl, rfl, fun k e he => ?_⟩
    rw [Option.eq_none_iff_forall_ne_some]
    intro e' hmove
    obtain ⟨a, ha, hid, hexpected, -⟩ := Entry.move_eq_some_iff.mp hmove
    have hfalse := hnone k e a he ha hid
    rw [(hcondition a).mpr hexpected] at hfalse
    cases hfalse
  · have hmove : e.move a.attemptId expected attemptMove processingMove
        = some ⟨processingMove e.processing, some (attemptMove a)⟩ :=
      Entry.move_eq_some_iff.mpr ⟨a, ha, rfl, (hcondition a).mp hrow, rfl⟩
    obtain ⟨q, b, -, hserves⟩ := (hs.entry _ _ he).executing ha
    have hk : (attemptMove a).row.processingId = k := by
      rw [AttemptFields.row_processingId, (hset a).2.2, hserves.processing, hs.id _ _ he]
    simp only [bind_eq_ok_iff, bindText_eq_ok_iff, hk] at hrest
    obtain ⟨_, _, ⟨-, rfl⟩, processing, db₂, hprocessing, hrest⟩ := hrest
    have hself : ∀ e₁, Function.update s k (some { e with attempt := some (attemptMove a) }) k
        = some e₁ → e₁ = { e with attempt := some (attemptMove a) } := by
      intro e₁ he₁
      rw [Function.update_self, Option.some.injEq] at he₁
      exact he₁.symm
    rcases updateProcessing_spec hrep₁ (fun e₁ he₁ => by rw [hself e₁ he₁, hs.id _ _ he])
        (fun e₁ he₁ _ => by rw [hself e₁ he₁]; exact hprocessingSet k e a he ha rfl)
        hprocessing with ⟨rfl, -, -⟩ | ⟨e₁, he₁, -, rfl, hrep₂⟩
    · simp at hrest
    · simp only [pure_eq_ok_iff] at hrest
      obtain ⟨rfl, rfl⟩ := hrest
      rw [Function.update_idem] at hrep₂
      obtain rfl := hself e₁ he₁
      exact .inr ⟨k, e, _, attemptMove a, he, hmove, rfl, rfl, hrep₂⟩

/-- An operation that is the move of an entry, and decodes a row it has written, keeps the law. -/
theorem lawful_of_move (hs : s.Coherent) (hrep : Represents db s) (hfits : s.Fits c)
    {attemptId : UUID} {expected : List ExecutionAttemptState}
    {attemptMove : AttemptFields → AttemptFields}
    {processingMove : ProcessingFields → ProcessingFields}
    {updated : Option (AttemptRow × ProcessingRow)} {r : Except PyError c.Result}
    (hadvance : ∀ e : Entry, e.advance now c = e.move attemptId expected attemptMove processingMove)
    (hconcerns : ∀ e : Entry, e.attempt.map (·.attemptId) = some attemptId → c.Concerns e)
    (hkeeps : ∀ a, (attemptMove a).attemptId = a.attemptId) (hfresh : s.FreshPlan c)
    (hcomplete : ∀ x, s.Complete c x)
    (hspec : (updated = none ∧ db' = db ∧
        ∀ k e, s k = some e → e.move attemptId expected attemptMove processingMove = none) ∨
      ∃ k e e' a', s k = some e ∧ e.move attemptId expected attemptMove processingMove = some e' ∧
        e'.attempt = some a' ∧ updated = some (a'.row, e'.processing.row) ∧
        Represents db' (Function.update s k (some e')))
    (hnone : updated = none → ∀ x, r = .ok x →
      c.records x = [] ∧ c.attempts x = [] ∧ c.wrote x = false)
    (hsome : ∀ (e : Entry) a, e.Coherent → a.durable = a →
      updated = some (a.row, e.processing.row) → ∀ x, r = .ok x → c.wrote x = true ∧
        (∀ y ∈ c.records x, y.toProcessingFields = e.processing) ∧
        ∀ y ∈ c.attempts x, y.toAttemptFields = a) :
    ∃ s', Represents db' s' ∧ s.Lawful now c r s' := by
  rcases hspec with ⟨hupdated, rfl, hrefused⟩ | ⟨k, e, e', a', he, hmove, ha', hupdated, hrep'⟩
  · refine lawful_of_read hrep (fun x hx => ?_) (fun x hx => (hnone hupdated x hx).2.2)
      (fun k e he => ?_) fun x _ => hcomplete x
    · obtain ⟨hrecords, hattempts, -⟩ := hnone hupdated x hx
      exact ⟨by simp [hrecords], by simp [hattempts]⟩
    · rw [hadvance]
      exact hrefused k e he
  · have hmoves : s.Moves now c (Function.update s k (some e')) :=
      .advance he ((hadvance e).trans hmove) hfresh
    have hs' := hmoves.coherent hs hfits
    have hself : Function.update s k (some e') k = some e' := by simp
    have hentry := hs'.entry k e' hself
    have hdurable : a'.durable = a' := by simpa [ha'] using hentry.attemptDurable
    have hconcerned : c.Concerns e' := by
      obtain ⟨a, -, rfl, -, rfl⟩ := Entry.move_eq_some_iff.mp hmove
      exact hconcerns _ (by simp [hkeeps])
    refine ⟨_, hrep', .inr hmoves, fun x hx => ?_, fun _ _ _ => hmoves, fun x hx hfalse => ?_,
      fun x _ => hcomplete x⟩
    · obtain ⟨-, hrecords, hattempts⟩ := hsome e' a' hentry hdurable hupdated x hx
      constructor
      · intro y hy
        have hid : y.processingId = k := by rw [hrecords y hy, hs'.id k e' hself]
        exact ⟨e', by rw [hid, hself], by rw [hrecords y hy, hentry.durable], hconcerned⟩
      · intro y hy
        obtain ⟨q, b, -, hserves⟩ := hentry.executing ha'
        have hid : y.processingId = k := by
          rw [hattempts y hy, hserves.processing, hs'.id k e' hself]
        exact ⟨e', by rw [hid, hself], by rw [hattempts y hy, hdurable, ha'], hconcerned⟩
    · rw [(hsome e' a' hentry hdurable hupdated x hx).1] at hfalse
      cases hfalse

theorem state_eq_iff (a : AttemptFields) (state : ExecutionAttemptState) :
    decide (a.row.state = state.value) = true ↔ a.state ∈ [state] := by
  rw [decide_eq_true_iff, AttemptFields.row_state, ExecutionAttemptState.value_injective.eq_iff,
    List.mem_singleton]

theorem claimAttemptForSubmission_lawful (hs : s.Coherent) (hrep : Represents db s)
    {attemptId : UUID} {r : Except PyError (Option ExecutionAttempt)}
    (hexec : claimAttemptForSubmission d attemptId now db = (r, db')) :
    ∃ s', Represents db' s' ∧ s.Lawful now (.claimAttemptForSubmission attemptId) r s' := by
  have hfits : s.Fits (.claimAttemptForSubmission attemptId) := fun _ _ _ _ => trivial
  rcases transaction_cases hexec with hraised | ⟨updated, hbody, rfl⟩
  · exact lawful_of_rollback hrep hraised
  · refine lawful_of_move hs hrep hfits (fun _ => rfl) (fun _ h => h) ?_ trivial (fun _ => trivial)
      (updateBoth_spec hs hrep (state_eq_iff · .planned) ?_ ?_ hbody) ?_ ?_
    · exact fun _ => rfl
    · exact fun a => ⟨attempt_claim_row a now, rfl, rfl⟩
    · exact fun _ e _ _ _ _ => ⟨claim_row e.processing now, rfl⟩
    · rintro rfl x hx
      cases hx
      exact ⟨rfl, rfl, rfl⟩
    · rintro e a - hdurable rfl x hx
      obtain ⟨y, rfl, hy⟩ := decodeAttempt_row hdurable hx
      simp [RepositoryCall.wrote, RepositoryCall.records, RepositoryCall.attempts, hy]

theorem markAttemptSubmitted_lawful (hs : s.Coherent) (hrep : Represents db s)
    {attemptId : UUID} {externalOperationId : String}
    {r : Except PyError (Option ExecutionAttempt)}
    (hexec : markAttemptSubmitted d attemptId externalOperationId now db = (r, db')) :
    ∃ s', Represents db' s' ∧
      s.Lawful now (.markAttemptSubmitted attemptId externalOperationId) r s' := by
  have hfits : s.Fits (.markAttemptSubmitted attemptId externalOperationId) :=
    fun _ _ _ _ => trivial
  rcases transaction_cases hexec with hraised | ⟨updated, hbody, rfl⟩
  · exact lawful_of_rollback hrep hraised
  · rw [bind_eq_ok_iff] at hbody
    simp only [bindText_eq_ok_iff] at hbody
    obtain ⟨_, _, ⟨-, rfl⟩, hbody⟩ := hbody
    refine lawful_of_move hs hrep hfits (fun _ => rfl) (fun _ h => h) ?_ trivial (fun _ => trivial)
      (updateBoth_spec hs hrep (state_eq_iff · .submitting) ?_ ?_ hbody) ?_ ?_
    · exact fun _ => rfl
    · exact fun a => ⟨attempt_markSubmitted_row a now _, rfl, rfl⟩
    · exact fun _ e _ _ _ _ => ⟨markSubmitted_row e.processing now, rfl⟩
    · rintro rfl x hx
      cases hx
      exact ⟨rfl, rfl, rfl⟩
    · rintro e a - hdurable rfl x hx
      obtain ⟨y, rfl, hy⟩ := decodeAttempt_row hdurable hx
      simp [RepositoryCall.wrote, RepositoryCall.records, RepositoryCall.attempts, hy]

theorem recordPoll_lawful (hs : s.Coherent) (hrep : Represents db s) {attemptId : UUID}
    {remoteState : String} {category detail : Option String}
    {r : Except PyError (Option ExecutionAttempt)}
    (hexec : recordPoll d attemptId remoteState category detail now db = (r, db')) :
    ∃ s', Represents db' s' ∧
      s.Lawful now (.recordPoll attemptId remoteState category detail) r s' := by
  have hfits : s.Fits (.recordPoll attemptId remoteState category detail) := fun _ _ _ _ => trivial
  rcases guarded_cases hexec with hraised | ⟨-, hexec⟩
  · exact lawful_of_rollback hrep hraised
  rcases transaction_cases hexec with hraised | ⟨updated, hbody, rfl⟩
  · exact lawful_of_rollback hrep hraised
  · rw [bind_eq_ok_iff] at hbody
    simp only [bindText_eq_ok_iff] at hbody
    obtain ⟨_, _, ⟨-, rfl⟩, hbody⟩ := hbody
    refine lawful_of_move hs hrep hfits (fun _ => rfl) (fun _ h => h) ?_ trivial (fun _ => trivial)
      (updateBoth_spec hs hrep (state_eq_iff · .submitted) ?_ ?_ hbody) ?_ ?_
    · exact fun _ => rfl
    · exact fun a => ⟨attempt_recordPoll_row a now _ _ _, rfl, rfl⟩
    · exact fun _ e _ _ _ _ => ⟨recordPoll_row e.processing now _ _, rfl⟩
    · rintro rfl x hx
      cases hx
      exact ⟨rfl, rfl, rfl⟩
    · rintro e a - hdurable rfl x hx
      obtain ⟨y, rfl, hy⟩ := decodeAttempt_row hdurable hx
      simp [RepositoryCall.wrote, RepositoryCall.records, RepositoryCall.attempts, hy]

theorem markRecoveryRequired_lawful (hs : s.Coherent) (hrep : Represents db s) {attemptId : UUID}
    {expected : List ExecutionAttemptState} {category detail : String}
    (hfits : s.Fits (.markRecoveryRequired attemptId expected category detail))
    {r : Except PyError (Option ProcessingRecord)}
    (hexec : markRecoveryRequired d attemptId expected category detail now db = (r, db')) :
    ∃ s', Represents db' s' ∧
      s.Lawful now (.markRecoveryRequired attemptId expected category detail) r s' := by
  rcases guarded_cases hexec with hraised | ⟨-, hexec⟩
  · exact lawful_of_rollback hrep hraised
  rcases transaction_cases hexec with hraised | ⟨updated, hbody, rfl⟩
  · exact lawful_of_rollback hrep hraised
  · rw [bind_eq_ok_iff] at hbody
    simp only [bindText_eq_ok_iff] at hbody
    obtain ⟨_, _, ⟨-, rfl⟩, hbody⟩ := hbody
    refine lawful_of_move hs hrep hfits (fun _ => rfl) (fun _ h => h) ?_ trivial (fun _ => trivial)
      (updateBoth_spec hs hrep ?_ ?_ ?_ hbody) ?_ ?_
    · exact fun _ => rfl
    · intro a
      rw [List.contains_iff_mem, AttemptFields.row_state,
        List.mem_map_of_injective ExecutionAttemptState.value_injective]
    · exact fun a => ⟨attempt_markRecoveryRequired_row a _ _, rfl, rfl⟩
    · exact fun _ e _ _ _ _ => ⟨markRecoveryRequired_row e.processing now _ _, rfl⟩
    · rintro rfl x hx
      cases hx
      exact ⟨rfl, rfl, rfl⟩
    · rintro e a hcoherent - rfl x hx
      obtain ⟨y, rfl, hy⟩ := decodeProcessing_row hcoherent hx
      simp [RepositoryCall.wrote, RepositoryCall.records, RepositoryCall.attempts, hy]

theorem completeProcessing_lawful (hs : s.Coherent) (hrep : Represents db s) {attemptId : UUID}
    {result : OrchestrationResult} (hfits : s.Fits (.completeProcessing attemptId result))
    {r : Except PyError (Option ProcessingRecord)}
    (hexec : completeProcessing d attemptId result now db = (r, db')) :
    ∃ s', Represents db' s' ∧ s.Lawful now (.completeProcessing attemptId result) r s' := by
  unfold completeProcessing at hexec
  split at hexec
  · next x houtcome hresult =>
    rcases transaction_cases hexec with hraised | ⟨updated, hbody, rfl⟩
    · exact lawful_of_rollback hrep hraised
    · refine lawful_of_move hs hrep hfits (fun _ => rfl) (fun _ h => h) ?_ trivial
        (fun _ => trivial) (updateBoth_spec hs hrep (state_eq_iff · .submitted) ?_ ?_ hbody) ?_ ?_
      · exact fun _ => rfl
      · exact fun a => ⟨attempt_complete_row a now, rfl, rfl⟩
      · intro k e a he ha hid
        refine ⟨?_, rfl⟩
        obtain ⟨hdecision, hincident, hrequest⟩ := hfits k e he (by
          simp [RepositoryCall.Concerns, ha, hid])
        exact complete_row hresult hdecision hrequest
      · rintro rfl x hx
        cases hx
        exact ⟨rfl, rfl, rfl⟩
      · rintro e a hcoherent - rfl x hx
        simp only [bind, Except.bind] at hx
        cases hrow : deserializeProcessing e.processing.row with
        | error _ => simp [hrow] at hx
        | ok y =>
            simp only [hrow] at hx
            split at hx
            · cases hx
            · cases hx
              simp [RepositoryCall.wrote, RepositoryCall.records, RepositoryCall.attempts,
                deserializeProcessing_row hcoherent hrow]
  · cases hexec
    exact lawful_of_rollback hrep ⟨_, rfl, rfl⟩

/-! ### Operations on a processing -/

/-- A call that has moved one entry, and whose answer reports it. -/
theorem lawful_of_moved {s' : Store} {r : Except PyError c.Result} {k : UUID} {e' : Entry}
    (hs' : s'.Coherent) (hrep : Represents db' s') (hmoves : s.Moves now c s')
    (hself : s' k = some e') (hconcerns : c.Concerns e')
    (hcomplete : ∀ x, r = .ok x → s.Complete c x)
    (hreports : ∀ x, r = .ok x → c.wrote x = true ∧
      (∀ y ∈ c.records x, y.toProcessingFields = e'.processing) ∧
      ∀ y ∈ c.attempts x, e'.attempt = some y.toAttemptFields) :
    ∃ s', Represents db' s' ∧ s.Lawful now c r s' := by
  have hentry := hs'.entry k e' hself
  refine ⟨s', hrep, .inr hmoves, fun x hx => ?_, fun _ _ _ => hmoves, fun x hx hfalse => ?_,
    hcomplete⟩
  · obtain ⟨-, hrecords, hattempts⟩ := hreports x hx
    constructor
    · intro y hy
      have hid : y.processingId = k := by rw [hrecords y hy, hs'.id k e' hself]
      exact ⟨e', by rw [hid, hself], by rw [hrecords y hy, hentry.durable], hconcerns⟩
    · intro y hy
      have ha' := hattempts y hy
      obtain ⟨q, b, -, hserves⟩ := hentry.executing ha'
      have hid : y.processingId = k := by rw [hserves.processing, hs'.id k e' hself]
      have hdurable := hentry.attemptDurable
      rw [ha', Option.map_some, Option.some.injEq] at hdurable
      exact ⟨e', by rw [hid, hself], by rw [hdurable, ha'], hconcerns⟩
  · rw [(hreports x hx).1] at hfalse
    cases hfalse

theorem state_accepted_iff (p : ProcessingFields) :
    decide (p.row.state = "accepted") = true ↔ p.state = .accepted := by
  have hvalue : "accepted" = ProcessingState.accepted.value := rfl
  rw [decide_eq_true_iff, ProcessingFields.row_state, hvalue,
    ProcessingState.value_injective.eq_iff]

theorem storeNoActionResult_lawful (hs : s.Coherent) (hrep : Represents db s) {processingId : UUID}
    {result : OrchestrationResult} (hfits : s.Fits (.storeNoActionResult processingId result))
    {r : Except PyError (Option ProcessingRecord)}
    (hexec : storeNoActionResult d processingId result now db = (r, db')) :
    ∃ s', Represents db' s' ∧ s.Lawful now (.storeNoActionResult processingId result) r s' := by
  rcases guarded_cases hexec with hraised | ⟨-, hexec⟩
  · exact lawful_of_rollback hrep hraised
  rcases transaction_cases hexec with hraised | ⟨updated, hbody, rfl⟩
  · exact lawful_of_rollback hrep hraised
  rw [bind_eq_ok_iff] at hbody
  simp only [bindText_eq_ok_iff] at hbody
  obtain ⟨_, _, ⟨-, rfl⟩, hbody⟩ := hbody
  have hset : ∀ e, s processingId = some e → decide (e.processing.row.state = "accepted") = true →
      decisionValues result.decision { e.processing.row with
        state := "completed", updatedAt := now, completedAt := some now }
        = (e.processing.storeNoActionResult now result).row := by
    intro e he hstate
    have hid := hs.id _ _ he
    exact storeNoActionResult_row (hfits _ e he hid).1
      ((hs.entry _ _ he).phase.of_accepted ((state_accepted_iff _).mp hstate)).1
  rcases updateProcessing_spec hrep (hs.id _)
    (fun e he hstate => ⟨hset e he hstate, rfl⟩) hbody with
    ⟨rfl, rfl, hrefused⟩ | ⟨e, he, hstate, rfl, hrep'⟩
  · refine lawful_of_read hrep ?_ ?_ (fun k e he => ?_) fun _ _ => trivial
    · rintro x ⟨⟩
      exact ⟨by simp [RepositoryCall.records], by simp [RepositoryCall.attempts]⟩
    · rintro x ⟨⟩
      rfl
    · rw [Entry.advance, if_neg]
      rintro ⟨rfl, hstate⟩
      have hfalse := hrefused e (by rw [hs.id k e he, he])
      rw [(state_accepted_iff _).mpr hstate] at hfalse
      cases hfalse
  · have hid := hs.id _ _ he
    have hmoves : s.Moves now (.storeNoActionResult processingId result) _ :=
      .advance he (by rw [Entry.advance, if_pos ⟨hid, (state_accepted_iff _).mp hstate⟩]) trivial
    have hs' := hmoves.coherent hs hfits
    refine lawful_of_moved hs' hrep' hmoves (Function.update_self ..) hid (fun _ _ => trivial)
      fun x hx => ?_
    obtain ⟨y, rfl, hy⟩ := decodeProcessing_row (hs'.entry _ _ (Function.update_self ..)) hx
    simp [RepositoryCall.wrote, RepositoryCall.records, RepositoryCall.attempts, hy]

theorem failProcessing_lawful (hs : s.Coherent) (hrep : Represents db s) {processingId : UUID}
    {expected : List ProcessingState} {category detail : String} {attemptId : Option UUID}
    (hfits : s.Fits (.failProcessing processingId expected category detail attemptId))
    {r : Except PyError (Option ProcessingRecord)}
    (hexec : failProcessing d processingId expected category detail attemptId now db = (r, db')) :
    ∃ s', Represents db' s' ∧
      s.Lawful now (.failProcessing processingId expected category detail attemptId) r s' := by
  rcases guarded_cases hexec with hraised | ⟨-, hexec⟩
  · exact lawful_of_rollback hrep hraised
  rcases transaction_cases hexec with hraised | ⟨updated, hbody, rfl⟩
  · exact lawful_of_rollback hrep hraised
  rw [bind_eq_ok_iff] at hbody
  simp only [bindText_eq_ok_iff] at hbody
  obtain ⟨_, _, ⟨-, rfl⟩, hbody⟩ := hbody
  have hcondition : ∀ p : ProcessingFields,
      (expected.map ProcessingState.value).contains p.row.state = true ↔ p.state ∈ expected := by
    intro p
    rw [List.contains_iff_mem, ProcessingFields.row_state,
      List.mem_map_of_injective ProcessingState.value_injective]
  cases attemptId with
  | none =>
      simp only [pure_bind, if_true, bind_eq_ok_iff] at hbody
      obtain ⟨row, db₁, hupdate, hrest⟩ := hbody
      simp only [Option.isSome_none, Bool.and_false, Bool.false_eq_true, if_false,
        pure_eq_ok_iff] at hrest
      obtain ⟨rfl, rfl⟩ := hrest
      rcases updateProcessing_spec hrep (hs.id _)
          (fun e _ _ => ⟨fail_row e.processing now _ _, rfl⟩) hupdate with
        ⟨rfl, rfl, hrefused⟩ | ⟨e, he, hstate, rfl, hrep'⟩
      · refine lawful_of_read hrep ?_ ?_ (fun k e he => ?_) fun _ _ => trivial
        · rintro x ⟨⟩
          exact ⟨by simp [RepositoryCall.records], by simp [RepositoryCall.attempts]⟩
        · rintro x ⟨⟩
          rfl
        · rw [Entry.advance, if_neg]
          rintro ⟨rfl, hstate⟩
          have hfalse := hrefused e (by rw [hs.id k e he, he])
          rw [(hcondition _).mpr hstate] at hfalse
          cases hfalse
      · have hid := hs.id _ _ he
        have hmoves : s.Moves now (.failProcessing processingId expected category detail none) _ :=
          .advance he (by rw [Entry.advance, if_pos ⟨hid, (hcondition _).mp hstate⟩]) trivial
        have hs' := hmoves.coherent hs hfits
        refine lawful_of_moved hs' hrep' hmoves (Function.update_self ..) hid (fun _ _ => trivial)
          fun x hx => ?_
        obtain ⟨y, rfl, hy⟩ := decodeProcessing_row (hs'.entry _ _ (Function.update_self ..)) hx
        simp [RepositoryCall.wrote, RepositoryCall.records, RepositoryCall.attempts, hy]
  | some attemptId =>
      have hactive : ∀ a : AttemptFields,
          Schema.activeAttemptStates.contains a.row.state = true ↔
            a.state ∈ ExecutionAttemptState.active := by
        intro a
        rw [AttemptFields.row_state]
        cases a.state <;> decide
      simp only [bind_eq_ok_iff, pure_eq_ok_iff] at hbody
      obtain ⟨attempt, db₁, hattempt, _, _, ⟨rfl, rfl⟩, hrest⟩ := hbody
      rcases updateAttempt_spec hs hrep (attempt_fail_row · now category detail)
          (by intro a; rfl) hattempt with
        ⟨rfl, rfl, hrefused⟩ | ⟨k, e, a, he, ha, rfl, hrow, rfl, hrep₁⟩
      · simp only [Option.isSome_none, Bool.false_eq_true, if_false, pure_eq_ok_iff] at hrest
        obtain ⟨rfl, rfl⟩ := hrest
        refine lawful_of_read hrep ?_ ?_ (fun k e he => ?_) fun _ _ => trivial
        · rintro x ⟨⟩
          exact ⟨by simp [RepositoryCall.records], by simp [RepositoryCall.attempts]⟩
        · rintro x ⟨⟩
          rfl
        · rw [Option.eq_none_iff_forall_ne_some]
          intro e' hadvance
          simp only [Entry.advance, Option.ite_none_right_eq_some, Entry.move_eq_some_iff]
            at hadvance
          obtain ⟨⟨rfl, -⟩, a, ha, hid, hexpected, -⟩ := hadvance
          obtain ⟨q, b, -, hserves⟩ := (hs.entry _ _ he).executing ha
          have hfalse := hrefused k e a he ha hid
          rw [(hactive a).mpr hexpected, Bool.and_true, decide_eq_false_iff_not] at hfalse
          exact hfalse hserves.processing
      · rw [Bool.and_eq_true, decide_eq_true_eq] at hrow
        obtain ⟨q, b, -, hserves⟩ := (hs.entry _ _ he).executing ha
        have hk : processingId = k := by
          rw [← hrow.1, AttemptFields.row_processingId, hserves.processing, hs.id _ _ he]
        subst hk
        have hid := hs.id _ _ he
        have hself : ∀ e₁, Function.update s processingId
            (some { e with attempt := some (a.fail now category detail) }) processingId = some e₁ →
            e₁ = { e with attempt := some (a.fail now category detail) } := by
          intro e₁ he₁
          rw [Function.update_self, Option.some.injEq] at he₁
          exact he₁.symm
        simp only [Option.isSome_some, if_true, bind_eq_ok_iff] at hrest
        obtain ⟨row, db₂, hupdate, hrest⟩ := hrest
        rcases updateProcessing_spec hrep₁ (fun e₁ he₁ => by rw [hself e₁ he₁, hid])
            (fun e _ _ => ⟨fail_row e.processing now _ _, rfl⟩) hupdate with
          ⟨rfl, -, -⟩ | ⟨e₁, he₁, hstate, rfl, hrep₂⟩
        · simp at hrest
        · simp only [Option.isNone_some, Bool.false_and, Bool.false_eq_true, if_false,
            pure_eq_ok_iff] at hrest
          obtain ⟨rfl, rfl⟩ := hrest
          obtain rfl := hself e₁ he₁
          rw [Function.update_idem] at hrep₂
          have hadvance : e.advance now
              (.failProcessing processingId expected category detail (some a.attemptId))
              = some ⟨e.processing.fail now category detail,
                  some (a.fail now category detail)⟩ := by
            simp only [Entry.advance, hid, (hcondition _).mp hstate, true_and, if_true,
              Entry.move_eq_some_iff]
            exact ⟨a, ha, rfl, (hactive a).mp hrow.2, rfl⟩
          have hmoves : s.Moves now
              (.failProcessing processingId expected category detail (some a.attemptId)) _ :=
            .advance he hadvance trivial
          have hs' := hmoves.coherent hs hfits
          refine lawful_of_moved hs' hrep₂ hmoves (Function.update_self ..) hid
            (fun _ _ => trivial) fun x hx => ?_
          obtain ⟨y, rfl, hy⟩ := decodeProcessing_row (hs'.entry _ _ (Function.update_self ..)) hx
          simp [RepositoryCall.wrote, RepositoryCall.records, RepositoryCall.attempts, hy]

theorem insertAttempt_eq_ok {row row' : AttemptRow}
    (h : insertAttempt d row db = .ok (row', db')) :
    row' = row ∧ satisfied (Schema.attemptConstraints d row) = true ∧
      db.attempts.lookup row.attemptId = none ∧
      db' = { db with attempts := db.attempts.insert row.attemptId row } := by
  unfold insertAttempt at h
  rw [bind_eq_ok_iff] at h
  simp only [checkConstraints_eq_ok_iff] at h
  obtain ⟨_, _, ⟨hrow, rfl⟩, h⟩ := h
  rw [getDb_bind] at h
  split at h
  · simp at h
  next hfresh =>
  split at h
  · simp at h
  split at h
  · simp at h
  rw [bind_eq_ok_iff] at h
  simp only [checkActive_eq_ok_iff] at h
  obtain ⟨_, _, ⟨-, rfl⟩, h⟩ := h
  split at h
  · simp at h
  · rw [bind_eq_ok_iff] at h
    simp only [putAttempt_eq_ok_iff, pure_eq_ok_iff] at h
    obtain ⟨_, _, rfl, rfl, rfl⟩ := h
    exact ⟨rfl, hrow, by simpa using hfresh, rfl⟩

theorem storePlan_lawful (hs : s.Coherent) (hrep : Represents db s) {processingId : UUID}
    {decision : Decision} {incident : Incident} {request : InvestigationRequest} {backend : String}
    {attemptId operationKey : UUID}
    (hfits : s.Fits
      (.storePlan processingId decision incident request backend attemptId operationKey))
    {r : Except PyError (Option PlannedProcessing)}
    (hexec : storePlan d processingId decision incident request backend attemptId
      operationKey now db
      = (r, db')) :
    ∃ s', Represents db' s' ∧ s.Lawful now
      (.storePlan processingId decision incident request backend attemptId operationKey) r s' := by
  rcases guarded_cases hexec with hraised | ⟨-, hexec⟩
  · exact lawful_of_rollback hrep hraised
  rcases transaction_cases hexec with hraised | ⟨updated, hbody, rfl⟩
  · exact lawful_of_rollback hrep hraised
  rw [bind_eq_ok_iff] at hbody
  simp only [bindText_eq_ok_iff] at hbody
  obtain ⟨_, _, ⟨-, rfl⟩, hbody⟩ := hbody
  rw [bind_eq_ok_iff] at hbody
  obtain ⟨row, db₁, hupdate, hrest⟩ := hbody
  rcases updateProcessing_spec hrep (hs.id _)
    (fun e he hstate => ⟨@storePlan_row _ decision incident _ _ _
      ((hs.entry _ _ he).phase.of_accepted ((state_accepted_iff _).mp hstate)).1, rfl⟩) hupdate with
    ⟨rfl, rfl, hrefused⟩ | ⟨e, he, hstate, rfl, hrep₁⟩
  · simp only [pure_eq_ok_iff] at hrest
    obtain ⟨rfl, rfl⟩ := hrest
    refine lawful_of_read hrep ?_ ?_ (fun k e he => ?_) fun _ _ => trivial
    · rintro x ⟨⟩
      exact ⟨by simp [RepositoryCall.records], by simp [RepositoryCall.attempts]⟩
    · rintro x ⟨⟩
      rfl
    · rw [Entry.advance, if_neg]
      rintro ⟨rfl, hstate⟩
      have hfalse := hrefused e (by rw [hs.id k e he, he])
      rw [(state_accepted_iff _).mpr hstate] at hfalse
      cases hfalse
  · have hid := hs.id _ _ he
    obtain ⟨hplan, hnone⟩ :=
      (hs.entry _ _ he).phase.of_accepted ((state_accepted_iff _).mp hstate)
    simp only [bind_eq_ok_iff, pure_eq_ok_iff] at hrest
    obtain ⟨attempt, db₂, hinsert, rfl, rfl⟩ := hrest
    rw [plannedAttempt_row] at hinsert
    obtain ⟨rfl, -, hfresh, rfl⟩ := insertAttempt_eq_ok hinsert
    have hfreshPlan : s.FreshPlan
        (.storePlan processingId decision incident request backend attemptId operationKey) := by
      intro k e₁ he₁ hsome
      obtain ⟨a, ha, rfl⟩ := Option.map_eq_some_iff.mp hsome
      have hne : k ≠ processingId := by
        rintro rfl
        obtain rfl := Option.some.inj (he.symm.trans he₁)
        simp [hnone] at ha
      have hlookup := hrep₁.attempt_lookup (by rw [Function.update_of_ne hne, he₁]) ha
      cases hfresh.symm.trans hlookup
    have hput := @Represents.putAttempt _ _ processingId hrep₁ _
      (Entry.plannedAttempt now processingId attemptId operationKey backend)
      (Function.update_self ..) (by simp [hnone]) fun k' e' hne he' => by
        rw [Function.update_of_ne hne] at he'
        exact hfreshPlan k' e' he'
    rw [Function.update_idem] at hput
    have hmoves : s.Moves now
        (.storePlan processingId decision incident request backend attemptId operationKey) _ :=
      .advance he (by rw [Entry.advance, if_pos ⟨hid, (state_accepted_iff _).mp hstate⟩]) hfreshPlan
    have hs' := hmoves.coherent hs hfits
    have hentry := hs'.entry _ _ (Function.update_self ..)
    have hdurable : (Entry.plannedAttempt now processingId attemptId operationKey backend).durable
        = Entry.plannedAttempt now processingId attemptId operationKey backend := by
      simpa using hentry.attemptDurable
    refine lawful_of_moved hs' ?_ hmoves (Function.update_self ..) hid (fun _ _ => trivial)
      fun x hx => ?_
    · exact hput
    · obtain ⟨y, rfl, hy, hz⟩ := decodePlan_row hentry hdurable hx
      simp [RepositoryCall.wrote, RepositoryCall.records, RepositoryCall.attempts, hy, hz]

/-! ### Acceptance and the search -/

theorem insertAccept_eq_ok {row : ProcessingRow} {scope key : String} {inserted : Bool}
    (h : insertAccept d row scope key db = .ok (inserted, db')) :
    (inserted = false ∧ db' = db ∧ (selectIdempotency db scope key).isSome = true) ∨
    (inserted = true ∧ satisfied (Schema.processingConstraints d row) = true ∧
      selectIdempotency db scope key = none ∧ db.processings.lookup row.id = none ∧
      db' = { db with processings := db.processings.insert row.id row }) := by
  unfold insertAccept at h
  rw [bind_eq_ok_iff] at h
  simp only [checkConstraints_eq_ok_iff] at h
  obtain ⟨_, _, ⟨hrow, rfl⟩, h⟩ := h
  rw [getDb_bind] at h
  split at h
  · next hconflict =>
    simp only [pure_eq_ok_iff] at h
    exact .inl ⟨h.1, h.2, hconflict⟩
  next hnone =>
  split at h
  · simp at h
  next hfresh =>
  rw [bind_eq_ok_iff] at h
  simp only [putProcessing_eq_ok_iff, pure_eq_ok_iff] at h
  obtain ⟨_, _, rfl, rfl, rfl⟩ := h
  exact .inr ⟨rfl, hrow, by simpa using hnone, by simpa using hfresh, rfl⟩

theorem acceptProcessing_lawful (hs : s.Coherent) (hrep : Represents db s) {processingId : UUID}
    {alert : CanonicalAlert} {scope key : String} {version : Int} {digest : List UInt8}
    {r : Except PyError ProcessingAcceptance}
    (hexec : acceptProcessing d processingId alert scope key version digest now db = (r, db')) :
    ∃ s', Represents db' s' ∧
      s.Lawful now (.acceptProcessing processingId alert scope key version digest) r s' := by
  rcases transaction_cases hexec with hraised | ⟨⟨row, created⟩, hbody, rfl⟩
  · exact lawful_of_rollback hrep hraised
  rw [bind_eq_ok_iff] at hbody
  simp only [bindText_eq_ok_iff, accepted_row] at hbody
  obtain ⟨_, _, ⟨-, rfl⟩, hbody⟩ := hbody
  rw [bind_eq_ok_iff] at hbody
  obtain ⟨inserted, db₁, hinsert, hrest⟩ := hbody
  have hdecode : ∀ e : Entry, e.Coherent → ∀ x : ProcessingAcceptance,
      (do let record ← deserializeProcessing e.processing.row
          return (⟨record, created⟩ : ProcessingAcceptance)) = .ok x →
      x.record.toProcessingFields = e.processing ∧ x.created = created := by
    intro e he x hx
    cases hrow : deserializeProcessing e.processing.row with
    | error _ => simp [hrow, bind, Except.bind] at hx
    | ok y =>
        simp only [hrow, bind, Except.bind, pure, Except.pure, Except.ok.injEq] at hx
        subst hx
        exact ⟨deserializeProcessing_row he hrow, rfl⟩
  rcases insertAccept_eq_ok hinsert with ⟨rfl, rfl, hconflict⟩ | ⟨rfl, -, hnone, hfresh, rfl⟩
  · simp only [Bool.false_eq_true, if_false, getDb_bind] at hrest
    obtain ⟨row', hselect⟩ := Option.isSome_iff_exists.mp hconflict
    simp only [hselect, pure_eq_ok_iff, Prod.mk.injEq] at hrest
    obtain ⟨⟨rfl, rfl⟩, rfl⟩ := hrest
    obtain ⟨k, e, he, rfl, hidentity⟩ := selectIdempotency_some hrep hselect
    have hentry := hs.entry k e he
    refine lawful_of_read hrep (fun x hx => ?_) (fun x hx => (hdecode e hentry x hx).2)
      (fun _ _ _ => rfl) fun _ _ => trivial
    obtain ⟨hx, -⟩ := hdecode e hentry x hx
    refine ⟨?_, by simp [RepositoryCall.attempts]⟩
    simp only [RepositoryCall.records, List.mem_singleton]
    rintro y rfl
    have hid : x.record.processingId = k := by rw [hx, hs.id k e he]
    exact ⟨e, by rw [hid, he], by rw [hx, hentry.durable], hidentity⟩
  · simp only [if_true, pure_eq_ok_iff, Prod.mk.injEq] at hrest
    obtain ⟨⟨rfl, rfl⟩, rfl⟩ := hrest
    have hnew : s processingId = none := by
      exact Option.map_eq_none_iff.mp ((hrep.processings processingId).symm.trans hfresh)
    have hmoves : s.Moves now (.acceptProcessing processingId alert scope key version digest) _ :=
      .accept hnew fun k e he => selectIdempotency_none hrep hnone he
    have hs' := hmoves.coherent hs fun _ _ _ _ => trivial
    have hentry := hs'.entry _ _ (Function.update_self ..)
    have hput := @Represents.putProcessing _ _ processingId _ hrep
      (rfl : (Entry.accepted now processingId alert scope key version
        digest).processing.processingId
        = processingId)
    refine lawful_of_moved hs' ?_ hmoves (Function.update_self ..) ⟨rfl, rfl⟩
      (fun _ _ => trivial) fun x hx => ?_
    · simp only [hnew, Option.bind_none] at hput
      exact hput
    · obtain ⟨hx, hcreated⟩ := hdecode _ hentry x hx
      simp [RepositoryCall.wrote, RepositoryCall.records, RepositoryCall.attempts, hx, hcreated]

instance : Std.Total precedes where
  total p q := by
    unfold precedes
    have hid := Nat.le_total p.id.toNat q.id.toNat
    rw [BitVec.le_def, BitVec.le_def]
    omega

instance : IsTrans ProcessingRow precedes where
  trans p q r hpq hqr := by
    unfold precedes at *
    rw [BitVec.le_def] at *
    omega

theorem isReconcilable_selects {e : Entry} (h : e.Coherent) (staleBefore : Int) :
    (isReconcilable staleBefore (e.processing.row,
      e.attempt.map AttemptFields.row)).selects = true ↔
      e.Reconcilable staleBefore := by
  unfold isReconcilable Entry.Reconcilable
  simp only [ProcessingFields.row_state]
  cases hattempt : e.attempt with
  | none => cases e.processing.state <;> simp [Schema.isIn, Sql.Truth.selects] <;> decide
  | some a =>
      obtain ⟨q, b, -, hserves⟩ := h.executing hattempt
      have hstate : a.row.state = a.state.value := rfl
      have hstartedAt : a.row.startedAt = a.startedAt.map Datetime.instant := rfl
      simp only [hserves.state, Option.map_some, Option.bind_some, hstate, hstartedAt,
        Option.some.injEq]
      cases hstarted : a.startedAt with
      | none => cases a.state <;> simp [Schema.isIn, Sql.Truth.selects, hstarted] <;> decide
      | some t =>
          have hand : ∀ b : Bool, Sql.Truth.and (some b) (some true) = some b := by decide
          cases a.state <;>
            simp [ExecutionAttemptState.processingState, ExecutionAttemptState.value,
              ProcessingState.value, Schema.isIn, Sql.Truth.selects, hstarted, hand]

theorem mapM_deserializeProcessing (hs : s.Coherent) {rows : List ProcessingRow}
    {xs : List ProcessingRecord}
    (hrows : ∀ row ∈ rows, ∃ k e, s k = some e ∧ row = e.processing.row)
    (h : rows.mapM deserializeProcessing = .ok xs) :
    xs.map (·.processingId) = rows.map (·.id) ∧
      ∀ x ∈ xs, ∃ e, s x.processingId = some e ∧ x.toProcessingFields = e.processing := by
  induction rows generalizing xs with
  | nil =>
      cases h
      simp
  | cons row rows ih =>
      obtain ⟨k, e, he, rfl⟩ := hrows row (by simp)
      rw [List.mapM_cons] at h
      cases hrow : deserializeProcessing e.processing.row with
      | error _ => simp [hrow, bind, Except.bind] at h
      | ok x =>
          cases hrest : rows.mapM deserializeProcessing with
          | error _ => simp [hrow, hrest, bind, Except.bind] at h
          | ok xs' =>
              simp only [hrow, hrest, bind, Except.bind, pure, Except.pure, Except.ok.injEq] at h
              subst h
              have hx := deserializeProcessing_row (hs.entry k e he) hrow
              obtain ⟨hids, hrecords⟩ := ih (fun row hmem => hrows row (by simp [hmem])) hrest
              refine ⟨by simp [hids, hx], ?_⟩
              rintro y (_ | ⟨_, hy⟩)
              · exact ⟨e, by rw [hx, hs.id k e he, he], hx⟩
              · exact hrecords y hy

/-- The rows of the search, before its limit, in their order. -/
theorem reconcilable_rows (hs : s.Coherent) (hrep : Represents db s) (staleBefore : Int) :
    ∃ rows : List ProcessingRow, (rows.map (·.id)).Nodup ∧ rows.Pairwise precedes ∧
      (∀ row, row ∈ rows ↔ ∃ k e, s k = some e ∧ e.Reconcilable staleBefore ∧
        row = e.processing.row) ∧
      ∀ limit, reconcilableRows db limit staleBefore = rows.take limit.toNat := by
  refine ⟨(((joined db).filter fun row => (isReconcilable staleBefore row).selects).map
    Prod.fst).insertionSort precedes, ?_, List.pairwise_insertionSort _ _, ?_, fun _ => rfl⟩
  · have hnodup : (db.processings.rows.map ProcessingRow.id).Nodup := by
      refine Table.nodup_map_rows db.processings _ fun k row k' row' hlookup hlookup' heq => ?_
      rw [hrep.processings, Option.map_eq_some_iff] at hlookup hlookup'
      obtain ⟨e, he, rfl⟩ := hlookup
      obtain ⟨e', he', rfl⟩ := hlookup'
      rw [ProcessingFields.row_id, ProcessingFields.row_id, hs.id k e he, hs.id k' e' he'] at heq
      exact heq
    refine (((List.perm_insertionSort precedes _).map _).nodup_iff).mpr ?_
    rw [joined_eq hrep hs]
    refine List.Nodup.sublist (((List.filter_sublist).map _).map _) ?_
    simpa [Function.comp_def] using hnodup
  · intro row
    rw [(List.perm_insertionSort precedes _).mem_iff, joined_eq hrep hs, List.mem_map]
    simp only [List.mem_filter, List.mem_map, hrep.mem_processings]
    constructor
    · rintro ⟨_, ⟨⟨_, ⟨k, e, he, rfl⟩, rfl⟩, hselects⟩, rfl⟩
      rw [ProcessingFields.row_id, hs.id k e he, he] at hselects
      exact ⟨k, e, he, (isReconcilable_selects (hs.entry k e he) staleBefore).mp hselects, rfl⟩
    · rintro ⟨k, e, he, hreconcilable, rfl⟩
      refine ⟨_, ⟨⟨e.processing.row, ⟨k, e, he, rfl⟩, rfl⟩, ?_⟩, rfl⟩
      rw [ProcessingFields.row_id, hs.id k e he, he]
      exact (isReconcilable_selects (hs.entry k e he) staleBefore).mpr hreconcilable

theorem findReconcilable_lawful (hs : s.Coherent) (hrep : Represents db s) {limit : Int}
    {staleBefore : Datetime} {r : Except PyError (List ProcessingRecord)}
    (hexec : findReconcilable limit staleBefore db = (r, db')) :
    ∃ s', Represents db' s' ∧ s.Lawful now (.findReconcilable limit staleBefore) r s' := by
  rcases guarded_cases hexec with hraised | ⟨-, hexec⟩
  · exact lawful_of_rollback hrep hraised
  rcases transaction_cases hexec with hraised | ⟨rows, hbody, rfl⟩
  · exact lawful_of_rollback hrep hraised
  simp only [getDb_bind, pure_eq_ok_iff] at hbody
  obtain ⟨rfl, rfl⟩ := hbody
  obtain ⟨all, hnodup, hsorted, hmem, htake⟩ := reconcilable_rows hs hrep staleBefore.instant
  rw [htake]
  have hrows : ∀ row ∈ all.take limit.toNat, ∃ k e, s k = some e ∧ row = e.processing.row := by
    intro row hrow
    obtain ⟨k, e, he, -, rfl⟩ := (hmem row).mp (List.mem_of_mem_take hrow)
    exact ⟨k, e, he, rfl⟩
  refine lawful_of_read hrep (fun xs hxs => ?_) (fun _ _ => rfl) (fun _ _ _ => rfl) fun xs hxs => ?_
  · refine ⟨fun y hy => ?_, by simp [RepositoryCall.attempts]⟩
    obtain ⟨e, he, hx⟩ := (mapM_deserializeProcessing hs hrows hxs).2 y hy
    exact ⟨e, he, by rw [hx, (hs.entry _ e he).durable], trivial⟩
  · refine ⟨all.map (·.id), hnodup, ?_, fun k => ?_, ?_⟩
    · rw [List.pairwise_map]
      refine hsorted.imp_of_mem fun {p q} hp hq hprecedes e e' he he' => ?_
      obtain ⟨k, e₁, he₁, -, rfl⟩ := (hmem p).mp hp
      obtain ⟨k', e₁', he₁', -, rfl⟩ := (hmem q).mp hq
      rw [ProcessingFields.row_id, hs.id _ _ he₁] at he ⊢
      rw [ProcessingFields.row_id, hs.id _ _ he₁'] at he' ⊢
      obtain rfl := Option.some.inj (he₁.symm.trans he)
      obtain rfl := Option.some.inj (he₁'.symm.trans he')
      have hids : e₁.processing.row.id = k ∧ e₁'.processing.row.id = k' :=
        ⟨hs.id _ _ he₁, hs.id _ _ he₁'⟩
      simp only [precedes, hids] at hprecedes
      exact hprecedes
    · rw [List.mem_map]
      constructor
      · rintro ⟨row, hrow, rfl⟩
        obtain ⟨k, e, he, hreconcilable, rfl⟩ := (hmem row).mp hrow
        exact ⟨e, by rw [ProcessingFields.row_id, hs.id k e he, he], hreconcilable⟩
      · rintro ⟨e, he, hreconcilable⟩
        exact ⟨_, (hmem _).mpr ⟨k, e, he, hreconcilable, rfl⟩, hs.id k e he⟩
    · rw [(mapM_deserializeProcessing hs hrows hxs).1, List.map_take]

/-! ### The repository -/

/-- **Every call keeps the law**, on tables that represent a coherent store. -/
theorem exec_lawful (hs : s.Coherent) (hrep : Represents db s) (hfits : s.Fits c)
    {r : Except PyError c.Result} (hexec : exec d now c db = (r, db')) :
    ∃ s', Represents db' s' ∧ s.Lawful now c r s' := by
  cases c with
  | acceptProcessing => exact acceptProcessing_lawful hs hrep hexec
  | get => exact getRecord_lawful hs hrep hexec
  | storeNoActionResult => exact storeNoActionResult_lawful hs hrep hfits hexec
  | storePlan => exact storePlan_lawful hs hrep hfits hexec
  | getAttemptForProcessing => exact getAttemptForProcessing_lawful hs hrep hexec
  | claimAttemptForSubmission => exact claimAttemptForSubmission_lawful hs hrep hexec
  | markAttemptSubmitted => exact markAttemptSubmitted_lawful hs hrep hexec
  | recordPoll => exact recordPoll_lawful hs hrep hexec
  | completeProcessing => exact completeProcessing_lawful hs hrep hfits hexec
  | failProcessing => exact failProcessing_lawful hs hrep hfits hexec
  | markRecoveryRequired => exact markRecoveryRequired_lawful hs hrep hfits hexec
  | findReconcilable => exact findReconcilable_lawful hs hrep hexec

/-- A step of the repository is a lawful call, whether the connection holds or not. -/
theorem step_lawful (hs : s.Coherent) (hrep : Represents db s) (hfits : s.Fits c)
    {r : Except PyError c.Result} (hstep : (repository d).step db c r db') :
    ∃ now s', Represents db' s' ∧ s.Lawful now c r s' := by
  obtain ⟨now, hexec | ⟨e, rfl, rfl | rfl⟩⟩ := hstep
  · exact ⟨now, exec_lawful hs hrep hfits hexec⟩
  · exact ⟨now, s, hrep, .raised s now c e⟩
  · obtain ⟨s', hrep', hlawful⟩ := exec_lawful hs hrep hfits (rfl : exec d now c db = (_, _))
    exact ⟨now, s', hrep', hlawful.raisedLate e⟩

/-- **The PostgreSQL repository is lawful.** -/
def lawfulRepository (d : Dialect) : LawfulRepository (repository d) where
  view := view
  Good db := ∃ s, s.Coherent ∧ Represents db s
  good_init := ⟨_, Store.Coherent.empty, .empty⟩
  view_init := Represents.empty.view_eq Store.Coherent.empty
  coherent := by
    rintro db ⟨s, hs, hrep⟩
    rw [hrep.view_eq hs]
    exact hs
  good_step := by
    rintro db c r db' ⟨s, hs, hrep⟩ hfits hstep
    rw [hrep.view_eq hs] at hfits
    obtain ⟨now, s', hrep', hlawful⟩ := step_lawful hs hrep hfits hstep
    exact ⟨s', hlawful.coherent hs hfits, hrep'⟩
  lawful := by
    rintro db c r db' ⟨s, hs, hrep⟩ hfits hstep
    rw [hrep.view_eq hs] at hfits ⊢
    obtain ⟨now, s', hrep', hlawful⟩ := step_lawful hs hrep hfits hstep
    rw [hrep'.view_eq (hlawful.coherent hs hfits)]
    exact ⟨now, hlawful⟩

/-- The rows of the tables are those of the store they hold. -/
theorem represents_of_good (hgood : (lawfulRepository d).Good db) : Represents db (view db) := by
  obtain ⟨s, hs, hrep⟩ := hgood
  rwa [hrep.view_eq hs]

end Postgres

end Alert2IR
