import Alert2IR.Persistence.Rollback

/-!
# What comes of each operation

Every operation that moves an entry has an outcome: it takes effect on the entry, and then what it
answers depends on whether the rows it has written decode, or it leaves the tables alone.
-/

namespace Alert2IR

namespace Postgres

/-! ### The operations -/

section Operations

variable {d : Dialect} {now : Int} {db : Db} {s : Store} {c : RepositoryCall} {e e' : Entry}

/-- The entry that an operation moves, what its rows are worth, and whether they decode. -/
theorem moved_of_advance (now : Int) (c : RepositoryCall)
    (after : Option (AttemptRow × ProcessingRow) → Except PyError c.Result)
    (hs : s.Coherent) (hvalid : s.Valid d)
      (hfits : s.Fits c) {attemptId : UUID} {expected : List ExecutionAttemptState}
    {attemptMove : AttemptFields → AttemptFields}
    {processingMove : ProcessingFields → ProcessingFields}
    (hadvance : ∀ e : Entry, e.advance now c = e.move attemptId expected attemptMove processingMove)
    (hdecodes : ∀ (e : Entry) (a : AttemptFields) (p' : ProcessingFields) (a' : AttemptFields) b,
      e.attempt = some a → a' = attemptMove a → p' = processingMove e.processing →
      Entry.Coherent ⟨p', some a'⟩ → Entry.Valid d ⟨p', some a'⟩ → a'.durable = a' →
      a'.Serves p' b → ((∃ x, after (some (a'.row, p'.row)) = .ok x) ↔ Decodes now e c)) {k : UUID}
        {a : AttemptFields}
    (he : s k = some e) (ha : e.attempt = some a) (hid : a.attemptId = attemptId)
    (hexpected : a.state ∈ expected) :
    Entry.Coherent ⟨processingMove e.processing, some (attemptMove a)⟩ ∧
      ((satisfied (Schema.processingConstraints d (processingMove e.processing).row) = true ∧
        satisfied (Schema.attemptConstraints d (attemptMove a).row) = true) ↔ c.Valued d) ∧
      ((∃ e', e.advance now c = some e' ∧ e' ≠ e) ↔
        (⟨processingMove e.processing, some (attemptMove a)⟩ : Entry) ≠ e) ∧
      (c.Valued d → ((∃ x, after (some ((attemptMove a).row, (processingMove e.processing).row)) =
        .ok x) ↔ Decodes now e c)) := by
  have hmove : e.move attemptId expected attemptMove processingMove
      = some ⟨processingMove e.processing, some (attemptMove a)⟩ :=
    Entry.move_eq_some_iff.mpr ⟨a, ha, hid, hexpected, rfl⟩
  have hadvanced := (hadvance e).trans hmove
  have hfit := hfits k e he (Entry.concerns_of_advance hadvanced)
  have hcoherent := Entry.advance_coherent (hs.entry k e he) hfit hadvanced
  refine ⟨hcoherent, ?_, ?_, fun hvalued => ?_⟩
  · rw [← satisfied_iff_valued (hs.entry k e he) (hvalid k e he) hfit hadvanced]
    simp
  · rw [hadvanced]
    simp
  · obtain ⟨q, b, -, hserves⟩ := hcoherent.executing rfl
    exact hdecodes e a _ _ b ha rfl rfl hcoherent
      (Entry.advance_valid (hs.entry k e he) (hvalid k e he) hvalued hadvanced)
      (by simpa using hcoherent.attemptDurable) hserves

theorem finds_of_advance {attemptId : UUID} {expected : List ExecutionAttemptState}
    {attemptMove : AttemptFields → AttemptFields}
    {processingMove : ProcessingFields → ProcessingFields}
    (hadvance : ∀ e : Entry, e.advance now c = e.move attemptId expected attemptMove processingMove)
    (h : e.advance now c = some e') :
    ∃ a, e.attempt = some a ∧ a.attemptId = attemptId ∧ a.state ∈ expected := by
  obtain ⟨a, ha, hid, hexpected, -⟩ := Entry.move_eq_some_iff.mp ((hadvance e).symm.trans h)
  exact ⟨a, ha, hid, hexpected⟩

theorem claimAttemptForSubmission_outcome (hs : s.Coherent) (hrep : Represents db s)
    (hvalid : s.Valid d) (attemptId : UUID) :
    Outcome d now s (.claimAttemptForSubmission attemptId) db := by
  have hfits : s.Fits (.claimAttemptForSubmission attemptId) := fun _ _ _ _ => trivial
  refine move_outcome [.planned] [] _ hs hrep rfl ?_
    (state_eq_iff · .planned) (fun p state hstate hp => guard_eq hstate hp)
    (fun a => ⟨attempt_claim_row a now, rfl, rfl⟩)
    (fun _ e _ _ _ _ => ⟨claim_row e.processing now, rfl⟩) (by decide)
    (fun _ _ _ _ h => finds_of_advance (fun _ => rfl) h)
    fun k e a he ha hid hexpected => moved_of_advance now (.claimAttemptForSubmission attemptId)
      (fun updated => decodeAttempt (updated.map Prod.fst)) hs hvalid hfits
      (fun _ => rfl) ?_ he ha hid hexpected
  · exact ⟨fun h => ⟨h.valued, rfl⟩, fun h => ⟨trivial, rfl, h.1, trivial⟩⟩
  · rintro e a p' a' b ha rfl rfl hcoherent hvalid hdurable hserves
    refine decodeAttempt_returns.trans ?_
    rw [deserializeAttempt_iff hdurable hserves (hvalid.attempt _ rfl)]
    simp only [Decodes, ha, Option.some.injEq, forall_eq']
    exact ⟨fun h => ⟨h.backend, h.external⟩, fun h => ⟨h.backend, h.external⟩⟩

theorem markAttemptSubmitted_outcome (hs : s.Coherent) (hrep : Represents db s)
    (hvalid : s.Valid d) (attemptId : UUID) (externalOperationId : String) :
    Outcome d now s (.markAttemptSubmitted attemptId externalOperationId) db := by
  have hfits : s.Fits (.markAttemptSubmitted attemptId externalOperationId) :=
    fun _ _ _ _ => trivial
  refine .of_checked (.ok ()) _ rfl (iff_of_true rfl trivial) rfl fun hadmitted htext hexec => ?_
  refine move_outcome [.submitting] [] _ hs hrep hexec ?_
    (state_eq_iff · .submitting) (fun p state hstate hp => guard_eq hstate hp)
    (fun a => ⟨attempt_markSubmitted_row a now _, rfl, rfl⟩)
    (fun _ e _ _ _ _ => ⟨markSubmitted_row e.processing now, rfl⟩) (by decide)
    (fun _ _ _ _ h => finds_of_advance (fun _ => rfl) h)
    fun k e a he ha hid hexpected => moved_of_advance now
      (.markAttemptSubmitted attemptId externalOperationId)
      (fun updated => decodeAttempt (updated.map Prod.fst)) hs hvalid hfits
      (fun _ => rfl) ?_ he ha hid hexpected
  · exact ⟨fun h => ⟨h.valued, rfl⟩, fun h => ⟨hadmitted, htext, h.1, trivial⟩⟩
  · rintro e a p' a' b ha rfl rfl hcoherent hvalid hdurable hserves
    refine decodeAttempt_returns.trans ?_
    rw [deserializeAttempt_iff hdurable hserves (hvalid.attempt _ rfl)]
    simp only [Decodes, ha, Option.some.injEq, forall_eq']
    exact ⟨fun h => ⟨h.backend, h.external _ rfl⟩,
      fun h => ⟨h.1, fun x hx => Option.some.inj hx ▸ h.2⟩⟩

theorem recordPoll_outcome (hs : s.Coherent) (hrep : Represents db s) (hvalid : s.Valid d)
    (attemptId : UUID) (remoteState : String) (category detail : Option String) :
    Outcome d now s (.recordPoll attemptId remoteState category detail) db := by
  have hfits : s.Fits (.recordPoll attemptId remoteState category detail) := fun _ _ _ _ => trivial
  refine .of_checked _ _ rfl Iff.rfl rfl fun hadmitted htext hexec => ?_
  refine move_outcome [.submitted] [] _ hs hrep hexec ?_
    (state_eq_iff · .submitted) (fun p state hstate hp => guard_eq hstate hp)
    (fun a => ⟨attempt_recordPoll_row a now _ _ _, rfl, rfl⟩)
    (fun _ e _ _ _ _ => ⟨recordPoll_row e.processing now _ _, rfl⟩) (by decide)
    (fun _ _ _ _ h => finds_of_advance (fun _ => rfl) h)
    fun k e a he ha hid hexpected => moved_of_advance now
      (.recordPoll attemptId remoteState category detail)
      (fun updated => decodeAttempt (updated.map Prod.fst)) hs hvalid hfits
      (fun _ => rfl) ?_ he ha hid hexpected
  · exact ⟨fun h => ⟨h.valued, rfl⟩, fun h => ⟨hadmitted, htext, h.1, trivial⟩⟩
  · rintro e a p' a' b ha rfl rfl hcoherent hvalid hdurable hserves
    refine decodeAttempt_returns.trans ?_
    rw [deserializeAttempt_iff hdurable hserves (hvalid.attempt _ rfl)]
    simp only [Decodes, ha, Option.some.injEq, forall_eq']
    exact ⟨fun h => ⟨h.backend, h.external⟩, fun h => ⟨h.backend, h.external⟩⟩

theorem and_checks_iff {check : Except PyError Unit} {holds : Bool} {message : String} :
    (do check; checks [(holds, message)]) = .ok () ↔ check = .ok () ∧ holds = true := by
  cases check with
  | error e => simp [bind, Except.bind]
  | ok u => cases holds <;> simp [bind, Except.bind, checks]

theorem markRecoveryRequired_outcome (hs : s.Coherent) (hrep : Represents db s) (hvalid : s.Valid d)
    (attemptId : UUID) (expected : List ExecutionAttemptState) (category detail : String) :
    Outcome d now s (.markRecoveryRequired attemptId expected category detail) db := by
  refine .of_checked _ _ rfl ?_ rfl fun hadmitted htext hexec => ?_
  · rw [and_checks_iff]
    simp [RepositoryCall.Admitted]
  have hallowed := hadmitted.2.2
  have hfits : s.Fits (.markRecoveryRequired attemptId expected category detail) :=
    fun _ _ _ _ => hallowed
  have hcontains : ∀ state : ExecutionAttemptState,
      (expected.map ExecutionAttemptState.value).contains state.value = true ↔ state ∈ expected :=
    fun state => by
      rw [List.contains_iff_mem, List.mem_map_of_injective ExecutionAttemptState.value_injective]
  refine move_outcome expected [] _ hs hrep hexec ?_
    (fun a => hcontains a.state) (fun p state hstate hp => ?_)
    (fun a => ⟨attempt_markRecoveryRequired_row a _ _, rfl, rfl⟩)
    (fun _ e _ _ _ _ => ⟨markRecoveryRequired_row e.processing now _ _, rfl⟩) ?_
    (fun _ _ _ _ h => finds_of_advance (fun _ => rfl) h)
    fun k e a he ha hid hexpected => moved_of_advance now
      (.markRecoveryRequired attemptId expected category detail)
      (fun updated => decodeProcessing (updated.map Prod.snd)) hs hvalid hfits
      (fun _ => rfl) ?_ he ha hid hexpected
  · exact ⟨fun h => ⟨h.valued, rfl⟩, fun h => ⟨hadmitted, htext, h.1, trivial⟩⟩
  · rw [row_state_value hp]
    exact (hcontains state).mpr hstate
  · intro state hstate
    have hallowed := hallowed state hstate
    revert hallowed
    cases state <;> decide
  · rintro e a p' a' b ha rfl rfl hcoherent hvalid hdurable hserves
    refine decodeProcessing_returns.trans ?_
    refine (deserializeProcessing_iff hcoherent hvalid).trans ?_
    simp [Decodes, ProcessingFields.markRecoveryRequired]

/-- The result that the plan of a request comes to. -/
def concluded (q : InvestigationRequest) (x : InvestigationResult) : OrchestrationResult where
  decision := q.incident.decision
  incident := some q.incident
  investigationRequest := some q
  investigationResult := some x
  valid := by simp [OrchestrationResult.postInit, q.incident.outcome_eq, checks]

/-- A processing completed with what was investigated, on the plan its row holds. -/
def conclude (now : Int) (result : OrchestrationResult) (x : InvestigationResult)
    (p : ProcessingFields) : ProcessingFields :=
  p.complete now (match p.investigationRequest with
    | some q => concluded q x
    | none => result)

theorem conclude_eq {p : ProcessingFields} {q : InvestigationRequest} {result : OrchestrationResult}
    {x : InvestigationResult} (h : p.investigationRequest = some q) :
    conclude now result x p = p.complete now (concluded q x) := by
  rw [conclude, h]

/-- The plan of a coherent entry fits what it comes to. -/
theorem fits_concluded (hcoherent : e.Coherent) {a : AttemptFields} (ha : e.attempt = some a)
    (attemptId : UUID) (x : InvestigationResult) :
    ∃ q, e.processing.investigationRequest = some q ∧ q.utc = q ∧
      (RepositoryCall.completeProcessing attemptId (concluded q x)).Fits e := by
  obtain ⟨q, b, hexecutes, -⟩ := hcoherent.executing ha
  have hself : q.utc = q := by
    have hutc := ProcessingFields.durable_investigationRequest e.processing
    rw [hcoherent.durable, hexecutes.request, Option.map_some, Option.some.injEq] at hutc
    exact hutc.symm
  have hincident : q.incident.utc = q.incident := congrArg InvestigationRequest.incident hself
  refine ⟨q, hexecutes.request, hself, hexecutes.decision, ?_, ?_⟩
  · rw [hexecutes.incident, concluded, Option.map_some, hincident]
  · rw [hexecutes.request, concluded, Option.map_some, hself]

theorem concluded_utc_eq_iff {q : InvestigationRequest} {x : InvestigationResult}
    {result : OrchestrationResult} (hresult : result.investigationResult = some x) :
    (concluded q x).utc = result.utc ↔ q.incident.decision = result.decision ∧
      some q.incident.utc = result.incident.map Incident.utc ∧
      some q.utc = result.investigationRequest.map InvestigationRequest.utc := by
  simp [OrchestrationResult.utc, concluded, hresult]

/-- How `complete_processing` answers with a row it has written. -/
def answerCompleted (result : OrchestrationResult) :
    Option (AttemptRow × ProcessingRow) → Except PyError (Option ProcessingRecord)
  | none => .ok none
  | some (_, row) => do
      let completed ← deserializeProcessing row
      if completed.completedResult.map OrchestrationResult.utc ≠ some result.utc then
        throw (.valueError "terminal result does not match the durable processing plan")
      else return some completed

theorem answerCompleted_returns {result : OrchestrationResult} {rows : AttemptRow × ProcessingRow} :
    (∃ x, answerCompleted result (some rows) = .ok x) ↔
      ∃ record, deserializeProcessing rows.2 = .ok record ∧
        record.completedResult.map OrchestrationResult.utc = some result.utc := by
  simp only [answerCompleted, bind, Except.bind]
  cases deserializeProcessing rows.2 with
  | error e => simp
  | ok record =>
    by_cases hsame : record.completedResult.map OrchestrationResult.utc = some result.utc
    · simp only [ne_eq, hsame, not_true_eq_false, if_false]
      exact iff_of_true ⟨_, rfl⟩ ⟨record, rfl, hsame⟩
    · simp only [ne_eq, hsame, not_false_eq_true, if_true]
      refine iff_of_false ?_ ?_
      · rintro ⟨x, hx⟩
        cases hx
      · rintro ⟨_, hrecord, h⟩
        cases hrecord
        exact hsame h

theorem completeProcessing_eq {result : OrchestrationResult} {x : InvestigationResult}
    {attemptId : UUID} (houtcome : result.decision.outcome = .investigate)
    (hresult : result.investigationResult = some x) :
    completeProcessing d attemptId result now db = transaction
      (updateBoth d attemptId
        (fun row => row.state = "submitted")
        (fun row => { row with
          state := "completed"
          completedAt := some now
          lastPolledAt := some now
          lastRemoteState := some "succeeded"
          errorCategory := none
          errorDetail := none })
        (fun row => row.state = "submitted")
        (fun row => resultValues x { row with
          state := "completed"
          updatedAt := now
          completedAt := some now
          errorCategory := none
          errorDetail := none })
        "processing and completed attempt states diverged" (resultText x))
      (answerCompleted result) db := by
  simp only [completeProcessing, houtcome, hresult]
  congr 1

theorem completeProcessing_outcome (hs : s.Coherent) (hrep : Represents db s) (hvalid : s.Valid d)
    (attemptId : UUID) (result : OrchestrationResult) :
    Outcome d now s (.completeProcessing attemptId result) db := by
  by_cases houtcome : result.decision.outcome = .investigate
  swap
  · refine .refused (fun h => houtcome h.admitted) ?_
    change (completeProcessing d attemptId result now db).2 = db
    unfold completeProcessing
    split
    · next hinvestigate _ => exact absurd hinvestigate houtcome
    · rfl
  obtain ⟨-, -, x, -, -, hresult⟩ := result.of_investigate houtcome
  refine move_outcome [.submitted] (resultText x) (conclude now result x) hs hrep
    (completeProcessing_eq houtcome hresult) ?_
    (state_eq_iff · .submitted) (fun p state hstate hp => guard_eq hstate hp)
    (fun a => ⟨attempt_complete_row a now, rfl, rfl⟩) ?_ (by decide)
    (fun _ _ _ _ h => finds_of_advance (fun _ => rfl) h) ?_
  · have htext : callText (.completeProcessing attemptId result) = resultText x := by
      simp [callText, hresult]
    exact ⟨fun h => ⟨h.valued, htext ▸ h.text⟩, fun h => ⟨houtcome, htext ▸ h.2, h.1, trivial⟩⟩
  · intro k e a he ha hid
    obtain ⟨q, hrequest, -, hdecided, -, hrequested⟩ :=
      fits_concluded (hs.entry k e he) ha attemptId x
    rw [conclude_eq hrequest]
    exact ⟨complete_row rfl hdecided hrequested, rfl⟩
  · intro k e a he ha hid hexpected
    have hcoherent := hs.entry k e he
    obtain ⟨q, hrequest, hself, hfits⟩ := fits_concluded hcoherent ha attemptId x
    obtain ⟨hdecided, hincident, hrequested⟩ := id hfits
    rw [conclude_eq hrequest]
    have hmove : ∀ r : OrchestrationResult, e.advance now (.completeProcessing attemptId r) =
        some ⟨e.processing.complete now r, some (a.complete now)⟩ := fun r =>
      Entry.move_eq_some_iff.mpr ⟨a, ha, hid, hexpected, rfl⟩
    have hcoherent' := Entry.advance_coherent hcoherent hfits (hmove (concluded q x))
    have hvalid' : Entry.Valid d ⟨e.processing.complete now (concluded q x),
      some (a.complete now)⟩ :=
      Entry.advance_valid (c := .completeProcessing attemptId (concluded q x)) hcoherent
        (hvalid k e he) trivial (hmove _)
    have hchanges : ∀ r : OrchestrationResult,
        (⟨e.processing.complete now r, some (a.complete now)⟩ : Entry) ≠ e := by
      intro r heq
      have hstate : some (a.complete now).state = some a.state := by
        simpa [ha] using congrArg (fun e => e.attempt.map (·.state)) heq
      rw [List.mem_singleton.mp hexpected] at hstate
      cases hstate
    refine ⟨hcoherent', ?_, ?_, fun _ => ?_⟩
    · have hsatisfied := satisfied_iff_valued hcoherent (hvalid k e he) hfits
        (hmove (concluded q x))
      change _ ↔ RepositoryCall.Valued d (.completeProcessing attemptId (concluded q x))
      simpa using hsatisfied
    · exact iff_of_true ⟨_, hmove result, hchanges result⟩ (hchanges _)
    · refine answerCompleted_returns.trans ?_
      have hplan : (RepositoryCall.completeProcessing attemptId result).Fits e ↔
          (concluded q x).utc = result.utc := by
        rw [concluded_utc_eq_iff hresult, RepositoryCall.Fits, hdecided, hincident, hrequested]
        simp [concluded]
      have hcreated : (∃ record, deserializeProcessing
          (e.processing.complete now (concluded q x)).row = .ok record) ↔
            e.processing.createdAt.instant ≤ now :=
        (deserializeProcessing_iff hcoherent' hvalid').trans (by simp [ProcessingFields.complete])
      have hstored : ∀ record, deserializeProcessing
          (e.processing.complete now (concluded q x)).row = .ok record →
          record.completedResult = some (concluded q x).utc := by
        intro record hrecord
        have hfields := deserializeProcessing_row hcoherent' hrecord
        rw [hfields]
        rfl
      rw [Decodes, hplan]
      constructor
      · rintro ⟨record, hrecord, hsame⟩
        rw [hstored record hrecord, Option.map_some, OrchestrationResult.utc_utc,
          Option.some.injEq] at hsame
        exact ⟨hcreated.mp ⟨record, hrecord⟩, hsame⟩
      · rintro ⟨htimes, hsame⟩
        obtain ⟨record, hrecord⟩ := hcreated.mpr htimes
        refine ⟨record, hrecord, ?_⟩
        rw [hstored record hrecord, Option.map_some, OrchestrationResult.utc_utc, hsame]

/-- The processing of an attempt holds a result, down to the time zones of its times. -/
def Stores (db : Db) (attemptId : UUID) (result : OrchestrationResult) : Prop :=
  ∃ attempt processing record, db.attempts.lookup attemptId = some attempt ∧
    db.processings.lookup attempt.processingId = some processing ∧
    deserializeProcessing processing = .ok record ∧
    record.completedResult.map OrchestrationResult.utc = some result.utc

/-- What an update of both rows answers with is what the tables hold after it. -/
theorem updateBoth_eq_ok (hs : s.Coherent) (hrep : Represents db s) {attemptId : UUID}
    {condition : AttemptRow → Bool} {set : AttemptRow → AttemptRow}
    {processingCondition : ProcessingRow → Bool} {processingSet : ProcessingRow → ProcessingRow}
    {diverged : String} {text : List String} {rows : Option (AttemptRow × ProcessingRow)} {db' : Db}
    (h : updateBoth d attemptId condition set processingCondition processingSet diverged text db =
      .ok (rows, db'))
    (hset : ∀ row, (set row).attemptId = row.attemptId ∧ (set row).processingId = row.processingId)
    (hprocessingSet : ∀ row, (processingSet row).id = row.id) :
    (rows = none ∧ db' = db) ∨ ∃ attempt processing, rows = some (attempt, processing) ∧
      db'.attempts.lookup attemptId = some attempt ∧
      db'.processings.lookup attempt.processingId = some processing := by
  unfold updateBoth at h
  obtain ⟨updated, db₁, hattempt, hrest⟩ := bind_eq_ok_iff.mp h
  rcases updateAttempt_eq_ok_iff.mp hattempt with
    ⟨rfl, rfl, -⟩ | ⟨row, hrow, -, -, -, rfl, rfl⟩
  · obtain ⟨rfl, rfl⟩ := pure_eq_ok_iff.mp hrest
    exact .inl ⟨rfl, rfl⟩
  simp only [bind_eq_ok_iff, bindText_eq_ok_iff] at hrest
  obtain ⟨_, _, ⟨-, rfl⟩, updated, db₂, hprocessing, hrest⟩ := hrest
  rcases updateProcessing_eq_ok_iff.mp hprocessing with
    ⟨rfl, -, -⟩ | ⟨processing, hlookup, -, -, rfl, rfl⟩
  · simp at hrest
  obtain ⟨rfl, rfl⟩ := pure_eq_ok_iff.mp hrest
  obtain ⟨k, e, a, he, ha, rfl, rfl⟩ := (hrep.attempts _ _).mp hrow
  obtain ⟨hid, hkey⟩ := hset a.row
  have hk : (set a.row).processingId = k := hkey.trans (attempt_processingId hs he ha)
  rw [hk] at hlookup
  obtain rfl := Option.some.inj (hlookup.symm.trans (hrep.lookup_some he))
  refine .inr ⟨_, _, rfl, ?_, ?_⟩
  · rw [Table.lookup_insert, if_pos]
    exact hid.symm
  · rw [Table.lookup_insert, if_pos]
    rw [hk, hprocessingSet, ProcessingFields.row_id, hs.id k e he]

/-- A completion that answers with a record has stored the result it was given. -/
theorem completeProcessing_stores (hs : s.Coherent) (hrep : Represents db s) {attemptId : UUID}
    {result : OrchestrationResult} {x : Option ProcessingRecord}
    (h : (completeProcessing d attemptId result now db).1 = .ok x)
    (hchanged : ¬Unchanged db (completeProcessing d attemptId result now db).2) :
    Stores (completeProcessing d attemptId result now db).2 attemptId result := by
  by_cases houtcome : result.decision.outcome = .investigate
  swap
  · unfold completeProcessing at h
    split at h
    · next hinvestigate _ => exact absurd hinvestigate houtcome
    · cases h
  obtain ⟨-, -, y, -, -, hresult⟩ := result.of_investigate houtcome
  rw [completeProcessing_eq houtcome hresult] at h hchanged ⊢
  obtain ⟨rows, db', hbody, hanswer, hafter⟩ := transaction_returns h
  rw [hafter] at hchanged ⊢
  rcases updateBoth_eq_ok hs hrep hbody (fun _ => ⟨rfl, rfl⟩) (fun _ => rfl) with
    ⟨-, rfl⟩ | ⟨attempt, processing, rfl, hattempt, hprocessing⟩
  · exact absurd (.refl _) hchanged
  · obtain ⟨record, hrecord, hsame⟩ := answerCompleted_returns.mp ⟨x, hanswer⟩
    exact ⟨attempt, processing, record, hattempt, hprocessing, hrecord, hsame⟩

/-- An attempt is inserted under keys that no other attempt has. -/
theorem insertAttempt_eq_ok_iff {row row' : AttemptRow} {db' : Db} :
    insertAttempt d row db = .ok (row', db') ↔
      satisfied (Schema.attemptConstraints d row) = true ∧
      db.attempts.lookup row.attemptId = none ∧
      (∀ other ∈ db.attempts.rows, other.operationKey ≠ row.operationKey) ∧
      (∀ other ∈ db.attempts.rows, other.processingId = row.processingId →
        other.attemptNumber ≠ row.attemptNumber) ∧
      OnlyActive db row ∧ (db.processings.lookup row.processingId).isSome = true ∧ row' = row ∧
      db' = { db with attempts := db.attempts.insert row.attemptId row } := by
  unfold insertAttempt
  simp only [bind_eq_ok_iff, checkConstraints_eq_ok_iff, getDb_bind]
  constructor
  · rintro ⟨_, _, ⟨hrow, rfl⟩, h⟩
    split at h
    · simp at h
    next hid =>
    split at h
    · simp at h
    next hkey =>
    split at h
    · simp at h
    next hnumber =>
    simp only [bind_eq_ok_iff, checkActive_eq_ok_iff] at h
    obtain ⟨_, _, ⟨honly, rfl⟩, h⟩ := h
    split at h
    · simp at h
    next hprocessing =>
    simp only [bind_eq_ok_iff, putAttempt_eq_ok_iff, pure_eq_ok_iff] at h
    obtain ⟨_, _, rfl, rfl, rfl⟩ := h
    refine ⟨hrow, by simpa using hid, by simpa using hkey, by simpa using hnumber, honly, ?_, rfl,
      rfl⟩
    simpa [Option.isSome_iff_ne_none] using hprocessing
  · rintro ⟨hrow, hid, hkey, hnumber, honly, hprocessing, rfl, rfl⟩
    refine ⟨(), db, ⟨hrow, rfl⟩, ?_⟩
    rw [if_neg (by simp [hid]), if_neg (by simpa using hkey), if_neg (by simpa using hnumber)]
    simp only [bind_eq_ok_iff, checkActive_eq_ok_iff]
    refine ⟨(), db, ⟨honly, rfl⟩, ?_⟩
    rw [if_neg (by simpa [Option.isSome_iff_ne_none] using hprocessing)]
    simp

/-- The plan that the row of a processing holds once a plan has been stored: the decision is taken
on the alert of the processing, whatever alert it came with. -/
def rooted (p : ProcessingFields) (decision : Decision) (request : InvestigationRequest)
    (houtcome : decision.outcome = .investigate) : InvestigationRequest where
  incident := {
    alert := p.alert
    decision := { decision with source := p.alert.source }
    valid := by simp [Incident.postInit, houtcome, checks] }
  desiredOutcome := request.desiredOutcome
  requiredCapabilities := request.requiredCapabilities
  targets := request.targets
  valid := request.valid

theorem decodePlan_returns {processing : ProcessingRow} {attempt : AttemptRow} :
    (∃ x, decodePlan (some (processing, attempt)) = .ok x) ↔
      (∃ r, deserializeProcessing processing = .ok r) ∧ ∃ a, deserializeAttempt attempt =
        .ok a := by
  simp only [decodePlan, bind, Except.bind]
  cases deserializeProcessing processing with
  | error e => simp
  | ok r => cases deserializeAttempt attempt <;> simp [pure, Except.pure]

section Plan

variable {processingId attemptId operationKey : UUID} {decision : Decision} {incident : Incident}
  {request : InvestigationRequest} {backend : String}

/-- The row of a stored plan, and the coherent entry it is a row of. -/
theorem stored_plan (now : Int) (attemptId operationKey : UUID) (request : InvestigationRequest)
    (backend : String) (hs : s.Coherent) (houtcome : decision.outcome = .investigate)
    (he : s processingId = some e) (hstate : e.processing.state = .accepted) :
    ∃ p' : ProcessingFields,
      decisionValues decision (requestValues request { e.processing.row with
        state := "planned", updatedAt := now, selectedBackend := some backend }) = p'.row ∧
      p'.processingId = processingId ∧ p'.state = .planned ∧
      p'.createdAt = e.processing.createdAt ∧ p'.updatedAt = .ofInstant now ∧
      Entry.Coherent ⟨p', some (Entry.plannedAttempt now processingId attemptId operationKey
        backend)⟩ ∧
      (s.Valid d → (satisfied (Schema.processingConstraints d p'.row) = true ↔
        Schema.notBlank d backend = true) ∧
        (Schema.notBlank d backend = true → Entry.Valid d
          ⟨p', some (Entry.plannedAttempt now processingId attemptId operationKey backend)⟩)) := by
  have hcoherent := hs.entry _ _ he
  obtain ⟨hplan, hnone⟩ := hcoherent.phase.of_accepted hstate
  have halert : e.processing.alert.utc = e.processing.alert :=
    (ProcessingFields.durable_eq_self_iff.mp hcoherent.durable).2.2.1
  let q := rooted e.processing decision request houtcome
  have hrow : decisionValues decision (requestValues request { e.processing.row with
      state := "planned", updatedAt := now, selectedBackend := some backend }) =
      (e.processing.storePlan now q.incident.decision q.incident q backend).row :=
    (storePlan_row hplan : decisionValues q.incident.decision (requestValues q _) = _)
  let c : RepositoryCall := .storePlan processingId q.incident.decision q.incident q backend
    attemptId operationKey
  have hfits : c.Fits e := ⟨halert, rfl, rfl⟩
  have hadvance : e.advance now c = some
    ⟨e.processing.storePlan now q.incident.decision q.incident q
      backend, some (Entry.plannedAttempt now processingId attemptId operationKey backend)⟩ :=
    if_pos ⟨hs.id _ _ he, hstate⟩
  have hcoherent' := Entry.advance_coherent hcoherent hfits hadvance
  refine ⟨_, hrow, hs.id _ _ he, rfl, rfl, rfl, hcoherent', fun hvalid =>
    ⟨⟨fun hsatisfied => ?_, fun hbackend => ?_⟩,
    fun hbackend => ?_⟩⟩
  · exact (strings_of_satisfied hsatisfied).1 backend rfl
  · exact (satisfied_of_moved hcoherent' (Entry.advance_valid (c := c) hcoherent (hvalid _ _ he)
      hbackend hadvance)).1
  · exact Entry.advance_valid (c := c) hcoherent (hvalid _ _ he) hbackend hadvance

/-- No attempt there is belongs to a processing that has just been accepted. -/
theorem unowned_of_accepted (hs : s.Coherent) (hrep : Represents db s)
    (he : s processingId = some e)
    (hstate : e.processing.state = .accepted) :
    ∀ other ∈ db.attempts.rows, other.processingId ≠ processingId := by
  intro other hmem hsame
  obtain ⟨k, e', a, he', ha, rfl⟩ := hrep.mem_attempts.mp hmem
  rw [AttemptFields.row_processingId, attempt_processingId hs he' ha] at hsame
  subst hsame
  obtain rfl := Option.some.inj (he.symm.trans he')
  rw [((hs.entry _ _ he).phase.of_accepted hstate).2] at ha
  cases ha

theorem unused_iff (hrep : Represents db s) :
    s.Unused (.storePlan processingId decision incident request backend attemptId operationKey) ↔
      db.attempts.lookup attemptId = none ∧
        ∀ other ∈ db.attempts.rows, other.operationKey ≠ operationKey := by
  constructor
  · intro hunused
    refine ⟨Option.eq_none_iff_forall_ne_some.mpr fun row hrow => ?_, fun other hmem => ?_⟩
    · obtain ⟨k, e, a, he, ha, hid, -⟩ := (hrep.attempts _ _).mp hrow
      exact (hunused k e a he ha).1 hid
    · obtain ⟨k, e, a, he, ha, rfl⟩ := hrep.mem_attempts.mp hmem
      exact (hunused k e a he ha).2
  · rintro ⟨hid, hkey⟩ k e a he ha
    refine ⟨?_, hkey _ (hrep.mem_attempts.mpr ⟨k, e, a, he, ha, rfl⟩)⟩
    rintro rfl
    cases hid.symm.trans (hrep.attempt_lookup he ha)

/-- The two statements of `store_plan`. -/
def writePlan (d : Dialect) (now : Int) (processingId attemptId operationKey : UUID)
    (decision : Decision) (request : InvestigationRequest) (backend : String) :
    Tx (Option (ProcessingRow × AttemptRow)) := do
  let updated ← updateProcessing d processingId (fun row => row.state = "accepted") fun row =>
    decisionValues decision (requestValues request
      { row with state := "planned", updatedAt := now, selectedBackend := some backend })
  match updated with
  | none => return none
  | some processing => do
      let attempt ← insertAttempt d
        (plannedAttemptRow now processingId attemptId operationKey backend)
      return some (processing, attempt)

theorem writePlan_lost (now : Int) (attemptId operationKey : UUID) (decision : Decision)
    (request : InvestigationRequest) (backend : String) (hrep : Represents db s)
    (hnone : ∀ e, s processingId = some e → e.processing.state ≠ .accepted) :
    writePlan d now processingId attemptId operationKey decision request backend db
      = .ok (none, db) := by
  refine bind_eq_ok_iff.mpr ⟨none, db, updateProcessing_lost fun row hrow => ?_,
    pure_eq_ok_iff.mpr ⟨rfl, rfl⟩⟩
  rw [hrep.processings, Option.map_eq_some_iff] at hrow
  obtain ⟨e, he, rfl⟩ := hrow
  rw [decide_eq_false_iff_not]
  exact fun hstate => hnone e he ((state_accepted_iff _).mp (decide_eq_true hstate))

/-- The insertion into a table that holds no attempt of the processing. -/
theorem insertPlanned_iff (decision : Decision) (incident : Incident)
    (request : InvestigationRequest) (hs : s.Coherent) (hrep : Represents db s)
      (he : s processingId = some e)
    (hstate : e.processing.state = .accepted) {row : ProcessingRow} {attempt : AttemptRow}
    {db' : Db} :
    insertAttempt d (plannedAttemptRow now processingId attemptId operationKey backend)
        { db with processings := db.processings.insert processingId row } = .ok (attempt, db') ↔
      satisfied (Schema.attemptConstraints d
        (plannedAttemptRow now processingId attemptId operationKey backend)) = true ∧
      s.Unused (.storePlan processingId decision incident request backend attemptId operationKey) ∧
      attempt = plannedAttemptRow now processingId attemptId operationKey backend ∧
      db' = { processings := db.processings.insert processingId row
              attempts := db.attempts.insert attemptId
                (plannedAttemptRow now processingId attemptId operationKey backend) } := by
  have hunowned := unowned_of_accepted hs hrep he hstate
  rw [insertAttempt_eq_ok_iff, unused_iff hrep]
  constructor
  · rintro ⟨hpasses, hid, hkey, -, -, -, rfl, rfl⟩
    exact ⟨hpasses, ⟨hid, hkey⟩, rfl, rfl⟩
  · rintro ⟨hpasses, ⟨hid, hkey⟩, rfl, rfl⟩
    refine ⟨hpasses, hid, hkey, fun other hmem hsame => absurd hsame (hunowned other hmem),
      fun _ other hmem _ hsame => absurd hsame (hunowned other hmem), ?_, rfl, rfl⟩
    simp [plannedAttemptRow]

/-- The statements of `store_plan` on an accepted processing write the rows of a coherent entry, if
they write anything. -/
theorem writePlan_found (now : Int) (attemptId operationKey : UUID) (incident : Incident)
    (request : InvestigationRequest) (backend : String) (hs : s.Coherent) (hrep : Represents db s)
      (hvalid : s.Valid d)
    (houtcome : decision.outcome = .investigate) (he : s processingId = some e)
    (hstate : e.processing.state = .accepted) :
    ∃ p' : ProcessingFields, p'.state = .planned ∧ p'.createdAt = e.processing.createdAt ∧
      p'.updatedAt = .ofInstant now ∧
      Entry.Coherent
        ⟨p', some (Entry.plannedAttempt now processingId attemptId operationKey backend)⟩ ∧
      (Schema.notBlank d backend = true → Entry.Valid d
        ⟨p', some (Entry.plannedAttempt now processingId attemptId operationKey backend)⟩) ∧
      ∀ rows db', writePlan d now processingId attemptId operationKey decision request backend db
          = .ok (rows, db') ↔
        (Schema.notBlank d backend = true ∧ s.Unused
          (.storePlan processingId decision incident request backend attemptId operationKey)) ∧
        rows = some (p'.row,
          (Entry.plannedAttempt now processingId attemptId operationKey backend).row) ∧
        db' = { processings := db.processings.insert processingId p'.row
                attempts := db.attempts.insert attemptId
                  (Entry.plannedAttempt now processingId attemptId operationKey backend).row } := by
  obtain ⟨p', hrow, hid, hplanned, hcreated, hupdated, hcoherent, hconstraints⟩ :=
    stored_plan (d := d) now attemptId operationKey request backend hs houtcome he hstate
  obtain ⟨hsatisfied, hvalid'⟩ := hconstraints hvalid
  refine ⟨p', hplanned, hcreated, hupdated, hcoherent, hvalid', fun rows db' => ?_⟩
  have hlookup := hrep.lookup_some he
  have hattempt := plannedAttempt_row now processingId attemptId operationKey backend
  constructor
  · intro hbody
    obtain ⟨updated, db₁, hfirst, hrest⟩ := bind_eq_ok_iff.mp hbody
    rcases updateProcessing_eq_ok_iff.mp hfirst with
      ⟨rfl, -, hnone⟩ | ⟨row, hfound, -, hpasses, rfl, rfl⟩
    · have hfalse := hnone _ hlookup
      rw [(state_accepted_iff _).mpr hstate] at hfalse
      cases hfalse
    obtain rfl := Option.some.inj (hfound.symm.trans hlookup)
    obtain ⟨attempt, db₂, hsecond, hlast⟩ := bind_eq_ok_iff.mp hrest
    obtain ⟨rfl, rfl⟩ := pure_eq_ok_iff.mp hlast
    rw [hrow] at hpasses hsecond ⊢
    rw [ProcessingFields.row_id, hid] at hsecond
    obtain ⟨-, hunused, rfl, rfl⟩ := (insertPlanned_iff decision incident request hs hrep he
      hstate).mp hsecond
    exact ⟨⟨hsatisfied.mp hpasses, hunused⟩, by rw [hattempt], by rw [hattempt]⟩
  · rintro ⟨⟨hbackend, hunused⟩, rfl, rfl⟩
    have hpasses := satisfied_of_moved hcoherent (hvalid' hbackend)
    rw [← hattempt]
    refine bind_eq_ok_iff.mpr ⟨some p'.row, _, updateProcessing_eq_ok_iff.mpr (.inr
      ⟨_, hlookup, (state_accepted_iff _).mpr hstate, ?_, ?_, rfl⟩), ?_⟩
    · rw [hrow]
      exact hpasses.1
    · rw [hrow]
    rw [hrow, ProcessingFields.row_id, hid]
    refine bind_eq_ok_iff.mpr ⟨_, _,
      (insertPlanned_iff decision incident request hs hrep he hstate).mpr ⟨?_, hunused, rfl, rfl⟩,
      pure_eq_ok_iff.mpr ⟨rfl, rfl⟩⟩
    rw [hattempt]
    exact hpasses.2 _ rfl

theorem storePlan_outcome (hs : s.Coherent) (hrep : Represents db s) (hvalid : s.Valid d) :
    Outcome d now s
      (.storePlan processingId decision incident request backend attemptId operationKey) db := by
  refine .of_checked _ (writePlan d now processingId attemptId operationKey decision
    request backend)
    rfl ?_ rfl fun hadmitted htext hexec => ?_
  · simp [checks_eq_ok_iff, RepositoryCall.Admitted]
  have hfinds : ∀ {k e e'}, s k = some e → Entry.advance now e (.storePlan processingId decision
      incident request backend attemptId operationKey) = some e' →
      k = processingId ∧ e.processing.state = .accepted := by
    intro k e e' he hadvance
    rw [Entry.advance, Option.ite_none_right_eq_some] at hadvance
    exact ⟨(hs.id k e he).symm.trans hadvance.1.1, hadvance.1.2⟩
  by_cases hfound : ∃ e, s processingId = some e ∧ e.processing.state = .accepted
  · obtain ⟨e, he, hstate⟩ := hfound
    obtain ⟨p', hplanned, hcreated, hupdated, hcoherent, hvalid', hwrites⟩ :=
      writePlan_found (d := d) now attemptId operationKey incident request backend hs hrep hvalid
        hadmitted.1 he hstate
    by_cases hstorable : Schema.notBlank d backend = true ∧ s.Unused
        (.storePlan processingId decision incident request backend attemptId operationKey)
    · have hresult := hexec.trans
        (transaction_of_ok _ _ ((hwrites _ _).mpr ⟨hstorable, rfl, rfl⟩))
      obtain ⟨hbackend, hunused⟩ := hstorable
      refine .taken he ⟨⟨hadmitted, htext, hbackend, hunused⟩, ?_, _, if_pos ⟨hs.id _ _ he, hstate⟩,
        fun heq => ?_⟩ (fun hunchanged => ?_) ?_
      · rw [hstate]
        decide
      · rw [← heq] at hstate
        cases hstate
      · have hprocessing := hunchanged.processings processingId
        rw [hresult, Table.lookup_insert, if_pos rfl, hrep.lookup_some he, Option.some.injEq]
          at hprocessing
        have hsame := row_injective hcoherent (hs.entry _ _ he) hprocessing
        rw [← hsame] at hstate
        cases hplanned.symm.trans hstate
      · obtain ⟨q, b, -, hserves⟩ := hcoherent.executing rfl
        rw [hresult]
        refine decodePlan_returns.trans ?_
        rw [deserializeProcessing_iff hcoherent (hvalid' hbackend),
          deserializeAttempt_iff (by simpa using hcoherent.attemptDurable) hserves
            ((hvalid' hbackend).attempt _ rfl)]
        simp only [hcreated, hupdated, Datetime.instant_ofInstant, Decodes]
        exact and_congr_right fun _ => ⟨fun h => h.backend, fun h => ⟨h, fun _ hx => by cases hx⟩⟩
    · have hbody : ∃ error, writePlan d now processingId attemptId operationKey decision request
          backend db = .error error := by
        cases hbody : writePlan d now processingId attemptId operationKey decision request backend
            db with
        | error error => exact ⟨error, rfl⟩
        | ok result => exact absurd ((hwrites result.1 result.2).mp hbody).1 hstorable
      obtain ⟨error, hbody⟩ := hbody
      refine .refused (fun h => hstorable ⟨h.valued, h.unused⟩) ?_
      rw [hexec.trans (transaction_of_error error hbody)]
  · refine .untaken (fun k e he htaken => ?_) ?_
    · obtain ⟨e', hadvance, -⟩ := htaken.advance
      obtain ⟨rfl, hstate⟩ := hfinds he hadvance
      exact hfound ⟨e, he, hstate⟩
    · have hbody := writePlan_lost (d := d) now attemptId operationKey decision request backend
         hrep fun e he hstate => hfound ⟨e, he, hstate⟩
      rw [hexec.trans (transaction_of_ok _ _ hbody)]
      exact .refl db

end Plan

/-! ### Failures -/

section Failure

variable {processingId : UUID} {expected : List ProcessingState} {category detail : String}
  {attemptId : UUID}

/-- The entry of a processing that has failed with the attempt it has. -/
theorem exists_failed (now : Int) (hcoherent : e.Coherent) (hvalid : e.Valid d)
    (hopen : e.processing.state ≠ .completed) (hcategory : Bounded d 256 category)
    (hdetail : Bounded d 256 detail) :
    ∃ attempt, Entry.Coherent ⟨e.processing.fail now category detail, attempt⟩ ∧
      Entry.Valid d ⟨e.processing.fail now category detail, attempt⟩ := by
  obtain ⟨attempt, hfailed, hkept⟩ := hcoherent.fail now hopen category detail
  refine ⟨attempt, hfailed, ⟨hvalid.processing.identity, hvalid.processing.backend,
    .some hcategory hdetail, by simp [ProcessingFields.fail], fun _ => rfl⟩, fun a' ha' => ?_⟩
  obtain ⟨a, ha, rfl | rfl⟩ := hkept a' ha'
  · exact hvalid.attempt a' ha
  · exact ⟨(hvalid.attempt a ha).external, (hvalid.attempt a ha).remoteState,
      .some hcategory hdetail, fun _ => rfl⟩

/-- What the row of a failed processing takes to satisfy the constraints. -/
theorem failed_satisfied_iff (now : Int) (hcoherent : e.Coherent) (hvalid : e.Valid d) :
    satisfied (Schema.processingConstraints d (e.processing.fail now category detail).row) = true ↔
      e.processing.state ≠ .completed ∧ Bounded d 256 category ∧ Bounded d 256 detail := by
  constructor
  · intro hsatisfied
    refine ⟨fun hstate => ?_, ?_⟩
    · have hfailed : (e.processing.fail now category detail).row.state ≠ "completed" := by
        simp [ProcessingFields.fail, ProcessingState.value]
      have hnone := completedAt_of_satisfied hsatisfied hfailed
      have hsome := hcoherent.completedAt
      change e.processing.completedAt.map Datetime.instant = none at hnone
      rw [Option.map_eq_none_iff] at hnone
      rw [hnone, hstate] at hsome
      cases hsome
    · have herrors : ErrorPair d (some category) (some detail) :=
        (strings_of_satisfied hsatisfied).2
      cases herrors with
      | some hcategory hdetail => exact ⟨hcategory, hdetail⟩
  · rintro ⟨hopen, hcategory, hdetail⟩
    obtain ⟨attempt, hfailed, hvalid'⟩ := exists_failed now hcoherent hvalid hopen
      hcategory hdetail
    exact (satisfied_of_moved hfailed hvalid').1

/-- The statements of `fail_processing`. -/
def writeFailure (d : Dialect) (now : Int) (processingId : UUID) (expected : List ProcessingState)
    (category detail : String) (attemptId : Option UUID) : Tx (Option ProcessingRow) := do
  let failed ← match attemptId with
    | none => pure true
    | some attemptId => do
        let updated ← updateAttempt d attemptId
          (fun row => row.processingId = processingId
            && Schema.activeAttemptStates.contains row.state)
          (fun row => { row with
            state := "failed"
            failedAt := some now
            errorCategory := some category
            errorDetail := some detail })
        pure updated.isSome
  if failed then do
    let updated ← updateProcessing d processingId
      (fun row => (expected.map ProcessingState.value).contains row.state)
      (fun row => { row with
        state := "failed"
        updatedAt := now
        failedAt := some now
        errorCategory := some category
        errorDetail := some detail })
    if updated.isNone && attemptId.isSome then
      throw (.runtimeError "processing and failed attempt states diverged")
    else return updated
  else return none

theorem expects_iff (p : ProcessingFields) :
    (expected.map ProcessingState.value).contains p.row.state = true ↔ p.state ∈ expected := by
  rw [List.contains_iff_mem, ProcessingFields.row_state,
    List.mem_map_of_injective ProcessingState.value_injective]

theorem active_iff (a : AttemptFields) :
    Schema.activeAttemptStates.contains a.row.state = true ↔
      a.state ∈ ExecutionAttemptState.active := by
  rw [AttemptFields.row_state]
  cases a.state <;> decide

/-- Without an attempt, the processing fails alone. -/
theorem writeFailure_none_iff (hs : s.Coherent) (hrep : Represents db s) (hvalid : s.Valid d)
    {row : Option ProcessingRow} {db' : Db} :
    writeFailure d now processingId expected category detail none db = .ok (row, db') ↔
      (row = none ∧ db' = db ∧ ∀ e, s processingId = some e → e.processing.state ∉ expected) ∨
      ∃ e, s processingId = some e ∧ e.processing.state ∈ expected ∧
        e.processing.state ≠ .completed ∧ (Bounded d 256 category ∧ Bounded d 256 detail) ∧
        row = some (e.processing.fail now category detail).row ∧
        db' = { db with
          processings := db.processings.insert processingId
            (e.processing.fail now category detail).row } := by
  unfold writeFailure
  simp only [pure_bind, if_true, bind_eq_ok_iff, Option.isSome_none, Bool.and_false,
    Bool.false_eq_true, if_false, pure_eq_ok_iff]
  constructor
  · rintro ⟨updated, db₁, hupdate, rfl, rfl⟩
    rcases updateProcessing_eq_ok_iff.mp hupdate with
      ⟨rfl, rfl, hnone⟩ | ⟨found, hfound, hcondition, hsatisfied, rfl, rfl⟩
    · refine .inl ⟨rfl, rfl, fun e he hexpected => ?_⟩
      have hfalse := hnone _ (hrep.lookup_some he)
      rw [(expects_iff _).mpr hexpected] at hfalse
      cases hfalse
    · rw [hrep.processings, Option.map_eq_some_iff] at hfound
      obtain ⟨e, he, rfl⟩ := hfound
      rw [fail_row] at hsatisfied ⊢
      obtain ⟨hopen, hbounded⟩ := (failed_satisfied_iff now (hs.entry _ _ he) (hvalid _ _ he)).mp
        hsatisfied
      exact .inr ⟨e, he, (expects_iff _).mp hcondition, hopen, hbounded, rfl,
        by rw [ProcessingFields.row_id, ProcessingFields.fail, hs.id _ _ he]⟩
  · rintro (⟨rfl, rfl, hnone⟩ | ⟨e, he, hexpected, hopen, hbounded, rfl, rfl⟩)
    · refine ⟨none, db', updateProcessing_lost fun row hrow => ?_, rfl, rfl⟩
      rw [hrep.processings, Option.map_eq_some_iff] at hrow
      obtain ⟨e, he, rfl⟩ := hrow
      rw [Bool.eq_false_iff]
      exact fun hmatch => hnone e he ((expects_iff _).mp hmatch)
    · have hsatisfied := (failed_satisfied_iff now (hs.entry _ _ he) (hvalid _ _ he)).mpr
        ⟨hopen, hbounded⟩
      refine ⟨_, _, updateProcessing_eq_ok_iff.mpr (.inr ⟨_, hrep.lookup_some he,
        (expects_iff _).mpr hexpected, ?_, ?_, rfl⟩), rfl, ?_⟩
      · rw [fail_row]
        exact hsatisfied
      · rw [fail_row]
      · rw [fail_row, ProcessingFields.row_id, ProcessingFields.fail, hs.id _ _ he]

/-- With its attempt, both fail or neither does. -/
theorem writeFailure_some_iff (hs : s.Coherent) (hrep : Represents db s) (hvalid : s.Valid d)
    {row : Option ProcessingRow} {db' : Db} :
    writeFailure d now processingId expected category detail (some attemptId) db
        = .ok (row, db') ↔
      (row = none ∧ db' = db ∧ ∀ e a, s processingId = some e → e.attempt = some a →
        a.attemptId = attemptId → a.state ∉ ExecutionAttemptState.active) ∨
      ∃ e a, s processingId = some e ∧ e.attempt = some a ∧ a.attemptId = attemptId ∧
        a.state ∈ ExecutionAttemptState.active ∧ e.processing.state ∈ expected ∧
        (Bounded d 256 category ∧ Bounded d 256 detail) ∧
        row = some (e.processing.fail now category detail).row ∧
        db' = { processings := db.processings.insert processingId
                  (e.processing.fail now category detail).row
                attempts := db.attempts.insert attemptId (a.fail now category detail).row } := by
  unfold writeFailure
  simp only [bind_eq_ok_iff, pure_eq_ok_iff]
  constructor
  · rintro ⟨updated, db₁, hattempt, _, _, ⟨rfl, rfl⟩, hrest⟩
    rcases updateAttempt_eq_ok_iff.mp hattempt with
      ⟨rfl, rfl, hnone⟩ | ⟨found, hfound, hcondition, hsatisfied, -, rfl, rfl⟩
    · simp only [Option.isSome_none, Bool.false_eq_true, if_false, pure_eq_ok_iff] at hrest
      refine .inl ⟨hrest.1, hrest.2, fun e a he ha hid hactive => ?_⟩
      have hfalse := hnone a.row (hid ▸ hrep.attempt_lookup he ha)
      rw [(active_iff a).mpr hactive, AttemptFields.row_processingId,
        attempt_processingId hs he ha] at hfalse
      simp at hfalse
    · obtain ⟨k, e, a, he, ha, rfl, rfl⟩ := (hrep.attempts _ _).mp hfound
      rw [Bool.and_eq_true, active_iff, decide_eq_true_eq, AttemptFields.row_processingId,
        attempt_processingId hs he ha] at hcondition
      obtain ⟨rfl, hactive⟩ := hcondition
      simp only [Option.isSome_some, if_true, bind_eq_ok_iff] at hrest
      obtain ⟨processing, db₂, hupdate, hrest⟩ := hrest
      rcases updateProcessing_eq_ok_iff.mp hupdate with
        ⟨rfl, -, -⟩ | ⟨row', hlookup, hexpected, hpasses, rfl, rfl⟩
      · simp at hrest
      simp only [Option.isNone_some, Bool.false_and, Bool.false_eq_true, if_false,
        pure_eq_ok_iff] at hrest
      obtain ⟨rfl, rfl⟩ := hrest
      rw [hrep.lookup_some he, Option.some.injEq] at hlookup
      subst hlookup
      rw [fail_row] at hpasses ⊢
      obtain ⟨-, hbounded⟩ := (failed_satisfied_iff now (hs.entry _ _ he)
        (hvalid _ _ he)).mp hpasses
      refine .inr ⟨e, a, he, ha, rfl, hactive, (expects_iff _).mp hexpected, hbounded, rfl, ?_⟩
      rw [attempt_fail_row, ProcessingFields.row_id, ProcessingFields.fail, hs.id _ _ he]
      rfl
  · rintro (⟨rfl, rfl, hnone⟩ | ⟨e, a, he, ha, rfl, hactive, hexpected, hbounded, rfl, rfl⟩)
    · refine ⟨none, db', updateAttempt_lost fun row hrow => ?_, false, db', ⟨rfl, rfl⟩, rfl⟩
      obtain ⟨k, e, a, he, ha, hid, rfl⟩ := (hrep.attempts _ _).mp hrow
      rw [Bool.eq_false_iff]
      intro hmatch
      rw [Bool.and_eq_true, active_iff, decide_eq_true_eq, AttemptFields.row_processingId,
        attempt_processingId hs he ha] at hmatch
      obtain ⟨rfl, hactive⟩ := hmatch
      exact hnone e a he ha hid hactive
    · obtain ⟨q, b, hexecutes, hserves⟩ := (hs.entry _ _ he).executing ha
      have hopen := ((hs.entry _ _ he).unended ha hactive).1
      have hkey := attempt_processingId hs he ha
      have hlookup := hrep.attempt_lookup he ha
      have hpasses := (failed_satisfied_iff now (hs.entry _ _ he) (hvalid _ _ he)).mpr
        ⟨hopen, hbounded⟩
      have hattempt : satisfied (Schema.attemptConstraints d
        (a.fail now category detail).row) = true :=
        fail_satisfied hserves hactive ((hvalid _ _ he).attempt a ha)
          ((hvalid _ _ he).processing.backend b hexecutes.backend) hbounded.1 hbounded.2
      have hmatch : (decide (a.row.processingId = processingId) &&
          Schema.activeAttemptStates.contains a.row.state) = true := by
        rw [Bool.and_eq_true, active_iff, decide_eq_true_eq]
        exact ⟨hkey, hactive⟩
      have honly : OnlyActive db (a.fail now category detail).row :=
        onlyActive_of_coherent hs hrep he ha rfl hkey
      rw [← attempt_fail_row] at hattempt honly ⊢
      refine ⟨_, _, updateAttempt_eq_ok_iff.mpr
        (.inr ⟨a.row, hlookup, hmatch, hattempt, honly, rfl, rfl⟩), true, _, ⟨rfl, rfl⟩, ?_⟩
      rw [if_pos rfl]
      rw [← fail_row] at hpasses ⊢
      refine bind_eq_ok_iff.mpr ⟨_, _, updateProcessing_eq_ok_iff.mpr (.inr
        ⟨_, hrep.lookup_some he, (expects_iff _).mpr hexpected, hpasses, rfl, rfl⟩), ?_⟩
      simp only [Option.isNone_some, Bool.false_and, Bool.false_eq_true, if_false, pure_eq_ok_iff]
      have hid : e.processing.row.id = processingId := hs.id _ _ he
      rw [hid]
      exact ⟨trivial, rfl⟩

theorem failProcessing_outcome (hs : s.Coherent) (hrep : Represents db s) (hvalid : s.Valid d)
    (processingId : UUID) (expected : List ProcessingState) (category detail : String)
    (attemptId : Option UUID) :
    Outcome d now s (.failProcessing processingId expected category detail attemptId) db := by
  refine .of_checked _ (writeFailure d now processingId expected category detail
    attemptId) rfl ?_ rfl
    fun hadmitted htext hexec => ?_
  · rw [and_checks_iff]
    simp [RepositoryCall.Admitted]
  have hconcerns : ∀ {k e e'}, s k = some e → Entry.advance now e
      (.failProcessing processingId expected category detail attemptId) = some e' →
      k = processingId := fun he hadvance =>
    (hs.id _ _ he).symm.trans (Entry.concerns_of_advance hadvance)
  have hfailed : ∀ e, s processingId = some e → e.processing.state ≠ .completed →
      Bounded d 256 category → Bounded d 256 detail →
      ∃ e' : Entry, e'.processing = e.processing.fail now category detail ∧ e'.Coherent ∧
        ((∃ x, decodeProcessing (some (e.processing.fail now category detail).row) = .ok x) ↔
          e.processing.createdAt.instant ≤ now) := by
    intro e he hopen hcategory hdetail
    obtain ⟨attempt, hcoherent, hvalid'⟩ := exists_failed now (hs.entry _ _ he)
      (hvalid _ _ he) hopen hcategory hdetail
    refine ⟨_, rfl, hcoherent, decodeProcessing_returns.trans
      ((deserializeProcessing_iff hcoherent hvalid').trans ?_)⟩
    simp [ProcessingFields.fail]
  cases attemptId with
  | none =>
    by_cases hfound : ∃ e, s processingId = some e ∧ e.processing.state ∈ expected ∧
        e.processing.state ≠ .completed ∧ Bounded d 256 category ∧ Bounded d 256 detail
    · obtain ⟨e, he, hexpected, hopen, hcategory, hdetail⟩ := hfound
      have hresult := hexec.trans (transaction_of_ok _ _ ((writeFailure_none_iff hs hrep hvalid).mpr
        (.inr ⟨e, he, hexpected, hopen, ⟨hcategory, hdetail⟩, rfl, rfl⟩)))
      obtain ⟨e', hfail, hcoherent, hdecodes⟩ := hfailed e he hopen hcategory hdetail
      have hadvance : e.advance now (.failProcessing processingId expected category detail none) =
          some { e with processing := e.processing.fail now category detail } :=
        if_pos ⟨hs.id _ _ he, hexpected⟩
      by_cases hsame : e.processing.fail now category detail = e.processing
      · refine .untaken (fun k e₂ he₂ htakes => ?_) ?_
        · obtain ⟨e₃, hadvance₂, hne⟩ := htakes.advance
          obtain rfl := hconcerns he₂ hadvance₂
          obtain rfl := Option.some.inj (he.symm.trans he₂)
          obtain rfl := Option.some.inj (hadvance.symm.trans hadvance₂)
          exact hne (by rw [hsame])
        · rw [hresult, hsame]
          refine ⟨fun k => ?_, fun _ => rfl⟩
          rw [Table.lookup_insert]
          split
          · next hk => rw [hk, hrep.lookup_some he]
          · rfl
      · refine .taken he ⟨⟨hadmitted, htext, ⟨hcategory, hdetail⟩, trivial⟩, hopen, _, hadvance,
          fun heq => hsame (congrArg Entry.processing heq)⟩ (fun hunchanged => hsame ?_) ?_
        · have hprocessing := hunchanged.processings processingId
          rw [hresult, Table.lookup_insert, if_pos rfl, hrep.lookup_some he, Option.some.injEq,
            ← hfail] at hprocessing
          exact hfail.symm.trans (row_injective hcoherent (hs.entry _ _ he) hprocessing)
        · rw [hresult]
          exact hdecodes
    · refine .untaken (fun k e he htakes => ?_) ?_
      · obtain ⟨e', hadvance, -⟩ := htakes.advance
        obtain rfl := hconcerns he hadvance
        rw [Entry.advance, Option.ite_none_right_eq_some] at hadvance
        exact hfound ⟨e, he, hadvance.1.2, htakes.unended, htakes.storable.valued⟩
      · rw [hexec]
        refine transaction_unchanged fun row db' hbody => ?_
        rcases (writeFailure_none_iff hs hrep hvalid).mp hbody with
          ⟨-, rfl, -⟩ | ⟨e, he, hexpected, hopen, hbounded, -⟩
        · exact .refl _
        · exact absurd ⟨e, he, hexpected, hopen, hbounded⟩ hfound
  | some attemptId =>
    by_cases hfound : ∃ e a, s processingId = some e ∧ e.attempt = some a ∧
        a.attemptId = attemptId ∧ a.state ∈ ExecutionAttemptState.active ∧
        e.processing.state ∈ expected ∧ Bounded d 256 category ∧ Bounded d 256 detail
    · obtain ⟨e, a, he, ha, rfl, hactive, hexpected, hcategory, hdetail⟩ := hfound
      have hresult := hexec.trans (transaction_of_ok _ _ ((writeFailure_some_iff hs hrep hvalid).mpr
        (.inr ⟨e, a, he, ha, rfl, hactive, hexpected, ⟨hcategory, hdetail⟩, rfl, rfl⟩)))
      have hopen := ((hs.entry _ _ he).unended ha hactive).1
      obtain ⟨e', hfail, -, hdecodes⟩ := hfailed e he hopen hcategory hdetail
      have hcoherent := (hs.entry _ _ he).fail_active now ha hactive category detail
      have hadvance : e.advance now
          (.failProcessing processingId expected category detail (some a.attemptId)) =
          some ⟨e.processing.fail now category detail, some (a.fail now category detail)⟩ :=
        (if_pos ⟨hs.id _ _ he, hexpected⟩).trans
          (Entry.move_eq_some_iff.mpr ⟨a, ha, rfl, hactive, rfl⟩)
      have hunchanged := unchanged_iff_of_moved hs hrep he ha hcoherent
      have hne : (⟨e.processing.fail now category detail,
        some (a.fail now category detail)⟩ : Entry)
          ≠ e := by
        intro heq
        have hstate : some (a.fail now category detail).state = some a.state := by
          simpa [ha] using congrArg (fun e => e.attempt.map (·.state)) heq
        rw [Option.some.injEq] at hstate
        rw [← hstate] at hactive
        simp [ExecutionAttemptState.active, AttemptFields.fail] at hactive
      refine .taken he ⟨⟨hadmitted, htext, ⟨hcategory, hdetail⟩, trivial⟩, hopen, _, hadvance, hne⟩
        ?_ ?_
      · rw [hresult]
        exact hunchanged.not.mpr hne
      · rw [hresult]
        exact hdecodes
    · refine .untaken (fun k e he htakes => ?_) ?_
      · obtain ⟨e', hadvance, -⟩ := htakes.advance
        obtain rfl := hconcerns he hadvance
        rw [Entry.advance, Option.ite_none_right_eq_some] at hadvance
        obtain ⟨⟨-, hexpected⟩, hmove⟩ := hadvance
        obtain ⟨a, ha, hid, hactive, -⟩ := Entry.move_eq_some_iff.mp hmove
        exact hfound ⟨e, a, he, ha, hid, hactive, hexpected, htakes.storable.valued⟩
      · rw [hexec]
        refine transaction_unchanged fun row db' hbody => ?_
        rcases (writeFailure_some_iff hs hrep hvalid).mp hbody with
          ⟨-, rfl, -⟩ | ⟨e, a, he, ha, hid, hactive, hexpected, hbounded, -⟩
        · exact .refl _
        · exact absurd ⟨e, a, he, ha, hid, hactive, hexpected, hbounded⟩ hfound

end Failure

end Operations

end Postgres

end Alert2IR
