import Alert2IR.Persistence.Memory

/-!
# What an operation on the dicts leaves

An operation computes with the dicts and then stores into them, one dict after the other. Whatever
raises before the first store leaves them as they were. The operations that move an attempt on store
it before they build its record, except for the completion.
-/

namespace Alert2IR

namespace Memory

variable {α : Type} {m m' : Memory} {now : Datetime}

/-- The dicts hold the same, in whatever order. -/
structure Same (m m' : Memory) : Prop where
  records : ∀ k, m'.records.lookup k = m.records.lookup k
  idempotency : ∀ k, m'.idempotency.lookup k = m.idempotency.lookup k
  attempts : ∀ a, m'.attempts.lookup a = m.attempts.lookup a
  attemptByProcessing : ∀ k, m'.attemptByProcessing.lookup k = m.attemptByProcessing.lookup k
  operationKeys : ∀ k, k ∈ m'.operationKeys ↔ k ∈ m.operationKeys

theorem Same.rfl : Same m m :=
  ⟨fun _ => Eq.refl _, fun _ => Eq.refl _, fun _ => Eq.refl _, fun _ => Eq.refl _,
    fun _ => Iff.rfl⟩

/-- An attempt stored anew changes the dicts exactly if it is another one. -/
theorem same_insert_attempt_iff {a : UUID} {x x' : ExecutionAttempt}
    (hx : m.attempts.lookup a = some x) :
    Same m { m with attempts := m.attempts.insert a x' } ↔ x' = x := by
  constructor
  · intro h
    have hlookup := h.attempts a
    rw [Table.lookup_insert, if_pos (Eq.refl a), hx] at hlookup
    exact Option.some.inj hlookup
  · intro h
    refine { Same.rfl with attempts := fun a' => ?_ }
    rw [Table.lookup_insert]
    split
    · next heq => rw [heq, hx, h]
    · exact Eq.refl _

/-- What holds of the answer of an operation and of the dicts it leaves. -/
def Ensures (x : Op α) (m : Memory) (post : Except PyError α → Memory → Prop) : Prop :=
  post (x.run m).1 (x.run m).2

section Ensures

variable {β : Type} {post : Except PyError β → Memory → Prop}

theorem ensures_ofExcept_bind {x : Except PyError α} {f : α → Op β}
    (herror : ∀ e, x = .error e → post (.error e) m)
    (hok : ∀ a, x = .ok a → Ensures (f a) m post) : Ensures (ofExcept x >>= f) m post := by
  unfold Ensures
  rw [run_bind, run_ofExcept]
  cases hx : x with
  | error e => exact herror e hx
  | ok a => exact hok a hx

theorem ensures_getMemory_bind {f : Memory → Op β} (h : Ensures (f m) m post) :
    Ensures (getMemory >>= f) m post := by
  unfold Ensures
  rw [run_bind, run_getMemory]
  exact h

end Ensures

/-- If it raises, the dicts are as they were. -/
def Atomic (x : Op α) (m : Memory) : Prop :=
  Ensures x m fun y m' => ∀ e, y = .error e → Same m m'

/-! ### An attempt and its record -/

section Both

variable {a : UUID} {attemptExpected : AttemptFields → Bool}
  {recordExpected : AttemptFields → ProcessingFields → Bool}

/-- The attempt and the record an operation goes on with. -/
def both (m : Memory) (a : UUID) (attemptExpected : AttemptFields → Bool)
    (recordExpected : AttemptFields → ProcessingFields → Bool) :
    Option (ExecutionAttempt × ProcessingRecord) := do
  let attempt ← m.attempts.lookup a
  let record ← m.records.lookup attempt.processingId
  if attemptExpected attempt.toAttemptFields ∧
      recordExpected attempt.toAttemptFields record.toProcessingFields then
    some (attempt, record)
  else none

theorem both_eq_some_iff {x : ExecutionAttempt} {r : ProcessingRecord} :
    m.both a attemptExpected recordExpected = some (x, r) ↔
      m.attempts.lookup a = some x ∧ m.records.lookup x.processingId = some r ∧
        attemptExpected x.toAttemptFields = true ∧
        recordExpected x.toAttemptFields r.toProcessingFields = true := by
  simp only [both, Option.bind_eq_bind, Option.bind_eq_some_iff, Option.ite_none_right_eq_some,
    Option.some.injEq, Prod.mk.injEq]
  constructor
  · rintro ⟨y, hy, r', hr', hexpected, rfl, rfl⟩
    exact ⟨hy, hr', hexpected⟩
  · rintro ⟨hx, hr, hexpected⟩
    exact ⟨x, hx, r, hr, hexpected, rfl, rfl⟩

/-- Only an attempt without a record makes the opening lines raise. -/
theorem lookupBoth_run_or (m : Memory) (a : UUID) (attemptExpected : AttemptFields → Bool)
    (recordExpected : AttemptFields → ProcessingFields → Bool) :
    (lookupBoth a attemptExpected recordExpected).run m =
      (.ok (m.both a attemptExpected recordExpected), m) ∨
    (∃ x, m.attempts.lookup a = some x ∧ m.records.lookup x.processingId = none) ∧
      m.both a attemptExpected recordExpected = none ∧
      (lookupBoth a attemptExpected recordExpected).run m = (.error (.other "KeyError"), m) := by
  unfold lookupBoth both
  rw [run_bind, run_getMemory]
  dsimp only
  cases hx : m.attempts.lookup a with
  | none => exact .inl rfl
  | some x =>
      dsimp only
      by_cases hattempt : attemptExpected x.toAttemptFields = true
      · rw [if_neg (by simp [hattempt]), run_bind, run_ofExcept]
        cases hr : m.records.lookup x.processingId with
        | none => exact .inr ⟨⟨x, rfl, hr⟩, by simp [hr], rfl⟩
        | some r =>
            left
            by_cases hrecord : recordExpected x.toAttemptFields r.toProcessingFields = true
            · simp [item, hattempt, hrecord, hr]
              rfl
            · simp [item, hattempt, hrecord, hr]
              rfl
      · rw [if_pos (by simp [hattempt])]
        left
        cases hr : m.records.lookup x.processingId <;> simp [hattempt, hr] <;> rfl

/-- An attempt and its record, moved on together. -/
def put (m : Memory) (a : UUID) (x : ExecutionAttempt) (k : UUID) (r : ProcessingRecord) : Memory :=
  { m with attempts := m.attempts.insert a x, records := m.records.insert k r }

/-- The operations that move an attempt on, store it, and then build and store its record. -/
def attemptFirst (a : UUID) (attemptExpected : AttemptFields → Bool)
    (recordExpected : AttemptFields → ProcessingFields → Bool)
    (attemptMove : AttemptFields → AttemptFields)
    (recordMove : ProcessingFields → ProcessingFields)
    (result : ExecutionAttempt → ProcessingRecord → α) : Op (Option α) := do
  match ← lookupBoth a attemptExpected recordExpected with
  | none => return none
  | some (attempt, record) => do
      let attempt' ← ofExcept (ExecutionAttempt.make (attemptMove attempt.toAttemptFields))
      setAttempt a attempt'
      let record' ← ofExcept (ProcessingRecord.make (recordMove record.toProcessingFields))
      setRecord record.processingId record'
      return some (result attempt' record')

theorem claimAttemptForSubmission_eq (a : UUID) (now : Datetime) :
    claimAttemptForSubmission a now =
      attemptFirst a (·.state = .planned) (fun _ record => record.state = .planned)
        (fun attempt => { attempt with state := .submitting, startedAt := some now })
        (fun record => { record with state := .submitting, updatedAt := now })
        (fun attempt _ => attempt) := rfl

theorem markAttemptSubmitted_eq (a : UUID) (externalOperationId : String) (now : Datetime) :
    markAttemptSubmitted a externalOperationId now =
      attemptFirst a (·.state = .submitting) (fun _ record => record.state = .submitting)
        (fun attempt => { attempt with
          state := .submitted
          externalOperationId := some externalOperationId
          submittedAt := some now })
        (fun record => { record with state := .submitted, updatedAt := now })
        (fun attempt _ => attempt) := rfl

theorem recordPoll_eq (a : UUID) (remoteState : String) (errorCategory errorDetail : Option String)
    (now : Datetime) :
    recordPoll a remoteState errorCategory errorDetail now =
      attemptFirst a (·.state = .submitted) (fun _ record => record.state = .submitted)
        (fun attempt => { attempt with
          lastPolledAt := some now
          lastRemoteState := some remoteState
          errorCategory := errorCategory
          errorDetail := errorDetail })
        (fun record => { record with
          updatedAt := now, errorCategory := errorCategory, errorDetail := errorDetail })
        (fun attempt _ => attempt) := rfl

theorem markRecoveryRequired_eq (a : UUID) (expectedStates : List ExecutionAttemptState)
    (errorCategory errorDetail : String) (now : Datetime) :
    markRecoveryRequired a expectedStates errorCategory errorDetail now =
      attemptFirst a (·.state ∈ expectedStates)
        (fun attempt record => some record.state = expectedProcessing attempt.state)
        (fun attempt => { attempt with
          state := .recoveryRequired
          errorCategory := some errorCategory
          errorDetail := some errorDetail })
        (fun record => { record with
          state := .recoveryRequired
          updatedAt := now
          errorCategory := some errorCategory
          errorDetail := some errorDetail })
        (fun _ record => record) := rfl

variable {attemptMove : AttemptFields → AttemptFields}
  {recordMove : ProcessingFields → ProcessingFields}
  {result : ExecutionAttempt → ProcessingRecord → α}

/-- What such an operation does, once it has found the attempt and the record. -/
theorem attemptFirst_run (h : (lookupBoth a attemptExpected recordExpected).run m =
      (.ok (m.both a attemptExpected recordExpected), m)) :
    (attemptFirst a attemptExpected recordExpected attemptMove recordMove result).run m =
      match m.both a attemptExpected recordExpected with
      | none => (.ok none, m)
      | some (x, r) =>
          match ExecutionAttempt.make (attemptMove x.toAttemptFields) with
          | .error e => (.error e, m)
          | .ok x' =>
              match ProcessingRecord.make (recordMove r.toProcessingFields) with
              | .error e => (.error e, { m with attempts := m.attempts.insert a x' })
              | .ok r' => (.ok (some (result x' r')), m.put a x' r.processingId r') := by
  unfold attemptFirst
  rw [run_bind, h]
  cases m.both a attemptExpected recordExpected with
  | none => rfl
  | some found =>
      obtain ⟨x, r⟩ := found
      dsimp only
      rw [run_bind, run_ofExcept]
      cases ExecutionAttempt.make (attemptMove x.toAttemptFields) with
      | error e => rfl
      | ok x' =>
          change (ofExcept (ProcessingRecord.make (recordMove r.toProcessingFields)) >>= _).run
            { m with attempts := m.attempts.insert a x' } = _
          rw [run_bind, run_ofExcept]
          cases ProcessingRecord.make (recordMove r.toProcessingFields) <;> rfl

/-- The attempt is stored, and its record refused. -/
theorem attemptFirst_atomic_iff :
    Atomic (attemptFirst a attemptExpected recordExpected attemptMove recordMove result) m ↔
      ∀ x r, m.both a attemptExpected recordExpected = some (x, r) →
        (attemptMove x.toAttemptFields).postInit = .ok () →
        attemptMove x.toAttemptFields ≠ x.toAttemptFields →
        (recordMove r.toProcessingFields).postInit = .ok () := by
  rcases lookupBoth_run_or m a attemptExpected recordExpected with hrun | ⟨-, hnone, hrun⟩
  · unfold Atomic Ensures
    rw [attemptFirst_run hrun]
    cases hboth : m.both a attemptExpected recordExpected with
    | none => simp
    | some found =>
        obtain ⟨x, r⟩ := found
        have hx := (both_eq_some_iff.mp hboth).1
        dsimp only
        constructor
        · intro hatomic y s hfound hattempt hmoved
          cases hfound
          obtain ⟨x', hmake, hx'⟩ := ExecutionAttempt.exists_make_of_postInit hattempt
          rw [hmake] at hatomic
          dsimp only at hatomic
          cases hrecord : ProcessingRecord.make (recordMove r.toProcessingFields) with
          | ok r' =>
              rw [← ProcessingRecord.make_eq_ok_iff.mp hrecord]
              exact r'.valid
          | error e =>
              rw [hrecord] at hatomic
              have hsame := (same_insert_attempt_iff hx).mp (hatomic e rfl)
              rw [← hx', hsame] at hmoved
              exact absurd rfl hmoved
        · intro h e
          cases hmake : ExecutionAttempt.make (attemptMove x.toAttemptFields) with
          | error e' => exact fun _ => .rfl
          | ok x' =>
              have hx' := ExecutionAttempt.make_eq_ok_iff.mp hmake
              cases hrecord : ProcessingRecord.make (recordMove r.toProcessingFields) with
              | ok r' => exact fun he => nomatch he
              | error e' =>
                  intro _
                  refine (same_insert_attempt_iff hx).mpr (ExecutionAttempt.fields_injective ?_)
                  rw [hx']
                  by_contra hmoved
                  have hvalid := h x r rfl (hx' ▸ x'.valid) hmoved
                  obtain ⟨r', hmade, -⟩ := ProcessingRecord.exists_make_of_postInit hvalid
                  cases hrecord.symm.trans hmade
  · constructor
    · intro _ x r hfound
      rw [hnone] at hfound
      cases hfound
    · intro _ e _
      rw [attemptFirst, run_bind, hrun]
      exact .rfl

end Both

/-! ### What the checks ask for -/

/-- Errors that records and attempts accept. -/
def ErrorsFit (category detail : Option String) : Prop :=
  checks [requireBoundedError category "error_category", requireBoundedError detail "error_detail",
    (category.isNone = detail.isNone, "error category and detail must be present together")] =
      .ok ()

instance (category detail : Option String) : Decidable (ErrorsFit category detail) :=
  inferInstanceAs (Decidable (_ = _))

/-- The errors of a record that has a plan, unless they are set anew. -/
theorem errorsFit_of_record (r : ProcessingRecord) : ErrorsFit r.errorCategory r.errorDetail := by
  have h := r.valid
  simp only [ProcessingFields.postInit, checks_append] at h
  exact h.1.1.2

theorem updatedAt_aware (r : ProcessingRecord) : r.updatedAt.isAware = true :=
  checks_eq_ok_iff.mp r.valid (requireAware (some r.updatedAt) "updated_at")
    (by simp [ProcessingFields.timestampChecks])

theorem createdAt_le_updatedAt (r : ProcessingRecord) :
    r.createdAt.instant ≤ r.updatedAt.instant := by
  have h := checks_eq_ok_iff.mp r.valid (r.createdAt.instant ≤ r.updatedAt.instant,
    "updated_at cannot precede created_at") (by simp [ProcessingFields.timestampChecks])
  exact of_decide_eq_true h

/-- The states of a processing that has a plan and no result. -/
def planStates : List ProcessingState := [.planned, .submitting, .submitted, .recoveryRequired]

/-- Between these states only the clock and the errors of a record are checked anew. -/
theorem postInit_planStates_iff (now : Datetime) {f : ProcessingFields} (state : ProcessingState)
    {category detail : Option String} (hf : f.postInit = .ok ()) (hfrom : f.state ∈ planStates)
    (hto : state ∈ planStates) (herrors : ErrorsFit category detail) :
    ProcessingFields.postInit { f with
      state := state, updatedAt := now, errorCategory := category, errorDetail := detail }
        = .ok () ↔ now.isAware = true ∧ f.createdAt.instant ≤ now.instant := by
  simp only [ProcessingFields.postInit, checks_append] at hf ⊢
  obtain ⟨⟨⟨⟨htimes, hidentity⟩, -⟩, hstate⟩, hsource⟩ := hf
  rw [checks_eq_ok_iff] at htimes hstate
  simp only [ProcessingFields.timestampChecks, requireAware, List.forall_mem_cons, ifPresent_some,
    decide_eq_true_eq] at htimes
  obtain ⟨hcreated, -, hcompleted, hfailed, -⟩ := htimes
  have htimestamps (f' : ProcessingFields) (hf' : f' = { f with
      state := state, updatedAt := now, errorCategory := category, errorDetail := detail }) :
      checks f'.timestampChecks = .ok () ↔
        now.isAware = true ∧ f.createdAt.instant ≤ now.instant := by
    subst hf'
    rw [checks_eq_ok_iff]
    simp [ProcessingFields.timestampChecks, requireAware, hcreated, hcompleted, hfailed]
  constructor
  · intro h
    exact (htimestamps _ rfl).mp h.1.1.1.1
  · intro hnow
    refine ⟨⟨⟨⟨(htimestamps _ rfl).mpr hnow, hidentity⟩, herrors⟩, ?_⟩, hsource⟩
    rw [checks_eq_ok_iff]
    have hplan : (f.plannedDecision.isSome && f.plannedIncident.isSome && f.plannedRequest.isSome
        && f.selectedBackend.isSome) = true ∧ f.completedResult.isNone = true := by
      cases hs : f.state <;> simp [hs, planStates] at hfrom <;>
        simpa [ProcessingFields.stateChecks, hs] using hstate
    cases state <;> simp [planStates] at hto <;>
      simpa [ProcessingFields.stateChecks] using hplan

/-- An attempt that has been claimed, and not submitted, has not ended either. -/
def Unended (f : AttemptFields) : Prop :=
  f.state = .submitting → f.completedAt = none ∧ f.failedAt = none

section Attempts

variable {f : AttemptFields}

/-- The checks of an attempt, one for each field. -/
theorem commonChecks_iff : checks f.commonChecks = .ok () ↔
    1 ≤ f.attemptNumber ∧ isBlank f.backend = false ∧ f.createdAt.isAware = true ∧
      ifPresent f.startedAt Datetime.isAware = true ∧
      ifPresent f.submittedAt Datetime.isAware = true ∧
      ifPresent f.lastPolledAt Datetime.isAware = true ∧
      ifPresent f.completedAt Datetime.isAware = true ∧
      ifPresent f.failedAt Datetime.isAware = true ∧
      (requireBoundedError f.lastRemoteState "last_remote_state").1 = true ∧
      ErrorsFit f.errorCategory f.errorDetail ∧
      ifPresent f.externalOperationId (fun id => !isBlank id && id.length ≤ 512) = true := by
  rw [ErrorsFit, checks_eq_ok_iff, checks_eq_ok_iff]
  simp only [AttemptFields.commonChecks, requireAware, ifPresent_some, List.forall_mem_cons,
    decide_eq_true_eq, Bool.not_eq_true']
  simp only [and_assoc, List.not_mem_nil, false_imp_iff, implies_true, and_true]

theorem postInit_claim_iff (now : Datetime) (hf : f.postInit = .ok ())
    (hstate : f.state = .planned) :
    AttemptFields.postInit { f with state := .submitting, startedAt := some now } = .ok () ↔
      now.isAware = true := by
  rw [AttemptFields.postInit, checks_append, commonChecks_iff] at hf ⊢
  simp_all [AttemptFields.stateChecks, checks_eq_ok_iff]

theorem postInit_submitted_iff (now : Datetime) (externalOperationId : String)
    (hf : f.postInit = .ok ()) (hstate : f.state = .submitting) (hunended : Unended f) :
    AttemptFields.postInit { f with
      state := .submitted
      externalOperationId := some externalOperationId
      submittedAt := some now } = .ok () ↔
      now.isAware = true ∧
        isBlank externalOperationId = false ∧ externalOperationId.length ≤ 512 := by
  obtain ⟨hcompletedAt, hfailedAt⟩ := hunended hstate
  rw [AttemptFields.postInit, checks_append, commonChecks_iff] at hf ⊢
  simp_all [AttemptFields.stateChecks, checks_eq_ok_iff]

theorem postInit_poll_iff (now : Datetime) (remoteState : String)
    (category detail : Option String)
    (hf : f.postInit = .ok ()) (hstate : f.state = .submitted) :
    AttemptFields.postInit { f with
      lastPolledAt := some now
      lastRemoteState := some remoteState
      errorCategory := category
      errorDetail := detail } = .ok () ↔
      now.isAware = true ∧ (requireBoundedError (some remoteState) "last_remote_state").1 = true ∧
        ErrorsFit category detail := by
  rw [AttemptFields.postInit, checks_append, commonChecks_iff] at hf ⊢
  simp_all [AttemptFields.stateChecks, checks_eq_ok_iff]

theorem postInit_recovery_iff (category detail : String) (hf : f.postInit = .ok ())
    (hstate : f.state = .submitting ∨ f.state = .submitted) (hunended : Unended f) :
    AttemptFields.postInit { f with
      state := .recoveryRequired
      errorCategory := some category
      errorDetail := some detail } = .ok () ↔ ErrorsFit (some category) (some detail) := by
  rw [AttemptFields.postInit, checks_append, commonChecks_iff] at hf ⊢
  rcases hstate with hstate | hstate
  · obtain ⟨hcompletedAt, hfailedAt⟩ := hunended hstate
    simp_all [AttemptFields.stateChecks, checks_eq_ok_iff]
  · simp_all [AttemptFields.stateChecks, checks_eq_ok_iff]

/-- An attempt that has not ended can always be failed with an error its record accepts. -/
theorem postInit_fail {category detail : String} (hf : f.postInit = .ok ())
    (hcompletedAt : f.completedAt = none) (haware : now.isAware = true)
    (herrors : ErrorsFit (some category) (some detail)) :
    AttemptFields.postInit { f with
      state := .failed, failedAt := some now, errorCategory := some category
      errorDetail := some detail } = .ok () := by
  rw [AttemptFields.postInit, checks_append, commonChecks_iff] at hf ⊢
  simp_all [AttemptFields.stateChecks, checks_eq_ok_iff]

end Attempts

/-! ### What one operation leaves -/

/-- No attempt that has not been submitted has ended. -/
def Quiet (m : Memory) : Prop := ∀ a x, m.attempts.lookup a = some x → Unended x.toAttemptFields

theorem Quiet.empty : Quiet empty := by
  intro a x hx
  simp [Memory.empty] at hx

theorem Quiet.insert (h : m.Quiet) {a : UUID} {x : ExecutionAttempt}
    (hx : Unended x.toAttemptFields) : Quiet { m with attempts := m.attempts.insert a x } := by
  intro a' x' hx'
  rw [Table.lookup_insert] at hx'
  split at hx'
  · cases hx'
    exact hx
  · exact h a' x' hx'

/-- An attempt in another state than `submitting` may have ended. -/
theorem unended_of_ne {f : AttemptFields} (h : f.state ≠ .submitting) : Unended f :=
  fun hstate => absurd hstate h

/-- What an operation leaves that stores nothing it may still have to take back. -/
def Settled (m : Memory) (y : Except PyError α) (m' : Memory) : Prop :=
  (∀ e, y = .error e → Same m m') ∧ m'.Quiet

theorem Quiet.settled (h : m.Quiet) (y : Except PyError α) : Settled m y m :=
  ⟨fun _ _ => .rfl, h⟩

theorem Quiet.settled_ok (m' : Memory) (h : m'.Quiet) (x : α) : Settled m (.ok x) m' :=
  ⟨fun _ he => (nomatch he), h⟩

theorem acceptProcessing_settled (h : m.Quiet) {processingId : UUID} {alert : CanonicalAlert}
    {scope key : String} {version : Int} {digest : List UInt8} :
    Ensures (acceptProcessing processingId alert scope key version digest now) m (Settled m) := by
  unfold acceptProcessing
  refine ensures_ofExcept_bind (fun e _ => h.settled _) fun _ _ => ensures_getMemory_bind ?_
  cases m.idempotency.lookup (scope, key) with
  | some existingId => exact ensures_ofExcept_bind (fun e _ => h.settled _) fun _ _ => h.settled _
  | none =>
      dsimp only
      split
      · exact h.settled _
      · refine ensures_ofExcept_bind (fun e _ => h.settled _) fun r _ => ?_
        exact Quiet.settled_ok { m with
          records := m.records.insert processingId r
          idempotency := m.idempotency.insert (scope, key) processingId } h _

theorem storeNoActionResult_settled (h : m.Quiet) {processingId : UUID}
    {result : OrchestrationResult} :
    Ensures (storeNoActionResult processingId result now) m (Settled m) := by
  unfold storeNoActionResult
  refine ensures_ofExcept_bind (fun e _ => h.settled _) fun _ _ => ensures_getMemory_bind ?_
  cases m.records.lookup processingId with
  | none => exact h.settled _
  | some current =>
      dsimp only
      split
      · exact h.settled _
      · refine ensures_ofExcept_bind (fun e _ => h.settled _) fun r _ => ?_
        exact Quiet.settled_ok { m with records := m.records.insert processingId r } h _

theorem storePlan_settled (h : m.Quiet) {processingId : UUID} {decision : Decision}
    {incident : Incident} {request : InvestigationRequest} {selectedBackend : String}
    {attemptId operationKey : UUID} :
    Ensures (storePlan processingId decision incident request selectedBackend attemptId operationKey
      now) m (Settled m) := by
  unfold storePlan
  refine ensures_ofExcept_bind (fun e _ => h.settled _) fun _ _ => ensures_getMemory_bind ?_
  cases m.records.lookup processingId with
  | none => exact h.settled _
  | some current =>
      dsimp only
      split
      · exact h.settled _
      split
      · exact h.settled _
      split
      · exact h.settled _
      · refine ensures_ofExcept_bind (fun e _ => h.settled _) fun r _ => ?_
        refine ensures_ofExcept_bind (fun e _ => h.settled _) fun x hx => ?_
        have hstate : Unended x.toAttemptFields := by
          rw [ExecutionAttempt.make_eq_ok_iff.mp hx]
          exact unended_of_ne (by simp)
        exact Quiet.settled_ok { m with
          records := m.records.insert processingId r
          attempts := m.attempts.insert attemptId x
          attemptByProcessing := m.attemptByProcessing.insert processingId attemptId
          operationKeys := operationKey :: m.operationKeys } (h.insert hstate) _

/-- A completion moves both before it stores either. -/
theorem completeProcessing_settled (h : m.Quiet) {a : UUID} {result : OrchestrationResult} :
    Ensures (completeProcessing a result now) m (Settled m) := by
  unfold completeProcessing
  refine ensures_ofExcept_bind (fun e _ => h.settled _) fun _ _ => ?_
  unfold Ensures
  rw [run_bind]
  rcases lookupBoth_run_or m a (·.state = .submitted)
    fun _ record => record.state = .submitted with hrun | ⟨-, -, hrun⟩
  · rw [hrun]
    cases m.both a (·.state = .submitted) fun _ record => record.state = .submitted with
    | none => exact h.settled _
    | some found =>
        obtain ⟨x, r⟩ := found
        refine ensures_ofExcept_bind (fun e _ => h.settled _) fun x' hx' => ?_
        refine ensures_ofExcept_bind (fun e _ => h.settled _) fun r' _ => ?_
        have hstate : Unended x'.toAttemptFields := by
          rw [ExecutionAttempt.make_eq_ok_iff.mp hx']
          exact unended_of_ne (by simp)
        exact Quiet.settled_ok (m.put a x' r.processingId r') (h.insert hstate) _
  · rw [hrun]
    exact h.settled _

/-- An attempt that may be failed has not been completed. -/
theorem completedAt_of_active (x : ExecutionAttempt) (hunended : Unended x.toAttemptFields)
    (hactive : x.state ∈ activeAttemptStates) : x.completedAt = none := by
  have hvalid := x.valid
  rw [AttemptFields.postInit, checks_append] at hvalid
  have hstate := hvalid.2
  rw [checks_eq_ok_iff] at hstate
  cases hs : x.state with
  | submitting => exact (hunended hs).1
  | completed => simp [hs, activeAttemptStates] at hactive
  | failed => simp [hs, activeAttemptStates] at hactive
  | planned | submitted | recoveryRequired =>
      simp_all [AttemptFields.stateChecks]

theorem attemptToFail_eq_some {processingId : UUID} {attemptId : Option UUID} {a : UUID}
    {x : ExecutionAttempt} (h : m.attemptToFail processingId attemptId = some (some (a, x))) :
    attemptId = some a ∧ m.attempts.lookup a = some x ∧ x.processingId = processingId ∧
      x.state ∈ activeAttemptStates := by
  cases attemptId with
  | none => simp [attemptToFail] at h
  | some b =>
      cases hx : m.attempts.lookup b with
      | none => simp [attemptToFail, hx] at h
      | some y =>
          simp only [attemptToFail, hx, Option.ite_none_left_eq_some, Option.some.injEq,
            Prod.mk.injEq, ne_eq, not_not] at h
          obtain ⟨hprocessing, hactive, rfl, rfl⟩ := h
          exact ⟨rfl, hx, hprocessing, hactive⟩

theorem eq_none_of_attemptToFail {processingId : UUID} {attemptId : Option UUID}
    (h : m.attemptToFail processingId attemptId = some none) : attemptId = none := by
  cases attemptId with
  | none => rfl
  | some a =>
      cases hx : m.attempts.lookup a with
      | none => simp [attemptToFail, hx] at h
      | some x => simp [attemptToFail, hx] at h

/-- What the failed attempt checks, the failed record has checked. -/
theorem postInit_fail_of_record {x : ExecutionAttempt} {r r' : ProcessingRecord}
    {category detail : String} (hunended : Unended x.toAttemptFields)
    (hactive : x.state ∈ activeAttemptStates)
    (hr' : r'.toProcessingFields = { r.toProcessingFields with
      state := .failed
      updatedAt := now
      failedAt := some now
      errorCategory := some category
      errorDetail := some detail }) :
    AttemptFields.postInit { x.toAttemptFields with
      state := .failed, failedAt := some now, errorCategory := some category
      errorDetail := some detail } = .ok () := by
  have haware := updatedAt_aware r'
  rw [hr'] at haware
  have herrors := errorsFit_of_record r'
  rw [hr'] at herrors
  exact postInit_fail x.valid (completedAt_of_active x hunended hactive) haware herrors

/-- A failure stores the record first, and its attempt is never refused. -/
theorem failProcessing_settled (h : m.Quiet) {processingId : UUID}
    {expectedStates : List ProcessingState} {category detail : String} {attemptId : Option UUID} :
    Ensures (failProcessing processingId expectedStates category detail attemptId now) m
      (Settled m) := by
  unfold failProcessing
  apply ensures_getMemory_bind
  cases m.records.lookup processingId with
  | none => exact h.settled _
  | some record =>
      dsimp only
      split
      · exact h.settled _
      cases hattempt : m.attemptToFail processingId attemptId with
      | none => exact h.settled _
      | some found =>
          refine ensures_ofExcept_bind (fun e _ => h.settled _) fun r hr => ?_
          have hfields := ProcessingRecord.make_eq_ok_iff.mp hr
          cases found with
          | none =>
              exact Quiet.settled_ok { m with records := m.records.insert processingId r } h _
          | some found =>
              obtain ⟨b, x⟩ := found
              obtain ⟨-, hx, -, hactive⟩ := attemptToFail_eq_some hattempt
              have hvalid := postInit_fail_of_record (h b x hx) hactive hfields
              obtain ⟨x', hmake, hx'⟩ := ExecutionAttempt.exists_make_of_postInit hvalid
              have hstate : Unended x'.toAttemptFields := by
                rw [hx']
                exact unended_of_ne (by simp)
              dsimp only
              rw [hmake]
              exact Quiet.settled_ok (m.put b x' processingId r) (h.insert hstate) _

theorem findReconcilable_settled (h : m.Quiet) {limit : Int} {staleBefore : Datetime} :
    Ensures (findReconcilable limit staleBefore) m (Settled m) := by
  unfold Ensures
  rw [findReconcilable_run]
  exact h.settled _

section AttemptFirst

variable {a : UUID} {attemptExpected : AttemptFields → Bool}
  {recordExpected : AttemptFields → ProcessingFields → Bool}
  {attemptMove : AttemptFields → AttemptFields}
  {recordMove : ProcessingFields → ProcessingFields}
  {result : ExecutionAttempt → ProcessingRecord → α}

theorem attemptFirst_quiet (h : m.Quiet) (hmove : ∀ x : ExecutionAttempt,
      attemptExpected x.toAttemptFields = true → Unended (attemptMove x.toAttemptFields)) :
    ((attemptFirst a attemptExpected recordExpected attemptMove recordMove result).run
      m).2.Quiet := by
  rcases lookupBoth_run_or m a attemptExpected recordExpected with hrun | ⟨-, -, hrun⟩
  · rw [attemptFirst_run hrun]
    cases hboth : m.both a attemptExpected recordExpected with
    | none => exact h
    | some found =>
        obtain ⟨x, r⟩ := found
        dsimp only
        cases hmake : ExecutionAttempt.make (attemptMove x.toAttemptFields) with
        | error e => exact h
        | ok x' =>
            have hunended : Unended x'.toAttemptFields := by
              rw [ExecutionAttempt.make_eq_ok_iff.mp hmake]
              exact hmove x (both_eq_some_iff.mp hboth).2.2.1
            dsimp only
            cases ProcessingRecord.make (recordMove r.toProcessingFields) with
            | error e => exact h.insert hunended
            | ok r' => exact Quiet.insert (m := { m with
                records := m.records.insert r.processingId r' }) h hunended
  · rw [attemptFirst, run_bind, hrun]
    exact h

end AttemptFirst

/-- An attempt that is planned has neither started nor ended. -/
theorem unended_of_planned {x : ExecutionAttempt} (h : x.state = .planned) :
    x.completedAt = none ∧ x.failedAt = none := by
  have hvalid := x.valid
  rw [AttemptFields.postInit, checks_append] at hvalid
  have hstate := hvalid.2
  simp_all [AttemptFields.stateChecks, checks_eq_ok_iff]

theorem Quiet.exec (h : m.Quiet) (now : Datetime) (c : RepositoryCall) :
    (exec now c m).2.Quiet := by
  cases c with
  | acceptProcessing => exact (acceptProcessing_settled h).2
  | get => exact h
  | storeNoActionResult => exact (storeNoActionResult_settled h).2
  | storePlan => exact (storePlan_settled h).2
  | getAttemptForProcessing => exact h
  | claimAttemptForSubmission a =>
      change (((claimAttemptForSubmission a now).run m).2).Quiet
      rw [claimAttemptForSubmission_eq]
      apply attemptFirst_quiet h
      intro x hplanned _
      exact unended_of_planned (of_decide_eq_true hplanned)
  | markAttemptSubmitted a externalOperationId =>
      change (((markAttemptSubmitted a externalOperationId now).run m).2).Quiet
      rw [markAttemptSubmitted_eq]
      exact attemptFirst_quiet h fun _ _ => unended_of_ne (by simp)
  | recordPoll a remoteState category detail =>
      change (((recordPoll a remoteState category detail now).run m).2).Quiet
      rw [recordPoll_eq]
      apply attemptFirst_quiet h
      intro x hsubmitted
      apply unended_of_ne
      simp [of_decide_eq_true hsubmitted]
  | completeProcessing => exact (completeProcessing_settled h).2
  | failProcessing => exact (failProcessing_settled h).2
  | markRecoveryRequired a expected category detail =>
      change (((markRecoveryRequired a expected category detail now).run m).2).Quiet
      rw [markRecoveryRequired_eq]
      exact attemptFirst_quiet h fun _ _ => unended_of_ne (by simp)
  | findReconcilable => exact (findReconcilable_settled h).2

/-- Dicts that any operations may have left, whatever their clock showed. -/
inductive Reachable : Memory → Prop
  | empty : Reachable empty
  | exec {m : Memory} (h : Reachable m) (now : Datetime) (c : RepositoryCall) :
      Reachable (exec now c m).2

theorem Reachable.quiet (h : m.Reachable) : m.Quiet := by
  induction h with
  | empty => exact .empty
  | exec _ now c ih => exact ih.exec now c

end Memory

end Alert2IR
