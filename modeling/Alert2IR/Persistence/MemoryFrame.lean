import Alert2IR.Persistence.MemoryLaw

/-!
# Records that operations leave alone

No operation touches a record in a state it does not expect, nor the attempt of that record, be it
the very values in the dicts or what they stand for.
-/

namespace Alert2IR

namespace Memory

variable {α : Type} {m m' : Memory} {time : Int} {now : Datetime} {k : UUID}
  {r : ProcessingRecord} {y : Except PyError α}

/-- A record and its attempt are the same as before, to the last field. -/
def Frozen (k : UUID) (m m' : Memory) : Prop :=
  m'.records.lookup k = m.records.lookup k ∧ m'.attemptOf k = m.attemptOf k

theorem Frozen.rfl : Frozen k m m := ⟨Eq.refl _, Eq.refl _⟩

theorem frozen_putRecord {k' : UUID} (r' : ProcessingRecord) (hne : k ≠ k') :
    Frozen k m { m with records := m.records.insert k' r' } := by
  refine ⟨?_, Eq.refl _⟩
  rw [Table.lookup_insert, if_neg hne]

theorem Kept.frozen_putAttempt (h : m.Kept time) {a : UUID} {x : ExecutionAttempt}
    (x' : ExecutionAttempt) (hx : m.attempts.lookup a = some x) (hne : k ≠ x.processingId) :
    Frozen k m { m with attempts := m.attempts.insert a x' } := by
  refine ⟨Eq.refl _, ?_⟩
  unfold attemptOf
  cases hattempt : m.attemptByProcessing.lookup k with
  | none => simp only [Option.bind_none]
  | some a' =>
      obtain ⟨-, y, hy, rfl⟩ := h.owner k a' hattempt
      have hother : a' ≠ a := by
        rintro rfl
        exact hne (congrArg (·.processingId) (Option.some.inj (hy.symm.trans hx)))
      simp only [Option.bind_some]
      rw [Table.lookup_insert, if_neg hother]

theorem Kept.frozen_put (h : m.Kept time) {a k' : UUID} {x : ExecutionAttempt}
    (x' : ExecutionAttempt) (r' : ProcessingRecord) (hx : m.attempts.lookup a = some x)
    (hne : k ≠ x.processingId) (hne' : k ≠ k') : Frozen k m (m.put a x' k' r') := by
  obtain ⟨hrecord, hattempt⟩ := h.frozen_putAttempt x' hx hne
  obtain ⟨hrecord', hattempt'⟩ :=
    frozen_putRecord (m := { m with attempts := m.attempts.insert a x' }) r' hne'
  exact ⟨hrecord'.trans hrecord, hattempt'.trans hattempt⟩

/-- What an operation leaves of a record that it does not expect. -/
def Leaves (k : UUID) (m : Memory) (_ : Except PyError α) (m' : Memory) : Prop := Frozen k m m'

theorem leaves_self (k : UUID) (m : Memory) (y : Except PyError α) : Leaves k m y m := Frozen.rfl

section AttemptFirst

variable {a : UUID} {attemptExpected : AttemptFields → Bool}
  {recordExpected : AttemptFields → ProcessingFields → Bool}
  {attemptMove : AttemptFields → AttemptFields} {recordMove : ProcessingFields → ProcessingFields}
  {result : ExecutionAttempt → ProcessingRecord → α}

/-- The record that is found with an attempt is not one in another state. -/
theorem ne_of_both (hr : m.records.lookup k = some r)
    (hunexpected : ∀ x : AttemptFields, recordExpected x r.toProcessingFields = false)
    {x : ExecutionAttempt} {r₀ : ProcessingRecord}
    (hboth : m.both a attemptExpected recordExpected = some (x, r₀)) : k ≠ x.processingId := by
  rintro rfl
  obtain ⟨-, hr₀, -, hexpected⟩ := both_eq_some_iff.mp hboth
  obtain rfl := Option.some.inj (hr.symm.trans hr₀)
  rw [hunexpected] at hexpected
  cases hexpected

theorem attemptFirst_frozen (h : m.Kept time) (hs : m.view.Coherent)
    (hr : m.records.lookup k = some r)
    (hunexpected : ∀ x : AttemptFields, recordExpected x r.toProcessingFields = false) :
    Frozen k m
      ((attemptFirst a attemptExpected recordExpected attemptMove recordMove result).run m).2 := by
  rw [attemptFirst_run h.lookupBoth_run]
  cases hboth : m.both a attemptExpected recordExpected with
  | none => exact .rfl
  | some found =>
      obtain ⟨x, r₀⟩ := found
      have hne := ne_of_both hr hunexpected hboth
      obtain ⟨hx, hr₀, -⟩ := both_eq_some_iff.mp hboth
      dsimp only
      cases ExecutionAttempt.make (attemptMove x.toAttemptFields) with
      | error e => exact .rfl
      | ok x' =>
          dsimp only
          cases ProcessingRecord.make (recordMove r₀.toProcessingFields) with
          | error e => exact h.frozen_putAttempt x' hx hne
          | ok r' =>
              refine h.frozen_put x' r' hx hne ?_
              rwa [processingId_of_lookup hs hr₀]

end AttemptFirst

theorem acceptProcessing_frozen (hr : m.records.lookup k = some r) {processingId : UUID}
    {alert : CanonicalAlert} {scope key : String} {version : Int} {digest : List UInt8} :
    Ensures (acceptProcessing processingId alert scope key version digest now) m (Leaves k m) := by
  unfold acceptProcessing
  refine ensures_ofExcept_bind (fun e _ => leaves_self _ _ _) fun _ _ => ensures_getMemory_bind ?_
  cases m.idempotency.lookup (scope, key) with
  | some existingId =>
      exact ensures_ofExcept_bind (fun e _ => leaves_self _ _ _) fun _ _ => leaves_self _ _ _
  | none =>
      dsimp only
      split
      · exact .rfl
      · next hfresh =>
        refine ensures_ofExcept_bind (fun e _ => leaves_self _ _ _) fun r' _ => ?_
        have hne : k ≠ processingId := by
          rintro rfl
          rw [hr] at hfresh
          exact hfresh rfl
        exact frozen_putRecord r' hne

theorem storeNoActionResult_frozen (hr : m.records.lookup k = some r)
    (hstate : r.state ≠ .accepted) {processingId : UUID} {result : OrchestrationResult} :
    Ensures (storeNoActionResult processingId result now) m (Leaves k m) := by
  unfold storeNoActionResult
  refine ensures_ofExcept_bind (fun e _ => leaves_self _ _ _) fun _ _ => ensures_getMemory_bind ?_
  cases hcurrent : m.records.lookup processingId with
  | none => exact .rfl
  | some current =>
      dsimp only
      split
      · exact .rfl
      · next haccepted =>
        refine ensures_ofExcept_bind (fun e _ => leaves_self _ _ _) fun r' _ => ?_
        have hne : k ≠ processingId := by
          rintro rfl
          obtain rfl := Option.some.inj (hr.symm.trans hcurrent)
          exact haccepted hstate
        exact frozen_putRecord r' hne

theorem storePlan_frozen (h : m.Kept time) (hr : m.records.lookup k = some r)
    (hstate : r.state ≠ .accepted) {processingId : UUID} {decision : Decision}
    {incident : Incident} {request : InvestigationRequest} {selectedBackend : String}
    {attemptId operationKey : UUID} :
    Ensures (storePlan processingId decision incident request selectedBackend attemptId operationKey
      now) m (Leaves k m) := by
  unfold storePlan
  refine ensures_ofExcept_bind (fun e _ => leaves_self _ _ _) fun _ _ => ensures_getMemory_bind ?_
  cases hcurrent : m.records.lookup processingId with
  | none => exact .rfl
  | some current =>
      dsimp only
      split
      · exact .rfl
      next haccepted =>
      split
      · exact .rfl
      split
      · exact .rfl
      next hunused =>
      refine ensures_ofExcept_bind (fun e _ => leaves_self _ _ _) fun r' _ => ?_
      refine ensures_ofExcept_bind (fun e _ => leaves_self _ _ _) fun x _ => ?_
      have hne : k ≠ processingId := by
        rintro rfl
        obtain rfl := Option.some.inj (hr.symm.trans hcurrent)
        exact haccepted hstate
      refine ⟨?_, ?_⟩
      · exact (frozen_putRecord r' hne).1
      · change ((m.attemptByProcessing.insert processingId attemptId).lookup k).bind
          (m.attempts.insert attemptId x).lookup = m.attemptOf k
        unfold attemptOf
        rw [Table.lookup_insert, if_neg hne]
        cases hattempt : m.attemptByProcessing.lookup k with
        | none => simp only [Option.bind_none]
        | some a' =>
            obtain ⟨-, z, hz, -⟩ := h.owner k a' hattempt
            have hother : a' ≠ attemptId := by
              rintro rfl
              rw [hz] at hunused
              exact hunused (.inl rfl)
            simp only [Option.bind_some]
            rw [Table.lookup_insert, if_neg hother]

theorem completeProcessing_frozen (h : m.Kept time) (hs : m.view.Coherent)
    (hr : m.records.lookup k = some r) (hstate : r.state ≠ .submitted) {a : UUID}
    {result : OrchestrationResult} :
    Ensures (completeProcessing a result now) m (Leaves k m) := by
  unfold completeProcessing
  refine ensures_ofExcept_bind (fun e _ => leaves_self _ _ _) fun _ _ => ?_
  unfold Ensures
  rw [run_bind, h.lookupBoth_run]
  cases hboth : m.both a (·.state = .submitted) fun _ record => record.state = .submitted with
  | none => exact .rfl
  | some found =>
      obtain ⟨x, r₀⟩ := found
      have hne : k ≠ x.processingId := ne_of_both hr (fun _ => decide_eq_false hstate) hboth
      obtain ⟨hx, hr₀, -⟩ := both_eq_some_iff.mp hboth
      refine ensures_ofExcept_bind (fun e _ => leaves_self _ _ _) fun x' _ => ?_
      refine ensures_ofExcept_bind (fun e _ => leaves_self _ _ _) fun r' _ => ?_
      refine h.frozen_put x' r' hx hne ?_
      rwa [processingId_of_lookup hs hr₀]

theorem failProcessing_frozen (h : m.Kept time) (hr : m.records.lookup k = some r)
    {processingId : UUID} {expectedStates : List ProcessingState}
    (hstate : k = processingId → r.state ∉ expectedStates) {category detail : String}
    {attemptId : Option UUID} :
    Ensures (failProcessing processingId expectedStates category detail attemptId now) m
      (Leaves k m) := by
  unfold failProcessing
  apply ensures_getMemory_bind
  cases hrecord : m.records.lookup processingId with
  | none => exact .rfl
  | some record =>
      dsimp only
      split
      · exact .rfl
      next hexpected =>
      have hne : k ≠ processingId := by
        rintro rfl
        obtain rfl := Option.some.inj (hr.symm.trans hrecord)
        exact hexpected (hstate rfl)
      cases hattempt : m.attemptToFail processingId attemptId with
      | none => exact .rfl
      | some found =>
          refine ensures_ofExcept_bind (fun e _ => leaves_self _ _ _) fun r' _ => ?_
          cases found with
          | none => exact frozen_putRecord r' hne
          | some found =>
              obtain ⟨b, x⟩ := found
              obtain ⟨-, hx, hprocessing, -⟩ := attemptToFail_eq_some hattempt
              dsimp only
              cases ExecutionAttempt.make { x.toAttemptFields with
                  state := .failed
                  failedAt := some now
                  errorCategory := some category
                  errorDetail := some detail } with
              | error e => exact frozen_putRecord r' hne
              | ok x' => exact h.frozen_put x' r' hx (hprocessing ▸ hne) hne

/-- **A record that is settled is left alone**, with its attempt, by every fitting call. -/
theorem exec_frozen (h : m.Kept time) (hs : m.view.Coherent) {c : RepositoryCall}
    (hfits : m.view.Fits c) (hr : m.records.lookup k = some r)
    (hsettled : r.state.isSettled = true) : Frozen k m (exec now c m).2 := by
  have hne : ∀ state, state.isSettled = false → r.state ≠ state := by
    rintro state hunsettled rfl
    rw [hsettled] at hunsettled
    cases hunsettled
  cases c with
  | acceptProcessing => exact acceptProcessing_frozen hr
  | get => exact .rfl
  | storeNoActionResult => exact storeNoActionResult_frozen hr (hne .accepted rfl)
  | storePlan => exact storePlan_frozen h hr (hne .accepted rfl)
  | getAttemptForProcessing => exact .rfl
  | claimAttemptForSubmission a =>
      change Frozen k m ((claimAttemptForSubmission a now).run m).2
      rw [claimAttemptForSubmission_eq]
      exact attemptFirst_frozen h hs hr fun _ => decide_eq_false (hne .planned rfl)
  | markAttemptSubmitted a externalOperationId =>
      change Frozen k m ((markAttemptSubmitted a externalOperationId now).run m).2
      rw [markAttemptSubmitted_eq]
      exact attemptFirst_frozen h hs hr fun _ => decide_eq_false (hne .submitting rfl)
  | recordPoll a remoteState category detail =>
      change Frozen k m ((recordPoll a remoteState category detail now).run m).2
      rw [recordPoll_eq]
      exact attemptFirst_frozen h hs hr fun _ => decide_eq_false (hne .submitted rfl)
  | completeProcessing => exact completeProcessing_frozen h hs hr (hne .submitted rfl)
  | failProcessing processingId expected category detail attemptId =>
      refine failProcessing_frozen h hr fun hk hexpected => ?_
      have hfit := hfits k _ (view_of_lookup hr) ((processingId_of_lookup hs hr).trans hk)
      cases attemptId with
      | none =>
          rw [show expected = [.accepted] from hfit] at hexpected
          exact hne .accepted rfl (List.mem_singleton.mp hexpected)
      | some attemptId =>
          have hmem := hfit r.state hexpected
          revert hmem hsettled
          cases r.state <;> decide
  | markRecoveryRequired a expected category detail =>
      change Frozen k m ((markRecoveryRequired a expected category detail now).run m).2
      rw [markRecoveryRequired_eq]
      refine attemptFirst_frozen h hs hr fun x => decide_eq_false ?_
      intro hexpected
      revert hexpected hsettled
      cases x.state <;> cases r.state <;> decide
  | findReconcilable =>
      change Frozen k m ((findReconcilable _ _).run m).2
      rw [findReconcilable_run]
      exact .rfl

end Memory

end Alert2IR
