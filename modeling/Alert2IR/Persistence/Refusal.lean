import Alert2IR.Application.CallSites
import Alert2IR.Lifecycle.Store
import Alert2IR.Persistence.Statements

/-!
# When a PostgreSQL operation refuses

An operation that does not find its row in a state it expects commits nothing and answers `None`.
Two things can keep it from getting that far: a text parameter that cannot be bound, and an attempt
that was updated before its processing was looked at.
-/

namespace Alert2IR

open Interleaving

/-- The arguments pass the checks an operation makes before it looks at any row. -/
def RepositoryCall.Admitted : RepositoryCall → Prop
  | .storeNoActionResult _ result => result.decision.outcome = .noAction
  | .storePlan _ decision incident request .. =>
      decision.outcome = .investigate ∧ incident.alert.source = decision.source ∧
        request.incident.utc = incident.utc
  | .recordPoll _ _ category detail => Postgres.validatePollError category detail = .ok ()
  | .completeProcessing _ result => result.decision.outcome = .investigate
  | .failProcessing _ expected category detail _ =>
      Postgres.validateError category detail = .ok () ∧ expected ≠ []
  | .markRecoveryRequired _ expected category detail =>
      Postgres.validateError category detail = .ok () ∧ expected ≠ [] ∧
        ∀ state ∈ expected, state ∈ [ExecutionAttemptState.submitting, .submitted]
  | .findReconcilable limit _ => 1 ≤ limit
  | _ => True

/-- Every call site passes arguments that are admitted. -/
theorem Issues.admitted {fp : CanonicalAlert → Except PyError (Int × List UInt8)} {i : Invocation}
    {h : List Observation} {c : RepositoryCall} (hissues : Issues fp i h (.repository c)) :
    c.Admitted := by
  cases hissues with
  | quiet hquiet => cases hquiet
  | findReconcilable _ hlimit => exact hlimit
  | failPlanning _ _ herror =>
      simp only [List.mem_cons, List.not_mem_nil, or_false, Prod.mk.injEq] at herror
      rcases herror with ⟨rfl, rfl⟩ | ⟨rfl, rfl⟩ | ⟨rfl, rfl⟩ <;> exact ⟨by decide +kernel, by simp⟩
  | storeNoActionResult _ _ houtcome => exact houtcome
  | storePlan _ _ houtcome _ hdecision hincident =>
      exact ⟨houtcome, by rw [← hdecision, Incident.source_eq], hincident⟩
  | @complete record attempt _ _ _ _ _ _ _ _ result _ _ _ _ _ _ _ _ _ hpresent =>
      cases houtcome : result.decision.outcome with
      | investigate => exact houtcome
      | noAction => simp [(result.of_noAction houtcome).1] at hpresent
  | recoverIncomplete _ _ _ hdetail =>
      simp only [List.mem_cons, List.not_mem_nil, or_false] at hdetail
      rcases hdetail with rfl | rfl <;> exact ⟨by decide +kernel, by simp, by simp⟩
  | recoverStatus _ _ _ hdetail =>
      simp only [List.mem_cons, List.not_mem_nil, or_false] at hdetail
      rcases hdetail with rfl | rfl <;> exact ⟨by decide +kernel, by simp, by simp⟩
  | recordTimeout =>
      change Postgres.validatePollError (some _) (some _) = _
      decide +kernel
  | recordStatus => rfl
  | failUnconfigured => exact ⟨by decide +kernel, by simp⟩
  | failRejected => exact ⟨by decide +kernel, by simp⟩
  | failExecution => exact ⟨by decide +kernel, by simp⟩
  | recoverExpired => exact ⟨by decide +kernel, by simp, by simp⟩
  | recoverUnknown => exact ⟨by decide +kernel, by simp, by simp⟩
  | recoverUnpersisted => exact ⟨by decide +kernel, by simp, by simp⟩
  | recoverStale => exact ⟨by decide +kernel, by simp, by simp⟩
  | recoverCollection => exact ⟨by decide +kernel, by simp, by simp⟩
  | _ => trivial

namespace Postgres

/-- The state in the row of a processing. -/
def processingState (db : Db) (processingId : UUID) : Option String :=
  (db.processings.lookup processingId).map (·.state)

/-- The state in the row of an attempt. -/
def attemptState (db : Db) (attemptId : UUID) : Option String :=
  (db.attempts.lookup attemptId).map (·.state)

/-- The processing or the attempt is not, or no longer, in a state the call expects. -/
def Lost (db : Db) : RepositoryCall → Prop
  | .storeNoActionResult processingId _ | .storePlan processingId .. =>
      processingState db processingId ≠ some "accepted"
  | .claimAttemptForSubmission attemptId => attemptState db attemptId ≠ some "planned"
  | .markAttemptSubmitted attemptId _ => attemptState db attemptId ≠ some "submitting"
  | .recordPoll attemptId .. | .completeProcessing attemptId _ =>
      attemptState db attemptId ≠ some "submitted"
  | .failProcessing processingId expected _ _ attemptId =>
      (∀ state ∈ expected, processingState db processingId ≠ some state.value) ∨
        ∃ a, attemptId = some a ∧ ∀ state ∈ Schema.activeAttemptStates,
          attemptState db a ≠ some state
  | .markRecoveryRequired attemptId expected .. =>
      ∀ state ∈ expected, attemptState db attemptId ≠ some state.value
  | _ => False

instance (db : Db) : (c : RepositoryCall) → Decidable (Lost db c)
  | .storeNoActionResult .. | .storePlan .. | .claimAttemptForSubmission _
  | .markAttemptSubmitted .. | .recordPoll .. | .completeProcessing .. =>
      inferInstanceAs (Decidable (_ ≠ _))
  | .failProcessing _ _ _ _ none =>
      decidable_of_iff _ (or_iff_left (by rintro ⟨_, ⟨⟩, -⟩)).symm
  | .failProcessing processingId expected _ _ (some a) =>
      decidable_of_iff
        ((∀ state ∈ expected, processingState db processingId ≠ some state.value) ∨
          ∀ state ∈ Schema.activeAttemptStates, attemptState db a ≠ some state)
        (or_congr_right (by simp))
  | .markRecoveryRequired .. => inferInstanceAs (Decidable (∀ state ∈ _, _ ≠ _))
  | .acceptProcessing .. | .get _ | .getAttemptForProcessing _ | .findReconcilable .. =>
      inferInstanceAs (Decidable False)

/-- The text parameters that are bound before the row that decides is looked at. -/
def guardText : RepositoryCall → List String
  | .storeNoActionResult _ result => decisionText result.decision
  | .storePlan _ decision _ request backend .. => backend :: decisionText decision ++
    requestText request
  | .markAttemptSubmitted _ externalOperationId => [externalOperationId]
  | .recordPoll _ remoteState category detail => remoteState :: category.toList ++ detail.toList
  | .failProcessing _ _ category detail _ => [category, detail]
  | .markRecoveryRequired _ _ category detail => [category, detail]
  | _ => []

/-- A failure that would end an attempt which is still active. -/
def EndsActive (db : Db) (c : RepositoryCall) : Prop :=
  ∃ processingId expected category detail attemptId,
    c = .failProcessing processingId expected category detail (some attemptId) ∧
      ∃ state ∈ Schema.activeAttemptStates, attemptState db attemptId = some state

instance (db : Db) : (c : RepositoryCall) → Decidable (EndsActive db c)
  | .failProcessing _ _ _ _ (some a) =>
      decidable_of_iff (∃ state ∈ Schema.activeAttemptStates, attemptState db a = some state)
        ⟨fun h => ⟨_, _, _, _, _, rfl, h⟩, by rintro ⟨_, _, _, _, _, ⟨⟩, h⟩; exact h⟩
  | .failProcessing _ _ _ _ none => isFalse (by rintro ⟨_, _, _, _, _, ⟨⟩, -⟩)
  | .storeNoActionResult .. | .storePlan .. | .claimAttemptForSubmission _
  | .markAttemptSubmitted .. | .recordPoll .. | .completeProcessing .. | .markRecoveryRequired ..
  | .acceptProcessing .. | .get _ | .getAttemptForProcessing _ | .findReconcilable .. =>
      isFalse (by rintro ⟨_, _, _, _, _, ⟨⟩, -⟩)

section Refusal

variable {α β : Type} {d : Dialect} {db : Db}

theorem updateAttempt_lost {attemptId : UUID} {condition : AttemptRow → Bool}
    {set : AttemptRow → AttemptRow}
    (hlost : ∀ row, db.attempts.lookup attemptId = some row → condition row = false) :
    updateAttempt d attemptId condition set db = .ok (none, db) :=
  updateAttempt_eq_ok_iff.mpr (.inl ⟨rfl, rfl, hlost⟩)

theorem updateProcessing_lost {processingId : UUID} {condition : ProcessingRow → Bool}
    {set : ProcessingRow → ProcessingRow}
    (hlost : ∀ row, db.processings.lookup processingId = some row → condition row = false) :
    updateProcessing d processingId condition set db = .ok (none, db) :=
  updateProcessing_eq_ok_iff.mpr (.inl ⟨rfl, rfl, hlost⟩)

theorem updateBoth_lost {attemptId : UUID} {condition : AttemptRow → Bool}
    {set : AttemptRow → AttemptRow} {processingCondition : ProcessingRow → Bool}
    {processingSet : ProcessingRow → ProcessingRow} {diverged : String} {text : List String}
    (hlost : ∀ row, db.attempts.lookup attemptId = some row → condition row = false) :
    updateBoth d attemptId condition set processingCondition processingSet diverged text db
      = .ok (none, db) :=
  bind_eq_ok_iff.mpr ⟨none, db, updateAttempt_lost hlost, rfl⟩

/-- A transaction that binds its text and then refuses. -/
theorem transaction_lost {text : List String} {body : Tx (Option α)}
    {after : Option α → Except PyError (Option β)}
    (hrefuses : text.all nulFree = true → body db = .ok (none, db))
    (hbinds : ∀ x db', body db = .ok (x, db') → text.all nulFree = true)
    (hafter : after none = .ok none) :
    transaction body after db = (.ok none, db) ↔ text.all nulFree = true := by
  unfold transaction
  constructor
  · intro h
    cases hbody : body db with
    | error e => simp [hbody] at h
    | ok p => exact hbinds _ _ hbody
  · intro htext
    rw [hrefuses htext]
    simp [hafter]

theorem nulFree_of_bind {text : List String} {rest : Unit → Tx α} {x : α} {db' : Db}
    (h : (bindText text >>= rest) db = .ok (x, db')) : text.all nulFree = true := by
  obtain ⟨_, _, hbind, -⟩ := bind_eq_ok_iff.mp h
  exact (bindText_eq_ok_iff.mp hbind).1

/-- A row whose state is not the expected one does not match. -/
theorem attempt_unmatched {attemptId : UUID} {state : String}
    (hlost : attemptState db attemptId ≠ some state) :
    ∀ row, db.attempts.lookup attemptId = some row → decide (row.state = state) = false := by
  intro row hrow
  refine decide_eq_false fun hstate => hlost ?_
  rw [attemptState, hrow, Option.map_some, hstate]

theorem processing_unmatched {processingId : UUID} {state : String}
    (hlost : processingState db processingId ≠ some state) :
    ∀ row, db.processings.lookup processingId = some row → decide (row.state = state) = false := by
  intro row hrow
  refine decide_eq_false fun hstate => hlost ?_
  rw [processingState, hrow, Option.map_some, hstate]

theorem exists_none_iff {r : Except PyError (Option β) × Db} :
    (∃ x, r = (.ok x, db) ∧ x.isSome = false) ↔ r = (.ok none, db) := by
  constructor
  · rintro ⟨x, hr, hnone⟩
    rw [hr, Option.isSome_eq_false_iff.mp hnone |> Option.isNone_iff_eq_none.mp]
  · intro hr
    exact ⟨none, hr, rfl⟩

theorem guarded_ok {check : Except PyError Unit} {rest : Except PyError α × Db}
    (hcheck : check = .ok ()) : guarded check db rest = rest := by
  rw [hcheck]
  rfl

theorem not_endsActive {c : RepositoryCall}
    (hc : ∀ k expected category detail a, c ≠ .failProcessing k expected category detail (some a)) :
    ¬ EndsActive db c := by
  rintro ⟨k, expected, category, detail, a, rfl, -⟩
  exact hc _ _ _ _ _ rfl

end Refusal

section Operations

variable {d : Dialect} {db : Db} {now : Int}

theorem failProcessing_lost_iff {processingId : UUID} {expected : List ProcessingState}
    {category detail : String} {attemptId : Option UUID}
    (hadmitted : (RepositoryCall.failProcessing processingId expected category detail
      attemptId).Admitted)
    (howner : ∀ a row, attemptId = some a → db.attempts.lookup a = some row →
      row.processingId = processingId)
    (hlost : Lost db (.failProcessing processingId expected category detail attemptId)) :
    failProcessing d processingId expected category detail attemptId now db = (.ok none, db) ↔
      [category, detail].all nulFree = true ∧
        ¬ EndsActive db (.failProcessing processingId expected category detail attemptId) := by
  obtain ⟨hvalid, hexpected⟩ := hadmitted
  have hcheck : (do
      validateError category detail
      checks [(!expected.isEmpty, "expected processing states cannot be empty")]) = .ok () := by
    rw [hvalid]
    cases expected with
    | nil => exact absurd rfl hexpected
    | cons => rfl
  unfold failProcessing
  rw [guarded_ok hcheck]
  have hunmatched : (∀ state ∈ expected, processingState db processingId ≠ some state.value) →
      ∀ row, db.processings.lookup processingId = some row →
        (expected.map ProcessingState.value).contains row.state = false := by
    intro hlost row hrow
    rw [List.contains_eq_mem, decide_eq_false_iff_not, List.mem_map]
    rintro ⟨state, hmem, hstate⟩
    exact hlost state hmem (by rw [processingState, hrow, Option.map_some, hstate])
  cases attemptId with
  | none =>
      have hlost : ∀ state ∈ expected, processingState db processingId ≠ some state.value := by
        rcases hlost with hlost | ⟨a, ha, -⟩
        · exact hlost
        · cases ha
      have hnever : ¬ EndsActive db
          (.failProcessing processingId expected category detail none) :=
        not_endsActive (by simp)
      rw [and_iff_left hnever]
      refine transaction_lost (fun htext => ?_) (fun _ _ hbody => nulFree_of_bind hbody) rfl
      refine bind_eq_ok_iff.mpr ⟨(), db, bindText_of_nulFree htext, ?_⟩
      simp only [pure_bind, if_true, Option.isSome_none, Bool.and_false]
      exact bind_eq_ok_iff.mpr ⟨none, db, updateProcessing_lost (hunmatched hlost), rfl⟩
  | some a =>
      by_cases hactive : ∃ state ∈ Schema.activeAttemptStates, attemptState db a = some state
      · refine iff_of_false (fun h => ?_) fun h => h.2 ⟨_, _, _, _, _, rfl, hactive⟩
        -- The attempt matches, so the transaction goes on to the processing, which does not.
        obtain ⟨state, hmem, hstate⟩ := hactive
        obtain ⟨row, hrow, rfl⟩ := Option.map_eq_some_iff.mp hstate
        have hprocessing : ∀ state ∈ expected,
          processingState db processingId ≠ some state.value := by
          rcases hlost with hlost | ⟨_, ha, hinactive⟩
          · exact hlost
          · cases ha
            exact absurd hstate (hinactive _ hmem)
        unfold transaction at h
        split at h
        · next x db' hbody =>
          obtain ⟨_, _, hbind, hrest⟩ := bind_eq_ok_iff.mp hbody
          obtain ⟨-, rfl⟩ := bindText_eq_ok_iff.mp hbind
          simp only [pure_bind, bind_eq_ok_iff] at hrest
          obtain ⟨attempt, db₁, hattempt, hrest⟩ := hrest
          rcases updateAttempt_eq_ok_iff.mp hattempt with ⟨-, -, hnone⟩ | ⟨_, -, -, -, -, rfl, rfl⟩
          · have hfalse := hnone row hrow
            rw [howner a row rfl hrow] at hfalse
            simp [hmem] at hfalse
          · simp only [Option.isSome_some, if_true, bind_eq_ok_iff] at hrest
            obtain ⟨processing, db₂, hupdate, hrest⟩ := hrest
            rcases updateProcessing_eq_ok_iff.mp hupdate with ⟨rfl, -, -⟩ | ⟨row', hrow', hmatch, -⟩
            · simp at hrest
            · rw [hunmatched hprocessing row' hrow'] at hmatch
              cases hmatch
        · cases h
      · have hnever : ¬ EndsActive db
            (.failProcessing processingId expected category detail (some a)) := by
          rintro ⟨_, _, _, _, _, heq, hstate⟩
          cases heq
          exact hactive hstate
        rw [and_iff_left hnever]
        refine transaction_lost (fun htext => ?_) (fun _ _ hbody => nulFree_of_bind hbody) rfl
        refine bind_eq_ok_iff.mpr ⟨(), db, bindText_of_nulFree htext, ?_⟩
        simp only [pure_bind]
        refine bind_eq_ok_iff.mpr ⟨none, db, updateAttempt_lost fun row hrow => ?_, by simp⟩
        rw [Bool.and_eq_false_iff, List.contains_eq_mem]
        exact .inr <| decide_eq_false fun hmem =>
          hactive ⟨_, hmem, by rw [attemptState, hrow, Option.map_some]⟩

/-- **What a lost race does.** An admitted operation that does not find its row as it expects it
refuses without a trace, unless it cannot bind its text or ends an attempt that is still active. -/
theorem exec_lost_iff {c : RepositoryCall} (hadmitted : c.Admitted)
    (howner : ∀ k expected category detail a row,
      c = .failProcessing k expected category detail (some a) →
      db.attempts.lookup a = some row → row.processingId = k)
    (hlost : Lost db c) :
    (∃ x, exec d now c db = (.ok x, db) ∧ c.wrote x = false) ↔
      (guardText c).all nulFree = true ∧ ¬ EndsActive db c := by
  cases c with
  | acceptProcessing | get | getAttemptForProcessing | findReconcilable => exact hlost.elim
  | failProcessing k expected category detail attemptId =>
      refine exists_none_iff.trans (failProcessing_lost_iff hadmitted (fun a row ha => ?_) hlost)
      subst ha
      exact howner _ _ _ _ _ _ rfl
  | storeNoActionResult k result =>
      rw [and_iff_left (not_endsActive (by simp))]
      refine exists_none_iff.trans ?_
      change guarded _ _ _ = _ ↔ _
      rw [guarded_ok (checks_eq_ok_iff.mpr (by simpa [RepositoryCall.Admitted] using hadmitted))]
      refine transaction_lost (fun htext => ?_) (fun _ _ hbody => nulFree_of_bind hbody) rfl
      exact bind_eq_ok_iff.mpr ⟨(), db, bindText_of_nulFree htext,
        updateProcessing_lost (processing_unmatched hlost)⟩
  | storePlan k decision incident request backend attemptId operationKey =>
      rw [and_iff_left (not_endsActive (by simp))]
      refine exists_none_iff.trans ?_
      change guarded _ _ _ = _ ↔ _
      rw [guarded_ok (checks_eq_ok_iff.mpr (by simpa [RepositoryCall.Admitted] using hadmitted))]
      refine transaction_lost (fun htext => ?_) (fun _ _ hbody => nulFree_of_bind hbody) rfl
      exact bind_eq_ok_iff.mpr ⟨(), db, bindText_of_nulFree htext, bind_eq_ok_iff.mpr
        ⟨none, db, updateProcessing_lost (processing_unmatched hlost), rfl⟩⟩
  | claimAttemptForSubmission attemptId =>
      rw [and_iff_left (not_endsActive (by simp))]
      refine exists_none_iff.trans ?_
      exact transaction_lost (fun _ => updateBoth_lost (attempt_unmatched hlost))
        (fun _ _ _ => rfl) rfl
  | markAttemptSubmitted attemptId externalOperationId =>
      rw [and_iff_left (not_endsActive (by simp))]
      refine exists_none_iff.trans ?_
      refine transaction_lost (fun htext => ?_) (fun _ _ hbody => nulFree_of_bind hbody) rfl
      exact bind_eq_ok_iff.mpr ⟨(), db, bindText_of_nulFree htext,
        updateBoth_lost (attempt_unmatched hlost)⟩
  | recordPoll attemptId remoteState category detail =>
      rw [and_iff_left (not_endsActive (by simp))]
      refine exists_none_iff.trans ?_
      change guarded _ _ _ = _ ↔ _
      rw [guarded_ok hadmitted]
      refine transaction_lost (fun htext => ?_) (fun _ _ hbody => nulFree_of_bind hbody) rfl
      exact bind_eq_ok_iff.mpr ⟨(), db, bindText_of_nulFree htext,
        updateBoth_lost (attempt_unmatched hlost)⟩
  | completeProcessing attemptId result =>
      rw [and_iff_left (not_endsActive (by simp))]
      refine exists_none_iff.trans ?_
      obtain ⟨_, _, x, -, -, hx⟩ := result.of_investigate hadmitted
      have houtcome : result.decision.outcome = .investigate := hadmitted
      change completeProcessing _ _ _ _ _ = _ ↔ _
      unfold completeProcessing
      rw [houtcome, hx]
      exact transaction_lost (fun _ => updateBoth_lost (attempt_unmatched hlost))
        (fun _ _ _ => rfl) rfl
  | markRecoveryRequired attemptId expected category detail =>
      rw [and_iff_left (not_endsActive (by simp))]
      refine exists_none_iff.trans ?_
      obtain ⟨hvalid, hexpected, hstates⟩ := hadmitted
      change guarded _ _ _ = _ ↔ _
      rw [guarded_ok (by
        rw [hvalid]
        refine checks_eq_ok_iff.mpr ?_
        cases expected with
        | nil => exact absurd rfl hexpected
        | cons => simpa using hstates)]
      refine transaction_lost (fun htext => ?_) (fun _ _ hbody => nulFree_of_bind hbody) rfl
      refine bind_eq_ok_iff.mpr ⟨(), db, bindText_of_nulFree htext, updateBoth_lost ?_⟩
      intro row hrow
      rw [List.contains_eq_mem, decide_eq_false_iff_not, List.mem_map]
      rintro ⟨state, hmem, hstate⟩
      exact hlost state hmem (by rw [attemptState, hrow, Option.map_some, hstate])

end Operations

end Postgres

end Alert2IR
