import Alert2IR.Persistence.Rows
import Alert2IR.Persistence.Statements

/-!
# Entries that meet the schema

The domain classes see to most of the columns on their own. What is left to the callers is written
down here once: the identity of a request, the name of a backend, and the texts of errors, operation
IDs and remote states. A coherent entry that keeps to it has rows that satisfy every constraint, and
a lifecycle operation given such values keeps it so.
-/

namespace Alert2IR

open Sql Schema

section Valid

variable (d : Dialect)

/-- A text that is not blank and has at most `bound` characters. -/
def Bounded (bound : Nat) (value : String) : Prop :=
  notBlank d value = true ∧ value.length ≤ bound

/-- An error category and its detail, both there or both not. -/
inductive ErrorPair : Option String → Option String → Prop
  | none : ErrorPair none none
  | some {category detail : String} (hcategory : Bounded d 256 category)
      (hdetail : Bounded d 256 detail) : ErrorPair (some category) (some detail)

/-- The identity a request is accepted under. -/
structure ValidIdentity (source scope key : String) (version : Int) (digest : List UInt8) :
    Prop where
  scope : scope = source
  visible : visibleAscii key = true
  nonempty : 1 ≤ key.length
  bounded : key.length ≤ 128
  version : version = 1
  digest : digest.length = 32

structure AttemptFields.Valid (a : AttemptFields) : Prop where
  external : ∀ x, a.externalOperationId = some x → Bounded d 512 x
  remoteState : ∀ x, a.lastRemoteState = some x → Bounded d 256 x
  errors : ErrorPair d a.errorCategory a.errorDetail
  errored : a.state = .failed ∨ a.state = .recoveryRequired → a.errorCategory.isSome = true

structure ProcessingFields.Valid (p : ProcessingFields) : Prop where
  identity : ∃ scope key version digest, p.idempotencyScope = some scope ∧
    p.idempotencyKey = some key ∧ p.fingerprintVersion = some version ∧
    p.requestFingerprint = some digest ∧
    ValidIdentity p.alert.source.source scope key version digest
  backend : ∀ b, p.selectedBackend = some b → notBlank d b = true
  errors : ErrorPair d p.errorCategory p.errorDetail
  quiet : p.state ∈ [ProcessingState.accepted, .planned, .submitting, .completed] →
    p.errorCategory = none
  errored : p.state = .failed ∨ p.state = .recoveryRequired → p.errorCategory.isSome = true

structure Entry.Valid (e : Entry) : Prop where
  processing : e.processing.Valid d
  attempt : ∀ a, e.attempt = some a → a.Valid d

/-- The values of a call are ones the domain allows. -/
def RepositoryCall.Valued : RepositoryCall → Prop
  | .acceptProcessing _ alert scope key version digest =>
      ValidIdentity alert.source.source scope key version digest
  | .storePlan _ _ _ _ backend _ _ => notBlank d backend = true
  | .markAttemptSubmitted _ externalOperationId => Bounded d 512 externalOperationId
  | .recordPoll _ remoteState category detail =>
      Bounded d 256 remoteState ∧ ErrorPair d category detail
  | .failProcessing _ _ category detail _ => Bounded d 256 category ∧ Bounded d 256 detail
  | .markRecoveryRequired _ _ category detail => Bounded d 256 category ∧ Bounded d 256 detail
  | _ => True

end Valid

variable {d : Dialect} {now : Int} {c : RepositoryCall} {e e' : Entry}

/-- What is not blank to Python is not blank to the server. -/
theorem notBlank_of_not_isBlank {value : String} (h : isBlank value = false) :
    notBlank d value = true := by
  rw [notBlank, Bool.not_eq_true', List.all_eq_false]
  rw [isBlank, List.all_eq_false] at h
  obtain ⟨c, hc, hspace⟩ := h
  exact ⟨c, hc, fun hd => hspace (d.isPyWhitespace_of_isSpace c hd)⟩

theorem Entry.accepted_valid {processingId : UUID} {alert : CanonicalAlert} {scope key : String}
    {version : Int} {digest : List UInt8}
    (h : ValidIdentity alert.source.source scope key version digest) :
    (Entry.accepted now processingId alert scope key version digest).Valid d where
  processing := {
    identity := ⟨scope, key, version, digest, rfl, rfl, rfl, rfl, h⟩
    backend := by simp [Entry.accepted]
    errors := .none
    quiet := fun _ => rfl
    errored := by simp [Entry.accepted] }
  attempt := by simp [Entry.accepted]

/-- **An operation with valid values keeps an entry valid.** -/
theorem Entry.advance_valid (hcoherent : e.Coherent) (hvalid : e.Valid d) (hvalued : c.Valued d)
    (h : e.advance now c = some e') : e'.Valid d := by
  obtain ⟨hprocessing, hattempt⟩ := hvalid
  cases c <;> simp only [advance, reduceCtorEq, Option.ite_none_right_eq_some, move_eq_some_iff]
    at h
  case storeNoActionResult k r =>
    obtain ⟨⟨rfl, hstate⟩, heq⟩ := h
    cases heq
    obtain ⟨hidentity, hbackend, herrors, hquiet, -⟩ := hprocessing
    exact ⟨⟨hidentity, hbackend, herrors, fun _ => hquiet (by simp [hstate]), by
      simp [ProcessingFields.storeNoActionResult]⟩, hattempt⟩
  case storePlan k dec i q b a op =>
    obtain ⟨⟨rfl, hstate⟩, heq⟩ := h
    cases heq
    obtain ⟨hidentity, -, herrors, hquiet, -⟩ := hprocessing
    refine ⟨⟨hidentity, ?_, herrors, fun _ => hquiet (by simp [hstate]), by
      simp [ProcessingFields.storePlan]⟩, ?_⟩
    · rintro b' hb'
      cases hb'
      exact hvalued
    · rintro a' ha'
      cases ha'
      exact ⟨by simp [plannedAttempt], by simp [plannedAttempt], .none, by simp [plannedAttempt]⟩
  case claimAttemptForSubmission id =>
    obtain ⟨a, ha, -, hstate, rfl⟩ := h
    obtain ⟨hidentity, hbackend, herrors, hquiet, -⟩ := hprocessing
    obtain ⟨hexternal, hremote, haerrors, -⟩ := hattempt a ha
    obtain ⟨q, b, -, hserves⟩ := hcoherent.executing ha
    have hplanned : e.processing.state = .planned := by
      rw [hserves.state, List.mem_singleton.mp hstate]
      rfl
    refine ⟨⟨hidentity, hbackend, herrors, fun _ => hquiet (by simp [hplanned]), by
      simp [ProcessingFields.claim]⟩, ?_⟩
    rintro a' ha'
    cases ha'
    exact ⟨hexternal, hremote, haerrors, by simp [AttemptFields.claim]⟩
  case markAttemptSubmitted id x =>
    obtain ⟨a, ha, -, hstate, rfl⟩ := h
    obtain ⟨hidentity, hbackend, herrors, -, -⟩ := hprocessing
    obtain ⟨-, hremote, haerrors, -⟩ := hattempt a ha
    refine ⟨⟨hidentity, hbackend, herrors, by simp [ProcessingFields.markSubmitted], by
      simp [ProcessingFields.markSubmitted]⟩, ?_⟩
    rintro a' ha'
    cases ha'
    refine ⟨?_, hremote, haerrors, by simp [AttemptFields.markSubmitted]⟩
    rintro x' hx'
    cases hx'
    exact hvalued
  case recordPoll id remote category detail =>
    obtain ⟨a, ha, -, hstate, rfl⟩ := h
    obtain ⟨hidentity, hbackend, -, -, -⟩ := hprocessing
    obtain ⟨hexternal, -, -, -⟩ := hattempt a ha
    obtain ⟨q, b, -, hserves⟩ := hcoherent.executing ha
    have hastate := List.mem_singleton.mp hstate
    have hsubmitted : e.processing.state = .submitted := by
      rw [hserves.state, hastate]
      rfl
    refine ⟨⟨hidentity, hbackend, hvalued.2, by simp [ProcessingFields.recordPoll, hsubmitted], by
      simp [ProcessingFields.recordPoll, hsubmitted]⟩, ?_⟩
    rintro a' ha'
    cases ha'
    refine ⟨hexternal, ?_, hvalued.2, by simp [AttemptFields.recordPoll, hastate]⟩
    rintro x' hx'
    cases hx'
    exact hvalued.1
  case completeProcessing id r =>
    obtain ⟨a, ha, -, hstate, rfl⟩ := h
    obtain ⟨hidentity, hbackend, -, -, -⟩ := hprocessing
    obtain ⟨hexternal, -, -, -⟩ := hattempt a ha
    refine ⟨⟨hidentity, hbackend, .none, fun _ => rfl, by simp [ProcessingFields.complete]⟩, ?_⟩
    rintro a' ha'
    cases ha'
    refine ⟨hexternal, ?_, .none, by simp [AttemptFields.complete]⟩
    rintro x' hx'
    cases hx'
    refine ⟨notBlank_of_not_isBlank (by decide +kernel), by decide +kernel⟩
  case failProcessing k expected category detail attemptId =>
    obtain ⟨-, h⟩ := h
    obtain ⟨hidentity, hbackend, -, -, -⟩ := hprocessing
    have hfailed : (e.processing.fail now category detail).Valid d :=
      ⟨hidentity, hbackend, .some hvalued.1 hvalued.2, by simp [ProcessingFields.fail],
        fun _ => rfl⟩
    cases attemptId with
    | none =>
        cases h
        exact ⟨hfailed, hattempt⟩
    | some attemptId =>
        obtain ⟨a, ha, -, -, rfl⟩ := move_eq_some_iff.mp h
        obtain ⟨hexternal, hremote, -, -⟩ := hattempt a ha
        refine ⟨hfailed, ?_⟩
        rintro a' ha'
        cases ha'
        exact ⟨hexternal, hremote, .some hvalued.1 hvalued.2, fun _ => rfl⟩
  case markRecoveryRequired id expected category detail =>
    obtain ⟨a, ha, -, -, rfl⟩ := h
    obtain ⟨hidentity, hbackend, -, -, -⟩ := hprocessing
    obtain ⟨hexternal, hremote, -, -⟩ := hattempt a ha
    refine ⟨⟨hidentity, hbackend, .some hvalued.1 hvalued.2, by
      simp [ProcessingFields.markRecoveryRequired], fun _ => rfl⟩, ?_⟩
    rintro a' ha'
    cases ha'
    exact ⟨hexternal, hremote, .some hvalued.1 hvalued.2, fun _ => rfl⟩

/-! ### What the domain classes see to -/

theorem DetectionIdentity.identifier_notBlank (i : DetectionIdentity) :
    isBlank i.identifier = false := by
  simpa using checks_eq_ok_iff.mp i.valid _ (.head _)

theorem DetectionIdentity.name_notBlank (i : DetectionIdentity) {name : String}
    (h : i.name = some name) : isBlank name = false := by
  simpa [h] using checks_eq_ok_iff.mp i.valid _ (.tail _ (.head _))

theorem SourceProvenance.source_notBlank (s : SourceProvenance) : isBlank s.source = false := by
  simpa using checks_eq_ok_iff.mp s.valid _ (.head _)

theorem SourceProvenance.sourceAlertId_notBlank (s : SourceProvenance) {id : String}
    (h : s.sourceAlertId = some id) : isBlank id = false := by
  simpa [h] using checks_eq_ok_iff.mp s.valid _ (.tail _ (.head _))

theorem Decision.policyId_notBlank (x : Decision) : isBlank x.policyId = false := by
  simpa using checks_eq_ok_iff.mp x.valid _ (.head _)

theorem Decision.reasons_nonempty (x : Decision) : 0 < x.reasons.length := by
  have h := checks_eq_ok_iff.mp x.valid _ (.tail _ (.head _))
  rw [List.length_pos_iff]
  simpa using h

theorem InvestigationRequest.desiredOutcome_notBlank (q : InvestigationRequest) :
    isBlank q.desiredOutcome = false := by
  simpa using checks_eq_ok_iff.mp q.valid _ (.head _)

theorem InvestigationRequest.capabilities_nonempty (q : InvestigationRequest) :
    0 < q.requiredCapabilities.length := by
  have h := checks_eq_ok_iff.mp q.valid _ (.tail _ (.head _))
  rw [List.length_pos_iff]
  simpa using h

theorem InvestigationResult.backend_notBlank (r : InvestigationResult) :
    isBlank r.backend = false := by
  simpa using checks_eq_ok_iff.mp r.valid _ (.head _)

/-! ### Constraints that pass -/

section Truth

theorem nullOrNotBlank_passes {value : Option String}
    (h : ∀ v, value = some v → isBlank v = false) : (nullOrNotBlank d value).passes = true := by
  cases value with
  | none => rfl
  | some v => simp [nullOrNotBlank, notBlank_of_not_isBlank (h v rfl)]

theorem nullOrBounded_passes {value : Option String} {bound : Nat}
    (h : ∀ v, value = some v → Bounded d bound v) :
      (nullOrBounded d value bound).passes = true := by
  cases value with
  | none => rfl
  | some v => simp [nullOrBounded, (h v rfl).1, (h v rfl).2, Truth.and, Truth.passes]

theorem ErrorPair.passes {category detail : Option String} (h : ErrorPair d category detail) :
    (nullOrBounded d category 256).passes = true ∧ (nullOrBounded d detail 256).passes = true ∧
      (errorPair category detail).passes = true := by
  cases h with
  | none => exact ⟨rfl, rfl, rfl⟩
  | some hcategory hdetail =>
      exact ⟨nullOrBounded_passes (by rintro _ ⟨⟩; exact hcategory),
        nullOrBounded_passes (by rintro _ ⟨⟩; exact hdetail), rfl⟩

theorem bounded_of_passes {value : String} {bound : Nat}
    (h : (nullOrBounded d (some value) bound).passes = true) : Bounded d bound value := by
  simpa [nullOrBounded, Truth.passes_and, Bounded] using h

theorem errorPair_of_passes {category detail : Option String}
    (hcategory : (nullOrBounded d category 256).passes = true)
    (hdetail : (nullOrBounded d detail 256).passes = true)
    (hpair : (errorPair category detail).passes = true) : ErrorPair d category detail := by
  cases category <;> cases detail
  case none.none => exact .none
  case some.some => exact .some (bounded_of_passes hcategory) (bounded_of_passes hdetail)
  all_goals cases hpair

theorem ErrorPair.isSome_eq {category detail : Option String} (h : ErrorPair d category detail) :
    detail.isSome = category.isSome := by
  cases h <;> rfl

end Truth

namespace Postgres

theorem presentArray_encodeStrings (l : List String) :
    presentArray (some (encodeStrings l)) = some true := rfl

theorem presentArray_encodeEvidence (l : List EvidenceReference) :
    presentArray (some (encodeEvidence l)) = some true := rfl

theorem presentNonemptyArray_encodeStrings {l : List String} (h : 0 < l.length) :
    presentNonemptyArray (some (encodeStrings l)) = some true := by
  simp [presentNonemptyArray, presentArray, encodeStrings, Json.isArray, Json.arrayLength, h,
    Truth.and]

/-- The columns of a request. -/
theorem request_columns (q : InvestigationRequest) :
    presentNonemptyArray (some (encodeStrings q.requiredCapabilities)) = some true ∧
      presentArray (some (encodeEntities q.targets)) = some true :=
  ⟨presentNonemptyArray_encodeStrings q.capabilities_nonempty, rfl⟩

/-- An attempt that has not ended is in a state of the second case. -/
theorem isIn_planned {s : ExecutionAttemptState} (hcompleted : s ≠ .completed)
    (hfailed : s ≠ .failed) : isIn (some s.processingState.value)
      ["planned", "submitting", "submitted", "recovery_required"] = some true := by
  cases s <;> first | contradiction | rfl

/-- **A coherent entry is in one of the cases of `ck_processing_records_lifecycle_coherence`.** -/
theorem lifecycleCoherence_row (hcoherent : e.Coherent) (hvalid : e.processing.Valid d) :
    lifecycleCoherence e.processing.row = some true := by
  obtain ⟨p, attempt⟩ := e
  obtain ⟨-, -, hcompletedAt, hfailedAt, hphase⟩ := hcoherent
  have hpair := hvalid.errors.isSome_eq
  have hquiet := hvalid.quiet
  have herrored := hvalid.errored
  dsimp only at hcompletedAt hfailedAt hpair hquiet herrored hphase ⊢
  cases hphase with
  | accepted hstate hplan =>
      have hcategory := hquiet (by simp [hstate])
      have hdetail : p.errorDetail = none := by simpa [hcategory] using hpair
      have hcompleted : p.completedAt = none := by simpa [hstate] using hcompletedAt
      have hfailed : p.failedAt = none := by simpa [hstate] using hfailedAt
      simp [lifecycleCoherence, ProcessingFields.row, ProcessingFields.decision,
        ProcessingFields.investigationRequest, hstate, hplan.decision, hplan.request, hplan.backend,
        hplan.result, hcategory, hdetail, hcompleted, hfailed, ProcessingState.value]
  | noAction result hstate hresult houtcome hsource hbackend =>
      obtain ⟨-, hq, hx⟩ := result.of_noAction houtcome
      have hcompleted : p.completedAt.isSome = true := by simpa [hstate] using hcompletedAt
      have hfailed : p.failedAt = none := by simpa [hstate] using hfailedAt
      simp [lifecycleCoherence, ProcessingFields.row, ProcessingFields.decision,
        ProcessingFields.investigationRequest, hstate, hresult, hq, hx, houtcome, hbackend, hfailed,
        hcompleted, isNotNull, ProcessingState.value, DecisionOutcome.value, isIn,
        presentNonemptyArray_encodeStrings result.decision.reasons_nonempty]
  | rejected hstate hplan =>
      have hcategory := herrored (.inl hstate)
      have hcompleted : p.completedAt = none := by simpa [hstate] using hcompletedAt
      have hfailed : p.failedAt.isSome = true := by simpa [hstate] using hfailedAt
      simp [lifecycleCoherence, ProcessingFields.row, hstate, hplan.result, hcompleted, hfailed,
        hcategory, hpair, isNotNull, ProcessingState.value]
  | executing q b a hexecutes hserves =>
      obtain ⟨hdecision, hincident, hrequest, hbackend, halert, hresult⟩ := hexecutes
      obtain ⟨hcapabilities, htargets⟩ := request_columns q
      have hreasons := presentNonemptyArray_encodeStrings q.incident.decision.reasons_nonempty
      by_cases hcompleted : p.state = .completed
      · obtain ⟨r, hr⟩ := Option.isSome_iff_exists.mp (by simpa [hcompleted] using hresult)
        simp only [ProcessingFields.decision, hr, Option.some.injEq] at hdecision
        simp only [ProcessingFields.investigationRequest, hr] at hrequest
        obtain ⟨-, -, x, -, -, hx⟩ := r.of_investigate (hdecision ▸ q.incident.outcome_eq)
        have hat : p.completedAt.isSome = true := by simpa [hcompleted] using hcompletedAt
        have hfailed : p.failedAt = none := by simpa [hcompleted] using hfailedAt
        simp [lifecycleCoherence, ProcessingFields.row, hcompleted, ProcessingFields.decision, hr,
          hdecision, ProcessingFields.investigationRequest, hrequest, hx, hbackend, hat, hfailed,
          hreasons, hcapabilities, htargets, q.incident.outcome_eq, presentArray_encodeStrings,
          presentArray_encodeEvidence, isNotNull, isIn, ProcessingState.value,
          DecisionOutcome.value]
      · have hr : p.completedResult = none := by simpa [hcompleted] using hresult
        have hat : p.completedAt = none := by simpa [hcompleted] using hcompletedAt
        simp only [ProcessingFields.decision, hr] at hdecision
        simp only [ProcessingFields.investigationRequest, hr] at hrequest
        by_cases hfailed : p.state = .failed
        · have hcategory := herrored (.inl hfailed)
          have hfailedAt : p.failedAt.isSome = true := by simpa [hfailed] using hfailedAt
          simp [lifecycleCoherence, ProcessingFields.row, hfailed, hr, hat, hfailedAt, hcategory,
            hpair, isNotNull, ProcessingState.value]
        · have hfailedAt : p.failedAt = none := by simpa [hfailed] using hfailedAt
          have hplanned : isIn (some p.state.value)
              ["planned", "submitting", "submitted", "recovery_required"] = some true := by
            rw [hserves.state] at hcompleted hfailed ⊢
            exact isIn_planned (fun h => hcompleted (h ▸ rfl)) (fun h => hfailed (h ▸ rfl))
          have herror : Truth.or (some !decide (p.state.value = "recovery_required"))
              ((isNotNull p.errorCategory).and (isNotNull p.errorDetail)) = some true := by
            by_cases hrecovery : p.state = .recoveryRequired
            · simp [herrored (.inr hrecovery), hpair, isNotNull]
            · have hvalue : p.state.value ≠ "recovery_required" :=
                fun h => hrecovery (ProcessingState.value_injective h)
              simp [hvalue]
          simp [lifecycleCoherence, ProcessingFields.row, ProcessingFields.decision, hr, hdecision,
            ProcessingFields.investigationRequest, hrequest, hbackend, hat, hfailedAt,
            hplanned, herror, hreasons, hcapabilities, htargets, q.incident.outcome_eq,
            DecisionOutcome.value]

/-- **An attempt that serves is in one of the cases of
`ck_execution_attempts_lifecycle_coherence`.** -/
theorem attemptCoherence_row {a : AttemptFields} {p : ProcessingFields} {b : String}
    (hserves : a.Serves p b) (hvalid : a.Valid d) : attemptCoherence a.row = some true := by
  have hpair := hvalid.errors.isSome_eq
  have herrored := hvalid.errored
  obtain ⟨-, -, -, -, hsubmitted, hunsubmitted, hidentified, hunstarted, hstarted, hcompletedAt,
    hfailedAt⟩ := hserves
  rw [attemptCoherence, AttemptFields.row_state]
  generalize a.state = state at *
  cases state <;>
    simp only [reduceCtorEq, decide_true, decide_false, or_true, or_false, or_self,
      forall_const, false_implies, ne_eq, not_true_eq_false, not_false_eq_true,
      Option.isSome_eq_false_iff, Option.isNone_iff_eq_none] at *
  case planned =>
    rw [hunsubmitted, Option.isSome_none, eq_comm, Option.isSome_eq_false_iff,
      Option.isNone_iff_eq_none] at hsubmitted
    simp [AttemptFields.row, ExecutionAttemptState.value, hunstarted, hsubmitted, hunsubmitted,
      hcompletedAt, hfailedAt]
  case submitting =>
    rw [hunsubmitted, Option.isSome_none, eq_comm, Option.isSome_eq_false_iff,
      Option.isNone_iff_eq_none] at hsubmitted
    simp [AttemptFields.row, ExecutionAttemptState.value, isNotNull, hstarted, hsubmitted,
      hunsubmitted, hcompletedAt, hfailedAt]
  case submitted =>
    rw [hidentified] at hsubmitted
    simp [AttemptFields.row, ExecutionAttemptState.value, isNotNull, hstarted, ← hsubmitted,
      hidentified, hcompletedAt, hfailedAt]
  case completed =>
    rw [hidentified] at hsubmitted
    simp [AttemptFields.row, ExecutionAttemptState.value, isNotNull, hstarted, ← hsubmitted,
      hidentified, hcompletedAt, hfailedAt]
  case failed =>
    simp [AttemptFields.row, ExecutionAttemptState.value, isNotNull, hcompletedAt, hfailedAt,
      herrored, hpair]
  case recoveryRequired =>
    simp [AttemptFields.row, ExecutionAttemptState.value, isNotNull, hstarted, hcompletedAt,
      hfailedAt, herrored, hpair]

/-- **The row of a processing satisfies every constraint of its table.** -/
theorem processing_satisfied (hcoherent : e.Coherent) (hvalid : e.processing.Valid d) :
    satisfied (processingConstraints d e.processing.row) = true := by
  obtain ⟨scope, key, version, digest, hscope, hkey, hversion, hdigest, hidentity⟩ :=
    hvalid.identity
  obtain ⟨hcategory, hdetail, hpair⟩ := hvalid.errors.passes
  have hcoherence := lifecycleCoherence_row hcoherent hvalid
  simp only [satisfied, processingConstraints, List.all_cons, List.all_nil, Bool.and_true,
    Bool.and_eq_true]
  refine ⟨rfl, ?_, ?_, ?_, ?_, ?_, ?_, ?_, ?_, ?_, ?_, ?_⟩
  · cases hseverity : e.processing.alert.severity <;>
      simp [ProcessingFields.row, hseverity, isIn, Severity.value]
  · cases hdecision : e.processing.decision with
    | none => simp [ProcessingFields.row, hdecision, isIn]
    | some x => cases houtcome : x.outcome <;>
        simp [ProcessingFields.row, hdecision, houtcome, isIn, DecisionOutcome.value]
  · have hpolicy : (test (e.processing.decision.map (·.policyId)) (notBlank d)).passes = true := by
      cases e.processing.decision with
      | none => rfl
      | some x => simp [notBlank_of_not_isBlank x.policyId_notBlank]
    simp [ProcessingFields.row, hpolicy,
      notBlank_of_not_isBlank e.processing.alert.detection.identifier_notBlank,
      notBlank_of_not_isBlank e.processing.alert.source.source_notBlank]
  · have hname := nullOrNotBlank_passes (d := d) fun _ h =>
      e.processing.alert.detection.name_notBlank h
    have halertId := nullOrNotBlank_passes (d := d) fun _ h =>
      e.processing.alert.source.sourceAlertId_notBlank h
    have hdesired : (nullOrNotBlank d
        (e.processing.investigationRequest.map (·.desiredOutcome))).passes = true := by
      refine nullOrNotBlank_passes fun v h => ?_
      obtain ⟨q, -, rfl⟩ := Option.map_eq_some_iff.mp h
      exact q.desiredOutcome_notBlank
    have hresult : (nullOrNotBlank d ((e.processing.completedResult.bind
        (·.investigationResult)).map (·.backend))).passes = true := by
      refine nullOrNotBlank_passes fun v h => ?_
      obtain ⟨x, -, rfl⟩ := Option.map_eq_some_iff.mp h
      exact x.backend_notBlank
    simp only [Truth.all_cons, Truth.all_nil, Truth.passes_and, ProcessingFields.row, hname,
      halertId, hdesired, hresult]
    rfl
  · cases hdecision : e.processing.decision with
    | none => simp [Truth.passes_and, ProcessingFields.row, hdecision, encodeEntities,
      encodeEvidence,
        Json.isArray]
    | some x => simp [ProcessingFields.row, hdecision, encodeEntities, encodeEvidence,
      encodeStrings,
        Json.isArray, Json.arrayLength, x.reasons_nonempty]
  · cases hstate : e.processing.state <;>
      simp [isIn, hstate, processingStates, ProcessingState.value]
  · simp [ProcessingFields.row, hscope, hkey, hversion, hdigest, hidentity.scope]
  · simp [ProcessingFields.row, hkey, hidentity.nonempty, hidentity.bounded, hidentity.visible]
  · simp [ProcessingFields.row, hversion, hdigest, hidentity.version, hidentity.digest]
  · have hbackend : (nullOrNotBlank d e.processing.selectedBackend).passes = true := by
      cases hselected : e.processing.selectedBackend with
      | none => rfl
      | some b => simp [nullOrNotBlank, hvalid.backend b hselected]
    simp [Truth.passes_and, ProcessingFields.row, hbackend, hcategory, hdetail, hpair]
  · rw [hcoherence]
    rfl

/-- **The row of an attempt satisfies every constraint of its table.** -/
theorem attempt_satisfied {a : AttemptFields} {p : ProcessingFields} {b : String}
    (hserves : a.Serves p b) (hvalid : a.Valid d) (hbackend : notBlank d b = true) :
    satisfied (attemptConstraints d a.row) = true := by
  obtain ⟨hcategory, hdetail, hpair⟩ := hvalid.errors.passes
  have hexternal := nullOrBounded_passes hvalid.external
  have hremote := nullOrBounded_passes hvalid.remoteState
  have hcoherence := attemptCoherence_row hserves hvalid
  simp only [satisfied, attemptConstraints, List.all_cons, List.all_nil, Bool.and_true,
    Bool.and_eq_true]
  refine ⟨?_, ?_, ?_, ?_⟩
  · simp [AttemptFields.row, hserves.number]
  · cases hstate : a.state <;> simp [isIn, hstate, attemptStates, ExecutionAttemptState.value]
  · simp [Truth.passes_and, AttemptFields.row, hserves.backend, hbackend, hexternal,
      hremote, hcategory,
      hdetail, hpair]
  · rw [hcoherence]
    rfl

/-! ### What rows that satisfy the constraints hold -/

/-- The identity of a row that satisfies the constraints is a valid one. -/
theorem identity_of_satisfied {row : ProcessingRow} {scope key : String} {version : Int}
    {digest : List UInt8} (hscope : row.idempotencyScope = some scope)
    (hkey : row.idempotencyKey = some key) (hversion : row.fingerprintVersion = some version)
    (hdigest : row.requestFingerprint = some digest)
    (h : satisfied (processingConstraints d row) = true) :
    ValidIdentity row.source scope key version digest := by
  simp only [satisfied, processingConstraints, List.all_cons, Bool.and_eq_true] at h
  obtain ⟨-, -, -, -, -, -, -, hcoherence, hkeyed, hfingerprint, -⟩ := h
  simp [hscope, hkey, hversion, hdigest, Truth.some_and_some, Truth.some_or_some]
    at hcoherence hkeyed hfingerprint
  exact ⟨hcoherence, hkeyed.2, hkeyed.1.1, hkeyed.1.2, hfingerprint.1, hfingerprint.2⟩

/-- The lifecycle strings of a row that satisfies the constraints. -/
theorem strings_of_satisfied {row : ProcessingRow}
    (h : satisfied (processingConstraints d row) = true) :
    (∀ b, row.selectedBackend = some b → notBlank d b = true) ∧
      ErrorPair d row.errorCategory row.errorDetail := by
  simp only [satisfied, processingConstraints, List.all_cons, Bool.and_eq_true, Truth.all_cons,
    Truth.all_nil, Truth.passes_and] at h
  obtain ⟨-, -, -, -, -, -, -, -, -, -, ⟨hbackend, hcategory, hdetail, hpair, -⟩, -⟩ := h
  refine ⟨fun b hb => ?_, errorPair_of_passes hcategory hdetail hpair⟩
  simpa [nullOrNotBlank, hb] using hbackend

/-- The strings of an attempt row that satisfies the constraints. -/
theorem attemptStrings_of_satisfied {row : AttemptRow}
    (h : satisfied (attemptConstraints d row) = true) :
    (∀ x, row.externalOperationId = some x → Bounded d 512 x) ∧
      (∀ x, row.lastRemoteState = some x → Bounded d 256 x) ∧
      ErrorPair d row.errorCategory row.errorDetail := by
  simp only [satisfied, attemptConstraints, List.all_cons, Bool.and_eq_true, Truth.all_cons,
    Truth.all_nil, Truth.passes_and] at h
  obtain ⟨-, -, ⟨-, hexternal, hremote, hcategory, hdetail, hpair, -⟩, -⟩ := h
  refine ⟨fun x hx => ?_, fun x hx => ?_, errorPair_of_passes hcategory hdetail hpair⟩
  · exact bounded_of_passes (hx ▸ hexternal)
  · exact bounded_of_passes (hx ▸ hremote)

/-- **The constraints let only valid values through.** -/
theorem valued_of_satisfied (hadvance : e.advance now c = some e')
    (hprocessing : satisfied (processingConstraints d e'.processing.row) = true)
    (hattempt : ∀ a, e'.attempt = some a → satisfied (attemptConstraints d a.row) = true) :
    c.Valued d := by
  obtain ⟨hbackend, herrors⟩ := strings_of_satisfied hprocessing
  cases c <;> simp only [Entry.advance, reduceCtorEq, Option.ite_none_right_eq_some,
    Entry.move_eq_some_iff] at hadvance
  case storeNoActionResult => trivial
  case claimAttemptForSubmission => trivial
  case completeProcessing => trivial
  case storePlan =>
    obtain ⟨-, heq⟩ := hadvance
    cases heq
    exact hbackend _ rfl
  case markAttemptSubmitted =>
    obtain ⟨a, -, -, -, rfl⟩ := hadvance
    exact (attemptStrings_of_satisfied (hattempt _ rfl)).1 _ rfl
  case recordPoll =>
    obtain ⟨a, -, -, -, rfl⟩ := hadvance
    obtain ⟨-, hremote, hpair⟩ := attemptStrings_of_satisfied (hattempt _ rfl)
    exact ⟨hremote _ rfl, hpair⟩
  case failProcessing k expected category detail attemptId =>
    obtain ⟨-, hadvance⟩ := hadvance
    have hfailed : e'.processing = e.processing.fail now category detail := by
      cases attemptId with
      | none =>
          cases hadvance
          rfl
      | some id =>
          obtain ⟨a, -, -, -, rfl⟩ := Entry.move_eq_some_iff.mp hadvance
          rfl
    rw [hfailed] at herrors
    cases herrors with
    | some hcategory hdetail => exact ⟨hcategory, hdetail⟩
  case markRecoveryRequired =>
    obtain ⟨a, -, -, -, rfl⟩ := hadvance
    cases herrors with
    | some hcategory hdetail => exact ⟨hcategory, hdetail⟩

end Postgres

end Alert2IR
