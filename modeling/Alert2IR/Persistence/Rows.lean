import Alert2IR.Lifecycle.Store
import Alert2IR.Persistence.Postgres

/-!
# Entries as rows

The row that stands for a durable processing, and the row that stands for its attempt. Decoding the
rows of a coherent entry gives the entry back.
-/

namespace Alert2IR

/-- The row of a durable processing. -/
def ProcessingFields.row (p : ProcessingFields) : ProcessingRow where
  id := p.processingId
  createdAt := p.createdAt.instant
  updatedAt := p.updatedAt.instant
  snapshotVersion := 1
  detectionIdentifier := p.alert.detection.identifier
  detectionName := p.alert.detection.name
  detectedAt := p.alert.detectedAt.instant
  source := p.alert.source.source
  sourceAlertId := p.alert.source.sourceAlertId
  severity := p.alert.severity.value
  entities := Postgres.encodeEntities p.alert.entities
  alertEvidence := Postgres.encodeEvidence p.alert.evidence
  idempotencyScope := p.idempotencyScope
  idempotencyKey := p.idempotencyKey
  fingerprintVersion := p.fingerprintVersion
  requestFingerprint := p.requestFingerprint
  state := p.state.value
  selectedBackend := p.selectedBackend
  decisionOutcome := p.decision.map (·.outcome.value)
  policyId := p.decision.map (·.policyId)
  decisionReasons := p.decision.map fun d => Postgres.encodeStrings d.reasons
  requestDesiredOutcome := p.investigationRequest.map (·.desiredOutcome)
  requestCapabilities :=
    p.investigationRequest.map fun q => Postgres.encodeStrings q.requiredCapabilities
  requestTargets := p.investigationRequest.map fun q => Postgres.encodeEntities q.targets
  resultBackend := (p.completedResult.bind (·.investigationResult)).map (·.backend)
  resultCompletedCapabilities := (p.completedResult.bind (·.investigationResult)).map fun r =>
    Postgres.encodeStrings r.completedCapabilities
  resultEvidence := (p.completedResult.bind (·.investigationResult)).map fun r =>
    Postgres.encodeEvidence r.evidence
  completedAt := p.completedAt.map Datetime.instant
  failedAt := p.failedAt.map Datetime.instant
  errorCategory := p.errorCategory
  errorDetail := p.errorDetail

/-- The row of a durable attempt. -/
def AttemptFields.row (a : AttemptFields) : AttemptRow where
  attemptId := a.attemptId
  processingId := a.processingId
  attemptNumber := a.attemptNumber
  operationKey := a.operationKey
  backend := a.backend
  state := a.state.value
  externalOperationId := a.externalOperationId
  createdAt := a.createdAt.instant
  startedAt := a.startedAt.map Datetime.instant
  submittedAt := a.submittedAt.map Datetime.instant
  lastPolledAt := a.lastPolledAt.map Datetime.instant
  completedAt := a.completedAt.map Datetime.instant
  failedAt := a.failedAt.map Datetime.instant
  lastRemoteState := a.lastRemoteState
  errorCategory := a.errorCategory
  errorDetail := a.errorDetail

@[simp]
theorem ProcessingFields.row_state (p : ProcessingFields) : p.row.state = p.state.value := rfl

@[simp]
theorem ProcessingFields.row_id (p : ProcessingFields) : p.row.id = p.processingId := rfl

@[simp]
theorem AttemptFields.row_state (a : AttemptFields) : a.row.state = a.state.value := rfl

@[simp]
theorem AttemptFields.row_attemptId (a : AttemptFields) : a.row.attemptId = a.attemptId := rfl

@[simp]
theorem AttemptFields.row_processingId (a : AttemptFields) :
    a.row.processingId = a.processingId := rfl

namespace Postgres

/-! ### Columns decode to the values they encode -/

theorem mapM_map_ok {α β : Type} (f : α → β) (g : β → Except PyError α)
    (h : ∀ a, g (f a) = .ok a) (l : List α) : (l.map f).mapM g = .ok l := by
  induction l with
  | nil => rfl
  | cons a l ih =>
      rw [List.map_cons, List.mapM_cons, h, ih]
      rfl

@[simp]
theorem decodeEntities_encodeEntities (l : List Entity) (field : String) :
    decodeEntities (some (encodeEntities l)) field = .ok l :=
  mapM_map_ok _ _ (fun e => Entity.make_self e) l

@[simp]
theorem decodeEvidence_encodeEvidence (l : List EvidenceReference) (field : String) :
    decodeEvidence (some (encodeEvidence l)) field = .ok l := by
  refine mapM_map_ok _ _ (fun r => ?_) l
  have hself := EvidenceReference.make_self r
  cases hkind : r.kind <;> rw [hkind] at hself <;> exact hself

@[simp]
theorem decodeStrings_encodeStrings (l : List String) (field : String) :
    decodeStrings (some (encodeStrings l)) field = .ok l :=
  mapM_map_ok Json.str (decodeString field) (fun _ => rfl) l

theorem ofInstant_instant {t : Datetime} (h : t.utc = t) : Datetime.ofInstant t.instant = t := h

theorem map_ofInstant_instant {t : Option Datetime} (h : t.map Datetime.utc = t) :
    (t.map Datetime.instant).map Datetime.ofInstant = t := by
  rw [Option.map_map]
  exact h

section Decoding

variable {p : ProcessingFields}

theorem deserializeAlert_row (h : p.alert.utc = p.alert) :
    deserializeAlert p.row = .ok p.alert := by
  have hdetected : Datetime.ofInstant p.alert.detectedAt.instant = p.alert.detectedAt :=
    congrArg CanonicalAlert.detectedAt h
  simp [deserializeAlert, ProcessingFields.row, hdetected, bind, Except.bind]

theorem deserializeDecision_row {source : SourceProvenance}
    (h : ∀ d, p.decision = some d → d.source = source) :
    deserializeDecision p.row source = .ok p.decision := by
  cases hd : p.decision with
  | none => simp [deserializeDecision, ProcessingFields.row, hd]
  | some d =>
      obtain rfl := h d hd
      simp [deserializeDecision, ProcessingFields.row, hd, columnString, bind, Except.bind,
        Functor.map, Except.map]

theorem deserializeRequest_row_none {alert : CanonicalAlert} {decision : Option Decision}
    (h : p.investigationRequest = none) : deserializeRequest p.row alert decision = .ok none := by
  cases decision <;> simp [deserializeRequest, ProcessingFields.row, h]

theorem deserializeRequest_row_some {q : InvestigationRequest}
    (h : p.investigationRequest = some q) :
    deserializeRequest p.row q.incident.alert (some q.incident.decision) = .ok (some q) := by
  simp [deserializeRequest, ProcessingFields.row, h, q.incident.outcome_eq, bind, Except.bind,
    Functor.map, Except.map]

theorem deserializeResult_row_none {decision : Option Decision}
    {request : Option InvestigationRequest} (h : p.state ≠ .completed) :
    deserializeResult p.row decision request = .ok none := by
  simp [deserializeResult, ProcessingFields.row, h, bind, Except.bind]

theorem deserializeResult_row_noAction {r : OrchestrationResult}
    {request : Option InvestigationRequest} (hstate : p.state = .completed)
    (houtcome : r.decision.outcome = .noAction) :
    deserializeResult p.row (some r.decision) request = .ok (some r) := by
  obtain ⟨hi, hq, hx⟩ := r.of_noAction houtcome
  have hmake : OrchestrationResult.make r.decision none none none = .ok r :=
    OrchestrationResult.make_eq_ok_iff.mpr ⟨rfl, hi, hq, hx⟩
  simp [deserializeResult, ProcessingFields.row, hstate, houtcome, hmake, bind, Except.bind,
    Functor.map, Except.map]

theorem deserializeResult_row_investigate {r : OrchestrationResult} {q : InvestigationRequest}
    (hstate : p.state = .completed) (hresult : p.completedResult = some r)
    (hdecision : r.decision = q.incident.decision) (hincident : r.incident = some q.incident)
    (hrequest : r.investigationRequest = some q) :
    deserializeResult p.row (some q.incident.decision) (some q) = .ok (some r) := by
  have houtcome : r.decision.outcome = .investigate := hdecision ▸ q.incident.outcome_eq
  obtain ⟨-, -, x, -, -, hx⟩ := r.of_investigate houtcome
  have hmake : OrchestrationResult.make q.incident.decision (some q.incident) (some q) (some x)
      = .ok r := OrchestrationResult.make_eq_ok_iff.mpr ⟨hdecision, hincident, hrequest, hx⟩
  simp [deserializeResult, ProcessingFields.row, hstate, hresult, hx, q.incident.outcome_eq,
    columnString, hmake, bind, Except.bind, Functor.map, Except.map]

/-- Decoding puts the fields back together once the four composite values are read. -/
theorem deserializeFields_row_of (hdurable : p.durable = p)
    (hdecision : deserializeDecision p.row p.alert.source = .ok p.decision)
    (hrequest : deserializeRequest p.row p.alert p.decision = .ok p.investigationRequest)
    (hresult : deserializeResult p.row p.decision p.investigationRequest = .ok p.completedResult)
    (hincident : p.completedResult = none →
      p.investigationRequest.map (·.incident) = p.plannedIncident) :
    deserializeFields p.row = .ok p := by
  obtain ⟨h₁, h₂, h₃, h₄, h₅, h₆, -, h₈, h₉⟩ := ProcessingFields.durable_eq_self_iff.mp hdurable
  have hversion : p.row.snapshotVersion = 1 := rfl
  simp only [deserializeFields, hversion, ne_eq, not_true_eq_false, if_false,
    deserializeAlert_row h₃, bind, Except.bind, hdecision, hrequest, hresult]
  have hstate : ProcessingState.ofValue p.row.state = .ok p.state :=
    ProcessingState.ofValue_value p.state
  have hplannedDecision : (if p.completedResult.isNone then p.decision else none)
      = p.plannedDecision := by
    cases hr : p.completedResult with
    | none => simp [ProcessingFields.decision, hr]
    | some r => simp [h₄ (by simp [hr])]
  have hplannedIncident :
      (if p.completedResult.isNone then p.investigationRequest.map (·.incident) else none)
        = p.plannedIncident := by
    cases hr : p.completedResult with
    | none => simpa using hincident hr
    | some r => simpa [hr] using h₅
  have hplannedRequest : (if p.completedResult.isNone then p.investigationRequest else none)
      = p.plannedRequest := by
    cases hr : p.completedResult with
    | none => simp [ProcessingFields.investigationRequest, hr]
    | some r => simpa [hr] using h₆
  simp only [hstate, hplannedDecision, hplannedIncident, hplannedRequest]
  simp only [ProcessingFields.row, ofInstant_instant h₁, ofInstant_instant h₂,
    map_ofInstant_instant h₈, map_ofInstant_instant h₉]
  rfl

end Decoding

theorem deserializeFields_row {e : Entry} (h : e.Coherent) :
    deserializeFields e.processing.row = .ok e.processing := by
  obtain ⟨hdurable, -, -, -, hphase⟩ := h
  generalize e.processing = p at *
  generalize e.attempt = a at *
  have hunplanned : p.Unplanned → p.state ≠ .completed → deserializeFields p.row = .ok p := by
    intro hplan hstate
    have hdecision : p.decision = none := by
      simp [ProcessingFields.decision, hplan.result, hplan.decision]
    have hrequest : p.investigationRequest = none := by
      simp [ProcessingFields.investigationRequest, hplan.result, hplan.request]
    refine deserializeFields_row_of hdurable ?_ ?_ ?_ ?_
    · exact deserializeDecision_row (by simp [hdecision])
    · rw [hrequest]
      exact deserializeRequest_row_none hrequest
    · rw [hplan.result]
      exact deserializeResult_row_none hstate
    · simp [hrequest, hplan.incident]
  cases hphase with
  | accepted hstate hplan => exact hunplanned hplan (by simp [hstate])
  | rejected hstate hplan => exact hunplanned hplan (by simp [hstate])
  | noAction r hstate hresult houtcome hsource hbackend =>
      have hdecision : p.decision = some r.decision := by simp [ProcessingFields.decision, hresult]
      have hrequest : p.investigationRequest = none := by
        simp [ProcessingFields.investigationRequest, hresult, (r.of_noAction houtcome).2.1]
      refine deserializeFields_row_of hdurable ?_ ?_ ?_ ?_
      · refine deserializeDecision_row fun d hd => ?_
        obtain rfl := Option.some.inj (hdecision.symm.trans hd)
        exact hsource
      · rw [hrequest]
        exact deserializeRequest_row_none hrequest
      · rw [hdecision, hresult]
        exact deserializeResult_row_noAction hstate houtcome
      · simp [hresult]
  | executing q b a hexecutes hserves =>
      obtain ⟨hdecision, hincident, hrequest, -, halert, hcompleted⟩ := hexecutes
      refine deserializeFields_row_of hdurable ?_ ?_ ?_ ?_
      · refine deserializeDecision_row fun d hd => ?_
        obtain rfl := Option.some.inj (hdecision.symm.trans hd)
        rw [q.incident.source_eq, halert]
      · rw [hdecision, hrequest, ← halert]
        exact deserializeRequest_row_some hrequest
      · cases hr : p.completedResult with
        | none =>
            have hstate : p.state ≠ .completed := by simpa [hr] using hcompleted
            exact deserializeResult_row_none hstate
        | some r =>
            have hstate : p.state = .completed := by simpa [hr] using hcompleted
            simp only [ProcessingFields.decision, hr, Option.some.injEq] at hdecision
            simp only [ProcessingFields.incident, hr] at hincident
            simp only [ProcessingFields.investigationRequest, hr] at hrequest
            have hdecision' : p.decision = some q.incident.decision := by
              simp [ProcessingFields.decision, hr, hdecision]
            have hrequest' : p.investigationRequest = some q := by
              simp [ProcessingFields.investigationRequest, hr, hrequest]
            rw [hdecision', hrequest']
            exact deserializeResult_row_investigate hstate hr hdecision hincident hrequest
      · intro hr
        simp only [ProcessingFields.incident, hr] at hincident
        simp [hrequest, hincident]

theorem deserializeAttemptFields_row {a : AttemptFields} (h : a.durable = a) :
    deserializeAttemptFields a.row = .ok a := by
  rw [AttemptFields.durable_eq_self_iff] at h
  obtain ⟨h₁, h₂, h₃, h₄, h₅, h₆⟩ := h
  simp only [deserializeAttemptFields, AttemptFields.row, ExecutionAttemptState.ofValue_value,
    ofInstant_instant h₁, map_ofInstant_instant h₂, map_ofInstant_instant h₃,
    map_ofInstant_instant h₄, map_ofInstant_instant h₅, map_ofInstant_instant h₆]
  rfl

/-! ### Updates of a row -/

section Attempt

variable (a : AttemptFields) (now : Int)

theorem plannedAttempt_row (processingId attemptId operationKey : UUID) (backend : String) :
    plannedAttemptRow now processingId attemptId operationKey backend
      = (Entry.plannedAttempt now processingId attemptId operationKey backend).row := by
  simp [AttemptFields.row, Entry.plannedAttempt, plannedAttemptRow, ExecutionAttemptState.value]

theorem attempt_claim_row : ({ a.row with state := "submitting", startedAt := some now } :
    AttemptRow)
    = (a.claim now).row := by
  simp [AttemptFields.row, AttemptFields.claim, ExecutionAttemptState.value]

theorem attempt_markSubmitted_row (externalOperationId : String) : ({ a.row with
      state := "submitted"
      externalOperationId := some externalOperationId
      submittedAt := some now } : AttemptRow)
    = (a.markSubmitted now externalOperationId).row := by
  simp [AttemptFields.row, AttemptFields.markSubmitted, ExecutionAttemptState.value]

theorem attempt_recordPoll_row (remoteState : String) (category detail : Option String) :
    ({ a.row with
      lastPolledAt := some now
      lastRemoteState := some remoteState
      errorCategory := category
      errorDetail := detail } : AttemptRow)
    = (a.recordPoll now remoteState category detail).row := by
  simp [AttemptFields.row, AttemptFields.recordPoll]

theorem attempt_complete_row : ({ a.row with
      state := "completed"
      completedAt := some now
      lastPolledAt := some now
      lastRemoteState := some "succeeded"
      errorCategory := none
      errorDetail := none } : AttemptRow)
    = (a.complete now).row := by
  simp [AttemptFields.row, AttemptFields.complete, ExecutionAttemptState.value]

theorem attempt_fail_row (category detail : String) : ({ a.row with
      state := "failed"
      failedAt := some now
      errorCategory := some category
      errorDetail := some detail } : AttemptRow)
    = (a.fail now category detail).row := by
  simp [AttemptFields.row, AttemptFields.fail, ExecutionAttemptState.value]

theorem attempt_markRecoveryRequired_row (category detail : String) : ({ a.row with
      state := "recovery_required"
      errorCategory := some category
      errorDetail := some detail } : AttemptRow)
    = (a.markRecoveryRequired category detail).row := by
  simp [AttemptFields.row, AttemptFields.markRecoveryRequired, ExecutionAttemptState.value]

end Attempt

section Processing

variable (p : ProcessingFields) (now : Int)

theorem claim_row : ({ p.row with state := "submitting", updatedAt := now } : ProcessingRow)
    = (p.claim now).row := by
  simp only [ProcessingFields.row, ProcessingFields.claim, Datetime.instant_ofInstant]
  rfl

theorem markSubmitted_row :
    ({ p.row with state := "submitted", updatedAt := now } : ProcessingRow)
    = (p.markSubmitted now).row := by
  simp only [ProcessingFields.row, ProcessingFields.markSubmitted, Datetime.instant_ofInstant]
  rfl

theorem recordPoll_row (category detail : Option String) : ({ p.row with
      updatedAt := now, errorCategory := category, errorDetail := detail } : ProcessingRow)
    = (p.recordPoll now category detail).row := by
  simp only [ProcessingFields.row, ProcessingFields.recordPoll, Datetime.instant_ofInstant]
  rfl

theorem fail_row (category detail : String) : ({ p.row with
      state := "failed"
      updatedAt := now
      failedAt := some now
      errorCategory := some category
      errorDetail := some detail } : ProcessingRow)
    = (p.fail now category detail).row := by
  simp only [ProcessingFields.row, ProcessingFields.fail, Datetime.instant_ofInstant,
    Option.map_some]
  rfl

theorem markRecoveryRequired_row (category detail : String) : ({ p.row with
      state := "recovery_required"
      updatedAt := now
      errorCategory := some category
      errorDetail := some detail } : ProcessingRow)
    = (p.markRecoveryRequired now category detail).row := by
  simp only [ProcessingFields.row, ProcessingFields.markRecoveryRequired,
    Datetime.instant_ofInstant]
  rfl

end Processing

theorem complete_row {p : ProcessingFields} {result : OrchestrationResult} {x : InvestigationResult}
    {now : Int} (hresult : result.investigationResult = some x)
    (hdecision : p.decision = some result.decision)
    (hrequest : p.investigationRequest
      = result.investigationRequest.map InvestigationRequest.utc) :
    resultValues x { p.row with
      state := "completed"
      updatedAt := now
      completedAt := some now
      errorCategory := none
      errorDetail := none } = (p.complete now result).row := by
  have hdecision' : (p.complete now result).decision = p.decision := hdecision.symm
  have hrequest' : (p.complete now result).investigationRequest = p.investigationRequest :=
    hrequest.symm
  simp only [ProcessingFields.row, hdecision', hrequest']
  simp [ProcessingFields.complete, OrchestrationResult.utc, hresult, resultValues]
  rfl

theorem storeNoActionResult_row {p : ProcessingFields} {result : OrchestrationResult} {now : Int}
    (houtcome : result.decision.outcome = .noAction) (hplan : p.Unplanned) :
    decisionValues result.decision { p.row with
      state := "completed"
      updatedAt := now
      completedAt := some now } = (p.storeNoActionResult now result).row := by
  obtain ⟨-, hrequest, hresult⟩ := result.of_noAction houtcome
  have hdecision' : (p.storeNoActionResult now result).decision = some result.decision := rfl
  have hrequest' : (p.storeNoActionResult now result).investigationRequest = none := by
    simp [ProcessingFields.storeNoActionResult, ProcessingFields.investigationRequest,
      OrchestrationResult.utc, hrequest]
  have hrequest'' : p.investigationRequest = none := by
    simp [ProcessingFields.investigationRequest, hplan.result, hplan.request]
  simp only [ProcessingFields.row, hdecision', hrequest', hrequest'', hplan.result]
  simp [ProcessingFields.storeNoActionResult, OrchestrationResult.utc, hresult, decisionValues]
  rfl

theorem storePlan_row {p : ProcessingFields} {decision : Decision} {incident : Incident}
    {request : InvestigationRequest} {backend : String} {now : Int} (hplan : p.Unplanned) :
    decisionValues decision (requestValues request { p.row with
      state := "planned"
      updatedAt := now
      selectedBackend := some backend })
      = (p.storePlan now decision incident request backend).row := by
  have hdecision : (p.storePlan now decision incident request backend).decision
      = some decision := by
    simp [ProcessingFields.storePlan, ProcessingFields.decision, hplan.result]
  have hrequest : (p.storePlan now decision incident request backend).investigationRequest
      = some request.utc := by
    simp [ProcessingFields.storePlan, ProcessingFields.investigationRequest, hplan.result]
  simp only [ProcessingFields.row, hdecision, hrequest, hplan.result]
  simp [ProcessingFields.storePlan, decisionValues, requestValues, hplan.result]
  exact ⟨rfl, rfl, rfl, rfl⟩

theorem accepted_row {processingId : UUID} {alert : CanonicalAlert} {scope key : String}
    {version : Int} {digest : List UInt8} {now : Int} :
    canonicalValues processingId alert scope key version digest now
      = (Entry.accepted now processingId alert scope key version digest).processing.row := by
  simp [ProcessingFields.row, Entry.accepted, canonicalValues, ProcessingFields.decision,
    ProcessingFields.investigationRequest, CanonicalAlert.utc]
  rfl

end Postgres

end Alert2IR
