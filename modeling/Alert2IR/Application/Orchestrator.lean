import Alert2IR.Backends.Base

/-!
# Results of planning and of a whole orchestration
-/

namespace Alert2IR

namespace OrchestrationResult

def postInit (decision : Decision) (incident : Option Incident)
    (investigationRequest : Option InvestigationRequest)
    (investigationResult : Option InvestigationResult) : Except PyError Unit :=
  match decision.outcome with
  | .noAction =>
      checks [(incident.isNone && investigationRequest.isNone && investigationResult.isNone,
        "no_action result cannot contain investigation values")]
  | .investigate =>
      checks [
        (incident.isSome && investigationRequest.isSome && investigationResult.isSome,
          "investigate result requires the complete result graph"),
        (ifPresent incident fun i => i.decision = decision,
          "incident decision must match orchestration decision"),
        (ifPresent investigationRequest fun r => some r.incident.utc = incident.map Incident.utc,
          "investigation request incident must match incident")]

end OrchestrationResult

/-- Terminal public logical outcome retained for API compatibility. -/
structure OrchestrationResult where
  decision : Decision
  incident : Option Incident
  investigationRequest : Option InvestigationRequest
  investigationResult : Option InvestigationResult
  valid : OrchestrationResult.postInit decision incident investigationRequest investigationResult
    = .ok ()
deriving DecidableEq

namespace OrchestrationResult

def make (decision : Decision) (incident : Option Incident)
    (investigationRequest : Option InvestigationRequest)
    (investigationResult : Option InvestigationResult) : Except PyError OrchestrationResult :=
  match h : postInit decision incident investigationRequest investigationResult with
  | .ok () => .ok ⟨decision, incident, investigationRequest, investigationResult, h⟩
  | .error e => .error e

theorem make_error {d : Decision} {i : Option Incident} {q : Option InvestigationRequest}
    {x : Option InvestigationResult} {e : PyError} (h : make d i q x = .error e) :
    ∃ message, e = .valueError message := by
  unfold make at h
  split at h
  · cases h
  · next hinit =>
    cases h
    unfold postInit at hinit
    split at hinit
    · exact checks_error hinit
    · exact checks_error hinit

theorem make_eq_ok_iff {d : Decision} {i : Option Incident} {q : Option InvestigationRequest}
    {x : Option InvestigationResult} {r : OrchestrationResult} :
    make d i q x = .ok r ↔ r.decision = d ∧ r.incident = i ∧ r.investigationRequest = q ∧
      r.investigationResult = x := by
  constructor
  · intro h
    unfold make at h
    split at h
    · cases h
      exact ⟨rfl, rfl, rfl, rfl⟩
    · cases h
  · rintro ⟨rfl, rfl, rfl, rfl⟩
    unfold make
    split
    · rfl
    · next h => simp [r.valid] at h

theorem of_noAction (r : OrchestrationResult) (h : r.decision.outcome = .noAction) :
    r.incident = none ∧ r.investigationRequest = none ∧ r.investigationResult = none := by
  have hvalid := r.valid
  simpa [postInit, h, checks_eq_ok_iff, and_assoc] using hvalid

theorem exists_make_noAction {d : Decision} (h : d.outcome = .noAction) :
    ∃ r, make d none none none = .ok r := by
  have hvalid : postInit d none none none = .ok () := by
    rw [postInit, h]
    rfl
  exact ⟨⟨d, none, none, none, hvalid⟩, make_eq_ok_iff.mpr ⟨rfl, rfl, rfl, rfl⟩⟩

theorem of_investigate (r : OrchestrationResult) (h : r.decision.outcome = .investigate) :
    ∃ i q x, r.incident = some i ∧ r.investigationRequest = some q ∧
      r.investigationResult = some x := by
  have hvalid := r.valid
  simp only [postInit, h, checks_eq_ok_iff] at hvalid
  have hgraph := hvalid _ (.head _)
  simp only [Bool.and_eq_true, Option.isSome_iff_exists] at hgraph
  obtain ⟨⟨⟨i, hi⟩, q, hq⟩, x, hx⟩ := hgraph
  exact ⟨i, q, x, hi, hq, hx⟩

theorem graph_of_investigate (r : OrchestrationResult) (h : r.decision.outcome = .investigate)
    {i : Incident} {q : InvestigationRequest} (hi : r.incident = some i)
    (hq : r.investigationRequest = some q) : i.decision = r.decision ∧ q.incident.utc = i.utc := by
  have hvalid := r.valid
  simp only [postInit, h, checks_eq_ok_iff] at hvalid
  have hdecision := hvalid _ (.tail _ (.head _))
  have hincident := hvalid _ (.tail _ (.tail _ (.head _)))
  simp only [hi, hq, ifPresent_some, decide_eq_true_eq, Option.map_some, Option.some.injEq]
    at hdecision hincident
  exact ⟨hdecision, hincident⟩

theorem postInit_utc {d : Decision} {i : Option Incident} {q : Option InvestigationRequest}
    {x : Option InvestigationResult} (h : postInit d i q x = .ok ()) :
    postInit d (i.map Incident.utc) (q.map InvestigationRequest.utc) x = .ok () := by
  unfold postInit at h ⊢
  cases houtcome : d.outcome with
  | noAction => simpa [houtcome] using h
  | investigate =>
      simp only [houtcome, checks_eq_ok_iff] at h ⊢
      cases i <;> cases q <;> simp_all

def utc (r : OrchestrationResult) : OrchestrationResult where
  decision := r.decision
  incident := r.incident.map Incident.utc
  investigationRequest := r.investigationRequest.map InvestigationRequest.utc
  investigationResult := r.investigationResult
  valid := postInit_utc r.valid

@[simp]
theorem utc_utc (r : OrchestrationResult) : r.utc.utc = r.utc := by
  simp [utc, Function.comp_def]

end OrchestrationResult

namespace PlanningResult

def postInit (decision : Decision) (incident : Option Incident)
    (investigationRequest : Option InvestigationRequest) (backend : Option Backend) :
    Except PyError Unit :=
  match decision.outcome with
  | .noAction =>
      checks [(incident.isNone && investigationRequest.isNone && backend.isNone,
        "no_action plan cannot contain investigation values")]
  | .investigate =>
      checks [
        (incident.isSome && investigationRequest.isSome && backend.isSome,
          "investigate plan requires request and backend"),
        (ifPresent incident fun i => i.decision = decision,
          "incident decision must match plan decision"),
        (ifPresent investigationRequest fun r => some r.incident.utc = incident.map Incident.utc,
          "investigation request incident must match incident")]

end PlanningResult

/-- Pure deterministic plan; backend methods have not been called. -/
structure PlanningResult where
  decision : Decision
  incident : Option Incident
  investigationRequest : Option InvestigationRequest
  backend : Option Backend
  valid : PlanningResult.postInit decision incident investigationRequest backend = .ok ()
deriving DecidableEq

def PlanningResult.make (decision : Decision) (incident : Option Incident)
    (investigationRequest : Option InvestigationRequest) (backend : Option Backend) :
    Except PyError PlanningResult :=
  match h : postInit decision incident investigationRequest backend with
  | .ok () => .ok ⟨decision, incident, investigationRequest, backend, h⟩
  | .error e => .error e

theorem PlanningResult.make_eq_ok_iff {d : Decision} {i : Option Incident}
    {q : Option InvestigationRequest} {b : Option Backend} {r : PlanningResult} :
    make d i q b = .ok r ↔ r.decision = d ∧ r.incident = i ∧ r.investigationRequest = q ∧
      r.backend = b := by
  constructor
  · intro h
    unfold make at h
    split at h
    · cases h
      exact ⟨rfl, rfl, rfl, rfl⟩
    · cases h
  · rintro ⟨rfl, rfl, rfl, rfl⟩
    unfold make
    split
    · rfl
    · next h => simp [r.valid] at h

/-- A plan to investigate has all of its parts. -/
theorem PlanningResult.of_investigate (r : PlanningResult) (h : r.decision.outcome ≠ .noAction) :
    ∃ i q b, r.incident = some i ∧ r.investigationRequest = some q ∧ r.backend = some b := by
  have hvalid := r.valid
  have houtcome : r.decision.outcome = .investigate := by
    cases hcase : r.decision.outcome with
    | noAction => exact absurd hcase h
    | investigate => rfl
  simp only [postInit, houtcome, checks_eq_ok_iff] at hvalid
  have hplan := hvalid _ (.head _)
  simp only [Bool.and_eq_true, Option.isSome_iff_exists] at hplan
  obtain ⟨⟨⟨i, hi⟩, q, hq⟩, b, hb⟩ := hplan
  exact ⟨i, q, b, hi, hq, hb⟩

/-- The collaborators of `AlertOrchestrator` that are data. The policy and the request factory are
other code, asked through calls. -/
structure AlertOrchestrator where
  router : BackendRouter
deriving DecidableEq

def AlertOrchestrator.backendForName (o : AlertOrchestrator) (name : String) : Option Backend :=
  o.router.get name

end Alert2IR
