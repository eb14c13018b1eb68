import Alert2IR.Core.Models

/-!
# Decision, incident, and investigation request domain models
-/

namespace Alert2IR

inductive DecisionOutcome
  | investigate
  | noAction
deriving DecidableEq, Repr

def DecisionOutcome.value : DecisionOutcome → String
  | .investigate => "investigate"
  | .noAction => "no_action"

def DecisionOutcome.ofValue (value : String) : Except PyError DecisionOutcome :=
  if value = "investigate" then .ok .investigate
  else if value = "no_action" then .ok .noAction
  else .error (.valueError "not a valid DecisionOutcome")

@[simp]
theorem DecisionOutcome.ofValue_value (o : DecisionOutcome) :
    DecisionOutcome.ofValue o.value = .ok o := by
  cases o <;> rfl

namespace Decision

def postInit (policyId : String) (reasons : List String) : Except PyError Unit :=
  checks ([(!isBlank policyId, "policy_id must be non-empty"),
      (!reasons.isEmpty, "reasons must contain at least one item")]
    ++ reasons.map fun reason => (!isBlank reason, "reason must be non-empty"))

end Decision

structure Decision where
  outcome : DecisionOutcome
  policyId : String
  reasons : List String
  source : SourceProvenance
  valid : Decision.postInit policyId reasons = .ok ()
deriving DecidableEq

def Decision.make (outcome : DecisionOutcome) (policyId : String) (reasons : List String)
    (source : SourceProvenance) : Except PyError Decision :=
  match h : postInit policyId reasons with
  | .ok () => .ok ⟨outcome, policyId, reasons, source, h⟩
  | .error e => .error e

@[simp]
theorem Decision.make_self (d : Decision) :
    make d.outcome d.policyId d.reasons d.source = .ok d := by
  unfold make
  split
  · rfl
  · next h => simp [d.valid] at h

namespace Incident

def postInit (alert : CanonicalAlert) (decision : Decision) : Except PyError Unit :=
  checks [(decision.outcome = .investigate, "incident requires an investigate decision"),
    (decision.source = alert.source, "decision source must match alert source")]

end Incident

structure Incident where
  alert : CanonicalAlert
  decision : Decision
  valid : Incident.postInit alert decision = .ok ()
deriving DecidableEq

namespace Incident

def make (alert : CanonicalAlert) (decision : Decision) : Except PyError Incident :=
  match h : postInit alert decision with
  | .ok () => .ok ⟨alert, decision, h⟩
  | .error e => .error e

@[simp]
theorem make_self (i : Incident) : make i.alert i.decision = .ok i := by
  unfold make
  split
  · rfl
  · next h => simp [i.valid] at h

theorem make_eq_ok_iff {alert : CanonicalAlert} {decision : Decision} {i : Incident} :
    make alert decision = .ok i ↔ i.alert = alert ∧ i.decision = decision := by
  constructor
  · intro h
    unfold make at h
    split at h
    · cases h
      exact ⟨rfl, rfl⟩
    · cases h
  · rintro ⟨rfl, rfl⟩
    exact make_self i

theorem outcome_eq (i : Incident) : i.decision.outcome = .investigate := by
  have h := checks_eq_ok_iff.mp i.valid
  simpa using h (decide (i.decision.outcome = .investigate), _) (.head _)

theorem source_eq (i : Incident) : i.decision.source = i.alert.source := by
  have h := checks_eq_ok_iff.mp i.valid
  simpa using h (decide (i.decision.source = i.alert.source), _) (.tail _ (.head _))

def utc (i : Incident) : Incident := { i with alert := i.alert.utc, valid := i.valid }

@[simp]
theorem utc_utc (i : Incident) : i.utc.utc = i.utc := by
  simp [utc]

@[simp]
theorem utc_alert (i : Incident) : i.utc.alert = i.alert.utc := rfl

@[simp]
theorem utc_decision (i : Incident) : i.utc.decision = i.decision := rfl

end Incident

namespace InvestigationRequest

def postInit (desiredOutcome : String) (requiredCapabilities : List String) :
    Except PyError Unit :=
  checks ([(!isBlank desiredOutcome, "desired_outcome must be non-empty"),
      (!requiredCapabilities.isEmpty, "required_capabilities must contain at least one item")]
    ++ requiredCapabilities.map fun capability =>
        (!isBlank capability, "capability must be non-empty"))

end InvestigationRequest

structure InvestigationRequest where
  incident : Incident
  desiredOutcome : String
  requiredCapabilities : List String
  targets : List Entity
  valid : InvestigationRequest.postInit desiredOutcome requiredCapabilities = .ok ()
deriving DecidableEq

namespace InvestigationRequest

def make (incident : Incident) (desiredOutcome : String) (requiredCapabilities : List String)
    (targets : List Entity) : Except PyError InvestigationRequest :=
  match h : postInit desiredOutcome requiredCapabilities with
  | .ok () => .ok ⟨incident, desiredOutcome, requiredCapabilities, targets, h⟩
  | .error e => .error e

@[simp]
theorem make_self (r : InvestigationRequest) :
    make r.incident r.desiredOutcome r.requiredCapabilities r.targets = .ok r := by
  unfold make
  split
  · rfl
  · next h => simp [r.valid] at h

def utc (r : InvestigationRequest) : InvestigationRequest :=
  { r with incident := r.incident.utc }

@[simp]
theorem utc_utc (r : InvestigationRequest) : r.utc.utc = r.utc := by
  simp [utc]

@[simp]
theorem utc_incident (r : InvestigationRequest) : r.utc.incident = r.incident.utc := rfl

end InvestigationRequest

end Alert2IR
