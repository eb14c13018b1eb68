import Alert2IR.Core.Workflow

/-!
# The baseline policy

The severity of an alert alone decides whether it is investigated, and every severity is decided.
-/

namespace Alert2IR

namespace BaselineSeverityPolicy

def policyId : String := "baseline-severity-v1"

/-- `_OUTCOME_BY_SEVERITY`. -/
def outcomeBySeverity : Severity → DecisionOutcome
  | .low => .noAction
  | .medium => .noAction
  | .high => .investigate
  | .critical => .investigate

def reason (severity : Severity) : String :=
  if outcomeBySeverity severity = .investigate then
    "normalized severity '" ++ severity.value ++ "' requires investigation"
  else "normalized severity '" ++ severity.value ++ "' does not require investigation"

/-- `BaselineSeverityPolicy.decide`. -/
def decide (alert : CanonicalAlert) : Except PyError Decision :=
  Decision.make (outcomeBySeverity alert.severity) policyId [reason alert.severity] alert.source

theorem postInit_reason (severity : Severity) :
    Decision.postInit policyId [reason severity] = .ok () := by
  cases severity <;> rfl

/-- What is decided of an alert. -/
def decision (alert : CanonicalAlert) : Decision :=
  ⟨outcomeBySeverity alert.severity, policyId, [reason alert.severity], alert.source,
    postInit_reason alert.severity⟩

/-- The policy decides every alert. -/
@[simp]
theorem decide_eq (alert : CanonicalAlert) : decide alert = .ok (decision alert) :=
  Decision.make_self (decision alert)

/-- The offset an alert is dated with decides nothing. -/
@[simp]
theorem decision_utc (alert : CanonicalAlert) : decision alert.utc = decision alert := rfl

/-- Whether an alert is to be investigated. -/
def investigates (alert : CanonicalAlert) : Prop :=
  alert.severity = .high ∨ alert.severity = .critical

theorem outcome_eq_investigate_iff {alert : CanonicalAlert} :
    (decision alert).outcome = .investigate ↔ investigates alert := by
  cases hseverity : alert.severity <;> simp [decision, investigates, outcomeBySeverity, hseverity]

end BaselineSeverityPolicy

end Alert2IR
