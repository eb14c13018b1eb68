import Alert2IR.Backends.Base
import Alert2IR.Core.Uuid

/-!
# Deterministic investigation backend for local and integration tests

An operation is named by its key, has always succeeded, and its result is made up of the
capabilities that were asked for.
-/

namespace Alert2IR

/-- A sequence that succeeds. -/
theorem exists_of_bind_ok {α β : Type} {x : Except PyError α} {f : α → Except PyError β} {b : β}
    (h : x >>= f = .ok b) : ∃ a, x = .ok a ∧ f a = .ok b := by
  cases x with
  | error e => cases h
  | ok a => exact ⟨a, rfl, h⟩

namespace MockBackend

def postInit (name : String) (capabilities : List String) : Except PyError Unit :=
  checks ((!isBlank name, "name must be non-empty")
    :: capabilities.map fun capability => (!isBlank capability, "capability must be non-empty"))

end MockBackend

structure MockBackend where
  name : String
  capabilities : List String
  valid : MockBackend.postInit name capabilities = .ok ()
deriving DecidableEq

namespace MockBackend

def make (name : String) (capabilities : List String) : Except PyError MockBackend :=
  match h : postInit name capabilities with
  | .ok () => .ok ⟨name, capabilities, h⟩
  | .error e => .error e

theorem make_eq_ok {name : String} {capabilities : List String} {backend : MockBackend}
    (h : make name capabilities = .ok backend) :
    backend.name = name ∧ backend.capabilities = capabilities := by
  unfold make at h
  split at h
  · cases h
    exact ⟨rfl, rfl⟩
  · cases h

variable (backend : MockBackend) (request : InvestigationRequest)

/-- What the router and the core see of it. -/
def toBackend : Backend := ⟨backend.name, backend.capabilities⟩

/-- `_require_supported`. -/
def requireSupported : Except PyError Unit :=
  if request.requiredCapabilities.all fun capability =>
    backend.capabilities.contains capability then .ok ()
  else .error (.unsupportedCapabilities request.requiredCapabilities none)

/-- `_require_non_empty`, of the ID of an operation. -/
def requireOperation (externalOperationId : String) : Except PyError Unit :=
  checks [(!isBlank externalOperationId, "external_operation_id must be non-empty")]

def submit (operationKey : UUID) : Except PyError SubmittedOperation := do
  backend.requireSupported request
  SubmittedOperation.make ("mock:" ++ uuidText operationKey)

def poll (externalOperationId : String) : Except PyError OperationStatus := do
  backend.requireSupported request
  requireOperation externalOperationId
  OperationStatus.make .succeeded "completed"

/-- The evidence of a capability. -/
def evidenceOf (capability : String) : Except PyError EvidenceReference :=
  EvidenceReference.make ("mock:" ++ capability) (some "mock-result")

def collectResult (externalOperationId : String) : Except PyError InvestigationResult := do
  backend.requireSupported request
  requireOperation externalOperationId
  let evidence ← request.requiredCapabilities.mapM evidenceOf
  InvestigationResult.make backend.name request.requiredCapabilities evidence

/-- `investigate`, outside the durable application path. -/
def investigate : Except PyError InvestigationResult :=
  backend.collectResult request "mock:legacy"

end MockBackend

end Alert2IR
