import Alert2IR.Core.Workflow

/-!
# Backend lifecycle contracts and capability-based selection

A backend is known by its name and capabilities. Its `submit`, `poll` and `collect_result` belong to
code outside the durable core and appear there as calls that may answer or raise anything.
-/

namespace Alert2IR

inductive OperationState
  | nonterminal
  | succeeded
  | failed
deriving DecidableEq, Repr

namespace SubmittedOperation

def postInit (externalOperationId : String) : Except PyError Unit :=
  checks [(!isBlank externalOperationId, "external_operation_id must be non-empty"),
    (externalOperationId.length ≤ 512, "external_operation_id must not exceed 512 characters")]

end SubmittedOperation

structure SubmittedOperation where
  externalOperationId : String
  valid : SubmittedOperation.postInit externalOperationId = .ok ()
deriving DecidableEq

def SubmittedOperation.make (externalOperationId : String) : Except PyError SubmittedOperation :=
  match h : postInit externalOperationId with
  | .ok () => .ok ⟨externalOperationId, h⟩
  | .error e => .error e

namespace OperationStatus

def postInit (remoteState : String) : Except PyError Unit :=
  checks [(!isBlank remoteState, "remote_state must be non-empty"),
    (remoteState.length ≤ 256, "remote_state must not exceed 256 characters")]

end OperationStatus

/-- `state` is not validated by the source: `none` stands for a value outside `OperationState`. -/
structure OperationStatus where
  state : Option OperationState
  remoteState : String
  valid : OperationStatus.postInit remoteState = .ok ()
deriving DecidableEq

def OperationStatus.make (state : OperationState) (remoteState : String) :
    Except PyError OperationStatus :=
  match h : postInit remoteState with
  | .ok () => .ok ⟨some state, remoteState, h⟩
  | .error e => .error e

namespace InvestigationResult

def postInit (backend : String) (completedCapabilities : List String) : Except PyError Unit :=
  checks ((!isBlank backend, "backend must be non-empty")
    :: completedCapabilities.map fun capability =>
        (!isBlank capability, "completed capability must be non-empty"))

end InvestigationResult

structure InvestigationResult where
  backend : String
  completedCapabilities : List String
  evidence : List EvidenceReference
  valid : InvestigationResult.postInit backend completedCapabilities = .ok ()
deriving DecidableEq

def InvestigationResult.make (backend : String) (completedCapabilities : List String)
    (evidence : List EvidenceReference) : Except PyError InvestigationResult :=
  match h : postInit backend completedCapabilities with
  | .ok () => .ok ⟨backend, completedCapabilities, evidence, h⟩
  | .error e => .error e

@[simp]
theorem InvestigationResult.make_self (r : InvestigationResult) :
    make r.backend r.completedCapabilities r.evidence = .ok r := by
  unfold make
  split
  · rfl
  · next h => simp [r.valid] at h

/-- `InvestigationBackend`, as far as the router looks at it. -/
structure Backend where
  name : String
  capabilities : List String
deriving DecidableEq

structure BackendRouter where
  backends : List Backend
deriving DecidableEq

namespace BackendRouter

def select (router : BackendRouter) (request : InvestigationRequest) : Except PyError Backend :=
  let eligible := router.backends.filter fun backend =>
    request.requiredCapabilities.all fun capability => backend.capabilities.contains capability
  match eligible with
  | [] => .error (.unsupportedCapabilities request.requiredCapabilities none)
  | [backend] => .ok backend
  | _ => .error (.ambiguousBackend request.requiredCapabilities (eligible.map (·.name)) none)

/-- Resolve a previously persisted backend selection exactly by name. -/
def get (router : BackendRouter) (name : String) : Option Backend :=
  match router.backends.filter fun backend => backend.name = name with
  | [backend] => some backend
  | _ => none

theorem get_name {router : BackendRouter} {name : String} {backend : Backend}
    (h : router.get name = some backend) : backend.name = name := by
  unfold get at h
  split at h
  · next found hfilter =>
    cases h
    have hmem : backend ∈ router.backends.filter fun backend => backend.name = name := by
      rw [hfilter]
      exact .head _
    simpa using (List.mem_filter.mp hmem).2
  · cases h

end BackendRouter

end Alert2IR
