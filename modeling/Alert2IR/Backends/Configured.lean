import Alert2IR.Backends.Mock
import Alert2IR.Backends.Velociraptor

/-!
# The backends a service can be configured with

What the methods of a backend may return or raise. The mock backend computes its answers, that of
Velociraptor finds them out through its API.
-/

namespace Alert2IR

namespace VelociraptorBackend

def make (hostClientIds : List (String × String)) (collectionTimeoutSeconds : Rat) :
    Except PyError VelociraptorBackend :=
  match h : postInit hostClientIds collectionTimeoutSeconds with
  | .ok () => .ok ⟨hostClientIds, collectionTimeoutSeconds, h⟩
  | .error e => .error e

theorem make_eq_ok {hostClientIds : List (String × String)} {collectionTimeoutSeconds : Rat}
    {backend : VelociraptorBackend}
    (h : make hostClientIds collectionTimeoutSeconds = .ok backend) :
    backend.hostClientIds = hostClientIds := by
  unfold make at h
  split at h
  · cases h
    rfl
  · cases h

/-- `VelociraptorBackend.collect_result`. -/
def collectResult (backend : VelociraptorBackend) (request : InvestigationRequest)
    (externalOperationId : String) : Except PyError InvestigationResult := do
  let _ ← backend.resolveClientId request
  if isBlank externalOperationId then
    throw (Velociraptor.collectionError "known collection reference is blank or invalid")
  else
    InvestigationResult.make toBackend.name request.requiredCapabilities []

end VelociraptorBackend

inductive ConfiguredBackend
  | mock (backend : MockBackend)
  | velociraptor (backend : VelociraptorBackend)

namespace ConfiguredBackend

open Interleaving.Proc

/-- What the router and the core see of a backend. -/
def toBackend : ConfiguredBackend → Backend
  | mock backend => backend.toBackend
  | velociraptor _ => VelociraptorBackend.toBackend

section Methods

variable (lib : Velociraptor.Library) (request : InvestigationRequest)

/-- A timeout as it is passed on. -/
def seconds (timeoutSeconds : Option Rat) : Option Velociraptor.PyNumber :=
  timeoutSeconds.map fun timeout => .finite timeout timeout

/-- What `submit` may return or raise. -/
def Submits (operationKey : UUID) (timeoutSeconds : Option Rat)
    (answer : Except PyError (Option SubmittedOperation)) : ConfiguredBackend → Prop
  | mock backend => answer = (backend.submit request operationKey).map some
  | velociraptor backend => ∃ h x,
      Returns (backend.submit lib request (seconds timeoutSeconds)) h x ∧ answer = x.map some

/-- What `poll` may return or raise. -/
def Polls (externalOperationId : String) (timeoutSeconds : Option Rat)
    (answer : Except PyError (Option OperationStatus)) : ConfiguredBackend → Prop
  | mock backend => answer = (backend.poll request externalOperationId).map some
  | velociraptor backend => ∃ h x,
      Returns (backend.poll lib request externalOperationId (seconds timeoutSeconds)) h x ∧
        answer = x.map some

/-- What `collect_result` may return or raise. -/
def Collects (externalOperationId : String)
    (answer : Except PyError (Option InvestigationResult)) : ConfiguredBackend → Prop
  | mock backend => answer = (backend.collectResult request externalOperationId).map some
  | velociraptor backend =>
      answer = (backend.collectResult request externalOperationId).map some

end Methods

end ConfiguredBackend

end Alert2IR
