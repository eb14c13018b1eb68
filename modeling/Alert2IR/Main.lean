import Alert2IR.Application.Processing
import Alert2IR.Backends.Configured
import Alert2IR.Core.Policy
import Alert2IR.Core.Text
import Alert2IR.Interleaving.Serving

/-!
# The service as it is put together

The environment of the process decides which backend there is, or that the process does not start.
Alerts arrive and passes are run at any time, one policy decides, one factory makes the requests,
and the one backend answers. The constructor of the client for Velociraptor, which reads its
configuration from a file, is a parameter.
-/

namespace Alert2IR

namespace Main

/-- `os.environ`. -/
abbrev Environ := String → Option String

def databaseUrlSetting : String := "ALERT2IR_DATABASE_URL"

def backendSetting : String := "ALERT2IR_BACKEND"

def velociraptorApiConfigPathSetting : String := "ALERT2IR_VELOCIRAPTOR_API_CONFIG_PATH"

def velociraptorHostSetting : String := "ALERT2IR_VELOCIRAPTOR_HOST"

def velociraptorClientIdSetting : String := "ALERT2IR_VELOCIRAPTOR_CLIENT_ID"

def velociraptorApplicationSettings : List String :=
  [velociraptorApiConfigPathSetting, velociraptorHostSetting, velociraptorClientIdSetting]

def velociraptorCollectionTimeoutSeconds : Rat := 60

/-- `_require_database_url`. -/
def requireDatabaseUrl (environ : Environ) : Except PyError String :=
  match environ databaseUrlSetting with
  | none => .error (.runtimeError "ALERT2IR_DATABASE_URL must be set and non-empty")
  | some databaseUrl =>
    if isBlank databaseUrl then
      .error (.runtimeError "ALERT2IR_DATABASE_URL must be set and non-empty")
    else .ok databaseUrl

/-- `_require_exact_nonempty_setting`. -/
def requireExactNonemptySetting (environ : Environ) (name : String) : Except PyError String :=
  let error : PyError := .runtimeError
    (name ++ " must be set to a non-empty value without leading or trailing whitespace")
  match environ name with
  | none => .error error
  | some value => if value = "" ∨ value ≠ strip value then .error error else .ok value

/-- A `BackendRouter`, with the backends themselves. -/
structure ConfiguredRouter where
  backends : List ConfiguredBackend

def ConfiguredRouter.toRouter (router : ConfiguredRouter) : BackendRouter :=
  ⟨router.backends.map ConfiguredBackend.toBackend⟩

def ConfiguredRouter.orchestrator (router : ConfiguredRouter) : AlertOrchestrator :=
  ⟨router.toRouter⟩

/-- `_make_backend_router`. -/
def makeBackendRouter (client : String → Except PyError Unit) (environ : Environ) :
    Except PyError ConfiguredRouter :=
  let backendName := (environ backendSetting).getD "mock"
  if backendName ∉ ["mock", "velociraptor"] then
    .error (.runtimeError "ALERT2IR_BACKEND must be exactly 'mock' or 'velociraptor'")
  else
    let configured := velociraptorApplicationSettings.filter fun name => (environ name).isSome
    if backendName = "mock" then
      if configured ≠ [] then
        .error (.runtimeError
          "Velociraptor application settings require ALERT2IR_BACKEND='velociraptor'")
      else do
        let backend ← MockBackend.make "mock" ["process.list"]
        return ⟨[.mock backend]⟩
    else do
      let apiConfigPath ← requireExactNonemptySetting environ velociraptorApiConfigPathSetting
      let host ← requireExactNonemptySetting environ velociraptorHostSetting
      let clientId ← requireExactNonemptySetting environ velociraptorClientIdSetting
      client apiConfigPath
      let backend ← VelociraptorBackend.make [(host, clientId)]
        velociraptorCollectionTimeoutSeconds
      return ⟨[.velociraptor backend]⟩

/-- `_make_process_inventory_request`. -/
def makeProcessInventoryRequest (incident : Incident) : Except PyError InvestigationRequest :=
  InvestigationRequest.make incident "collect process inventory" ["process.list"]
    incident.alert.entities

/-- What the module does before there is an app. -/
def start (client : String → Except PyError Unit) (environ : Environ) :
    Except PyError ConfiguredRouter := do
  let router ← makeBackendRouter client environ
  let _ ← requireDatabaseUrl environ
  return router

/-- What the service is there for: an alert under a key, or a pass with the default bounds. -/
inductive Job
  | process (alert : CanonicalAlert) (idempotencyKey : String)
  | reconcileOnce

def reconciliationLimit : Int := 25

def reconciliationTimeLimitSeconds : Rat := 10

/-- `_SUBMITTING_STALE_AFTER`, in microseconds. -/
def submittingStaleAfter : Int := 5 * 60 * 1000000

def Job.invocation (router : ConfiguredRouter) : Job → Invocation
  | process alert idempotencyKey => .process router.orchestrator alert idempotencyKey
  | reconcileOnce => .reconcileOnce router.orchestrator reconciliationLimit
      reconciliationTimeLimitSeconds submittingStaleAfter

/-- How the policy, the factory and the backend of the service answer. -/
def Answers (lib : Velociraptor.Library) (router : ConfiguredRouter) :
    (c : Call) → c.Response → Prop
  | .decide alert, r => r = BaselineSeverityPolicy.decide alert
  | .requestFactory incident, r => r = makeProcessInventoryRequest incident
  | .submit _ backend request operationKey timeoutSeconds, r =>
      ∃ b ∈ router.backends, b.toBackend = backend ∧
        b.Submits lib request operationKey timeoutSeconds r
  | .poll _ backend request externalOperationId timeoutSeconds, r =>
      ∃ b ∈ router.backends, b.toBackend = backend ∧
        b.Polls lib request externalOperationId timeoutSeconds r
  | .collectResult _ backend request externalOperationId, r =>
      ∃ b ∈ router.backends, b.toBackend = backend ∧ b.Collects request externalOperationId r
  | _, _ => True

/-- The service over a repository: any number of jobs at a time. -/
def service {σ : Type} (M : Repository σ)
    (fingerprintCanonicalAlert : CanonicalAlert → Except PyError (Int × List UInt8))
    (lib : Velociraptor.Library) (router : ConfiguredRouter) :
    Interleaving.System (World σ) Job Call Call.Response (Except PyError Outcome) :=
  (M.system fingerprintCanonicalAlert).serving (Job.invocation router) (Answers lib router)

/-! ### What can be configured -/

/-- What a service is started with. -/
inductive ConfiguredRouter.Started (router : ConfiguredRouter) : Prop
  | mock (b : MockBackend) (hbackends : router.backends = [.mock b]) (hname : b.name = "mock")
      (hcapabilities : b.capabilities = ["process.list"])
  | velociraptor (b : VelociraptorBackend) (host clientId : String)
      (hbackends : router.backends = [.velociraptor b])
      (hhosts : b.hostClientIds = [(host, clientId)])

/-- The one backend of a router, which offers the process list. -/
structure ConfiguredRouter.Sole (router : ConfiguredRouter) (b : ConfiguredBackend) : Prop where
  backends : router.backends = [b]
  capabilities : b.toBackend.capabilities = ["process.list"]

section Configured

variable {client : String → Except PyError Unit} {environ : Environ} {router : ConfiguredRouter}

theorem started_of_makeBackendRouter (h : makeBackendRouter client environ = .ok router) :
    router.Started := by
  unfold makeBackendRouter at h
  dsimp only at h
  split at h
  · cases h
  split at h
  · split at h
    · cases h
    · obtain ⟨b, hb, hrouter⟩ := exists_of_bind_ok h
      cases hrouter
      obtain ⟨hname, hcapabilities⟩ := MockBackend.make_eq_ok hb
      exact .mock b rfl hname hcapabilities
  · obtain ⟨apiConfigPath, -, h⟩ := exists_of_bind_ok h
    obtain ⟨host, -, h⟩ := exists_of_bind_ok h
    obtain ⟨clientId, -, h⟩ := exists_of_bind_ok h
    obtain ⟨-, -, h⟩ := exists_of_bind_ok h
    obtain ⟨b, hb, hrouter⟩ := exists_of_bind_ok h
    cases hrouter
    exact .velociraptor b host clientId rfl (VelociraptorBackend.make_eq_ok hb)

theorem started_of_start (h : start client environ = .ok router) : router.Started := by
  obtain ⟨router', hrouter, h⟩ := exists_of_bind_ok h
  obtain ⟨url, -, h⟩ := exists_of_bind_ok h
  cases h
  exact started_of_makeBackendRouter hrouter

theorem ConfiguredRouter.Started.exists_sole (h : router.Started) : ∃ b, router.Sole b := by
  cases h with
  | mock b hbackends hname hcapabilities => exact ⟨_, hbackends, hcapabilities⟩
  | velociraptor b host clientId hbackends hhosts => exact ⟨_, hbackends, rfl⟩

variable {b : ConfiguredBackend}

theorem ConfiguredRouter.Sole.eq_of_mem (h : router.Sole b) {b' : ConfiguredBackend}
    (hmem : b' ∈ router.backends) : b' = b := by
  rwa [h.backends, List.mem_singleton] at hmem

/-- A request for the process list is routed to the one backend there is. -/
theorem ConfiguredRouter.Sole.select (h : router.Sole b) {request : InvestigationRequest}
    (hrequired : request.requiredCapabilities = ["process.list"]) :
    router.toRouter.select request = .ok b.toBackend := by
  simp [BackendRouter.select, ConfiguredRouter.toRouter, h.backends, hrequired, h.capabilities]

/-- A name resolves to that backend, or to none. -/
theorem ConfiguredRouter.Sole.backendForName (h : router.Sole b) (name : String) :
    router.orchestrator.backendForName name =
      if b.toBackend.name = name then some b.toBackend else none := by
  unfold AlertOrchestrator.backendForName BackendRouter.get
  by_cases hname : b.toBackend.name = name
  · simp [ConfiguredRouter.orchestrator, ConfiguredRouter.toRouter, h.backends, hname]
  · simp [ConfiguredRouter.orchestrator, ConfiguredRouter.toRouter, h.backends, hname]

end Configured

/-- What the factory makes of an incident. -/
def inventoryRequest (incident : Incident) : InvestigationRequest :=
  ⟨incident, "collect process inventory", ["process.list"], incident.alert.entities, rfl⟩

/-- The factory makes a request of every incident. -/
@[simp]
theorem makeProcessInventoryRequest_eq (incident : Incident) :
    makeProcessInventoryRequest incident = .ok (inventoryRequest incident) :=
  InvestigationRequest.make_self (inventoryRequest incident)

@[simp]
theorem inventoryRequest_utc (incident : Incident) :
    (inventoryRequest incident).utc = inventoryRequest incident.utc := rfl

end Main

end Alert2IR
