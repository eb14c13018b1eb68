import Alert2IR.Guarantees.Service
import Alert2IR.Guarantees.Velociraptor

/-!
# The two deployments

With the mock backend every investigation that is submitted has an operation of its own and ends
with the one piece of evidence there is. With Velociraptor only alerts about the one configured host
are ever submitted, and nothing but a verified flow of that host is recorded.
-/

namespace Alert2IR

open Interleaving

section Answers

variable {α : Type} {r : Except PyError α}

theorem eq_ok_of_map_some {x : α} (h : r.map some = .ok (some x)) : r = .ok x := by
  cases r with
  | error e => cases h
  | ok y =>
      cases h
      rfl

theorem eq_error_of_map_some {e : PyError} (h : r.map some = .error e) : r = .error e := by
  cases r with
  | error e' =>
      cases h
      rfl
  | ok y => cases h

end Answers

namespace MockBackend

variable {b : MockBackend} {request : InvestigationRequest} {x : String}

theorem submit_eq_ok {key : UUID} {operation : SubmittedOperation}
    (h : b.submit request key = .ok operation) :
    operation.externalOperationId = "mock:" ++ uuidText key := by
  obtain ⟨-, -, hmake⟩ := exists_of_bind_ok h
  exact (VelociraptorBackend.length_of_make hmake).1

/-- A submission is not rejected: an unsupported request and an ID out of bounds are other errors.
-/
theorem submit_ne_rejected {key : UUID} :
    b.submit request key ≠ .error .backendSubmissionRejected := by
  intro h
  unfold submit requireSupported at h
  split at h
  · have hmake : SubmittedOperation.make ("mock:" ++ uuidText key) =
        .error .backendSubmissionRejected := h
    unfold SubmittedOperation.make at hmake
    split at hmake
    · cases hmake
    · next he =>
      cases hmake
      exact VelociraptorBackend.checks_ne _ he
  · cases h

theorem poll_eq_ok {status : OperationStatus} (h : b.poll request x = .ok status) :
    status.state = some .succeeded := by
  obtain ⟨-, -, h⟩ := exists_of_bind_ok h
  obtain ⟨-, -, hmake⟩ := exists_of_bind_ok h
  exact (Velociraptor.make_eq_ok_iff hmake).1

/-- The evidence of the process list. -/
def inventoryEvidence : EvidenceReference :=
  ⟨"mock:process.list", some "mock-result", by decide +kernel⟩

theorem collectResult_eq_ok {found : InvestigationResult}
    (hrequired : request.requiredCapabilities = ["process.list"])
    (h : b.collectResult request x = .ok found) :
    found.backend = b.name ∧ found.completedCapabilities = ["process.list"] ∧
      found.evidence = [inventoryEvidence] := by
  obtain ⟨-, -, h⟩ := exists_of_bind_ok h
  obtain ⟨-, -, h⟩ := exists_of_bind_ok h
  obtain ⟨evidence, hevidence, hmake⟩ := exists_of_bind_ok h
  have hevidenceOf : evidenceOf "process.list" = .ok inventoryEvidence := rfl
  rw [hrequired] at hevidence hmake
  rw [List.mapM_cons, hevidenceOf, List.mapM_nil] at hevidence
  cases hevidence
  unfold InvestigationResult.make at hmake
  split at hmake
  · cases hmake
    exact ⟨rfl, rfl, rfl⟩
  · cases hmake

end MockBackend

namespace VelociraptorBackend

open Velociraptor Interleaving.Proc

variable {backend : VelociraptorBackend} {request : InvestigationRequest} {host clientId : String}
  {lib : Library}

/-- The client of the one host is found for requests about that host alone. -/
theorem resolveClientId_eq_ok (hhosts : backend.hostClientIds = [(host, clientId)])
    {clientId' : String} (h : backend.resolveClientId request = .ok clientId') :
    clientId' = clientId ∧
      ∃ target, request.targets = [target] ∧ target.kind = "host" ∧ target.value = host := by
  unfold resolveClientId at h
  split at h
  · cases h
  split at h
  · next target htargets =>
    split at h
    · cases h
    · next hkind =>
      rw [hhosts, List.lookup_cons] at h
      by_cases hvalue : target.value = host
      · simp only [hvalue, beq_self_eq_true] at h
        cases h
        exact ⟨rfl, target, htargets, not_not.mp hkind, hvalue⟩
      · simp only [beq_eq_false_iff_ne.mpr hvalue] at h
        cases h
  · cases h

/-- A request that is not about the host is rejected. -/
theorem resolveClientId_eq_error (hhosts : backend.hostClientIds = [(host, clientId)])
    (hrequired : request.requiredCapabilities = [processListCapability])
    (hother : ¬ ∃ target, request.targets = [target] ∧ target.kind = "host" ∧
      target.value = host) :
    backend.resolveClientId request = .error .backendSubmissionRejected := by
  unfold resolveClientId
  rw [if_neg (by simp [hrequired])]
  split
  · next target htargets =>
    split
    · rfl
    · next hkind =>
      have hvalue : target.value ≠ host := fun hvalue =>
        hother ⟨target, htargets, not_not.mp hkind, hvalue⟩
      rw [hhosts, List.lookup_cons, beq_eq_false_iff_ne.mpr hvalue]
      rfl
  · rfl

/-- The operation is a flow that the one query of a submission was answered with, in one row that
names it, the client and the artifact. -/
def Scheduled (backend : VelociraptorBackend) (lib : Library) (clientId : String)
    (request : InvestigationRequest) (x : String) : Prop :=
  ∃ timeout h operation vql stream row, Returns (backend.submit lib request timeout) h
    (.ok operation) ∧
    operation.externalOperationId = x ∧ queried h = [(vql, stream)] ∧
    rowsOf lib stream = .ok [row] ∧ Names "flow_id" x clientId processListArtifact row

/-- A submission that returns has scheduled a flow of the client of the host. -/
theorem scheduled_of_returns (hhosts : backend.hostClientIds = [(host, clientId)])
    {timeout : Option PyNumber} {h : List Velociraptor.Observation}
    {operation : SubmittedOperation}
    (hreturns : Returns (backend.submit lib request timeout) h (.ok operation)) :
    backend.Scheduled lib clientId request operation.externalOperationId ∧
      operation.externalOperationId.startsWith "F." = true ∧
      operation.externalOperationId.length ≤ 512 ∧
      ∃ target, request.targets = [target] ∧ target.kind = "host" ∧ target.value = host := by
  rcases returns_submit hreturns with ⟨-, error, herror⟩ |
    ⟨clientId', seconds, stream, hresolve, -, hone, -, hok⟩
  · cases herror
  obtain ⟨rows, hrows, hflow, hlength⟩ := hok operation rfl
  obtain ⟨row, rfl, hnames, -, hprefix⟩ := scheduledFlow_eq_some_iff.mp hflow
  obtain ⟨rfl, habout⟩ := resolveClientId_eq_ok hhosts hresolve
  exact ⟨⟨timeout, h, operation, _, stream, row, hreturns, rfl, hone, hrows, hnames⟩, hprefix,
    hlength, habout⟩

theorem collectResult_eq_ok {x : String} {found : InvestigationResult}
    (h : backend.collectResult request x = .ok found) :
    found.backend = "velociraptor" ∧ found.completedCapabilities = request.requiredCapabilities ∧
      found.evidence = [] := by
  obtain ⟨-, -, h⟩ := exists_of_bind_ok h
  split at h
  · cases h
  unfold InvestigationResult.make at h
  split at h
  · cases h
    exact ⟨rfl, rfl, rfl⟩
  · cases h

end VelociraptorBackend

namespace Main

open BaselineSeverityPolicy

section Runs

variable {σ : Type} {M : Repository σ} {fp : CanonicalAlert → Except PyError (Int × List UInt8)}
  {lib : Velociraptor.Library} {router : ConfiguredRouter} {b : ConfiguredBackend}
  {cfg : Interleaving.Config (World σ) Job Call Call.Response (Except PyError Outcome)}
  {k : UUID} {e : Entry} {a : AttemptFields} {client : String → Except PyError Unit}
  {environ : Environ}

/-- An attempt is made for an alert that is investigated. -/
theorem Handled.exists_request (h : Handled b e) (hcoherent : e.Coherent)
    (ha : e.attempt = some a) : ∃ incident, investigates e.processing.alert ∧
      incident.alert = e.processing.alert ∧
      e.processing.investigationRequest = some (inventoryRequest incident) := by
  cases h with
  | accepted hstate => cases ha.symm.trans (hcoherent.phase.of_accepted hstate).2
  | quiet _ _ _ hnone => cases ha.symm.trans hnone
  | investigated incident _ hurgent halert _ _ hexecutes =>
      exact ⟨incident, hurgent, halert, hexecutes.request⟩

/-- A processing without an attempt has collected nothing. -/
theorem Handled.uncollected (h : Handled b e) (hcoherent : e.Coherent) (hnone : e.attempt = none)
    {result : OrchestrationResult} (hresult : e.processing.completedResult = some result) :
    e.processing.state = .completed ∧ result.investigationResult = none := by
  cases h with
  | accepted hstate =>
      cases hresult.symm.trans (hcoherent.phase.of_accepted hstate).1.result
  | quiet result' hquiet hstate _ hresult' hdecision =>
      obtain rfl := Option.some.inj (hresult.symm.trans hresult')
      refine ⟨hstate, (result.of_noAction ?_).2.2⟩
      cases houtcome : result.decision.outcome with
      | noAction => rfl
      | investigate =>
          rw [hdecision] at houtcome
          exact absurd (outcome_eq_investigate_iff.mp houtcome) hquiet
  | investigated _ _ _ _ _ ha => cases ha.symm.trans hnone

theorem coherent_of_reachable (L : LawfulRepository M)
    (hreach : (service M fp lib router).Reachable cfg) : (L.store cfg.state).Coherent :=
  (sound_of_reachable L hreach).coherent

/-- What is completed with a result has collected it. -/
theorem collected_of_completed (L : LawfulRepository M) (hsole : router.Sole b)
    (hreach : (service M fp lib router).Reachable cfg) (he : L.store cfg.state k = some e)
    {result : OrchestrationResult} {found : InvestigationResult}
    (hresult : e.processing.completedResult = some result)
    (hfound : result.investigationResult = some found) :
    ∃ incident x, e.processing.investigationRequest = some (inventoryRequest incident) ∧
      b.Collects (inventoryRequest incident) x (.ok (some found)) := by
  have hcoherent := (coherent_of_reachable L hreach).entry k e he
  have hhandled := handled_of_reachable L hsole hreach he
  cases ha : e.attempt with
  | none => cases (hhandled.uncollected hcoherent ha hresult).2.symm.trans hfound
  | some a =>
      obtain ⟨incident, -, -, hq⟩ := hhandled.exists_request hcoherent ha
      obtain ⟨q, name, hexecutes, -⟩ := hcoherent.executing ha
      have hstate : e.processing.state = .completed := by
        have hisSome := hexecutes.result
        rw [hresult] at hisSome
        simpa using hisSome.symm
      obtain ⟨x, _, _, result', found', -, -, -, hcollects, hresult', hfound'⟩ :=
        (performed_of_reachable L hsole hreach he hq ha).completed hstate
      obtain rfl := Option.some.inj (hresult.symm.trans hresult')
      obtain rfl := Option.some.inj (hfound.symm.trans hfound')
      exact ⟨incident, x, hq, hcollects⟩

section Mock

variable {mock : MockBackend}

/-- An operation of the mock backend is named by the key of its attempt. -/
theorem mock_identified (L : LawfulRepository M) (hsole : router.Sole (.mock mock))
    (hreach : (service M fp lib router).Reachable cfg) (he : L.store cfg.state k = some e)
    (ha : e.attempt = some a) {x : String} (hx : a.externalOperationId = some x) :
    x = "mock:" ++ uuidText a.operationKey := by
  obtain ⟨incident, -, -, hq⟩ := (handled_of_reachable L hsole hreach he).exists_request
    ((coherent_of_reachable L hreach).entry k e he) ha
  obtain ⟨timeout, operation, hsubmits, rfl⟩ :=
    (performed_of_reachable L hsole hreach he hq ha).submitted x hx
  exact MockBackend.submit_eq_ok (eq_ok_of_map_some hsubmits.symm)

/-- The mock backend neither rejects a submission nor polls a failure. -/
theorem mock_not_failed (L : LawfulRepository M) (hsole : router.Sole (.mock mock))
    (hreach : (service M fp lib router).Reachable cfg) (he : L.store cfg.state k = some e) :
    e.processing.state ≠ .failed := by
  intro hstate
  have hhandled := handled_of_reachable L hsole hreach he
  cases ha : e.attempt with
  | none =>
      cases hhandled with
      | accepted haccepted => cases hstate.symm.trans haccepted
      | quiet _ _ hcompleted => cases hstate.symm.trans hcompleted
      | investigated _ _ _ _ _ ha' => cases ha.symm.trans ha'
  | some a =>
      obtain ⟨incident, -, -, hq⟩ :=
        hhandled.exists_request ((coherent_of_reachable L hreach).entry k e he) ha
      rcases (performed_of_reachable L hsole hreach he hq ha).failed hstate with
        ⟨timeout, hsubmits⟩ | ⟨x, timeout, status, -, hpolls, hfailed⟩
      · exact MockBackend.submit_ne_rejected (eq_error_of_map_some hsubmits.symm)
      · have hsucceeded := MockBackend.poll_eq_ok (eq_ok_of_map_some hpolls.symm)
        cases hfailed.symm.trans hsucceeded

end Mock

/-- **The mock deployment.** Over any lawful repository and in every run of any jobs: no processing
fails, a recorded operation is named by the key of its attempt and is that of no other processing,
and what is collected is the evidence of the process list. -/
theorem mock_deployment (L : LawfulRepository M) {mock : MockBackend}
    (hstart : start client environ = .ok router) (hmock : router.backends = [.mock mock])
    (hreach : (service M fp lib router).Reachable cfg) :
    ∀ k e, L.store cfg.state k = some e → e.processing.state ≠ .failed ∧
      (∀ a x, e.attempt = some a → a.externalOperationId = some x →
        x = "mock:" ++ uuidText a.operationKey ∧
        ∀ k' e' a', L.store cfg.state k' = some e' → e'.attempt = some a' →
          a'.externalOperationId = some x → k' = k) ∧
      ∀ result found, e.processing.completedResult = some result →
        result.investigationResult = some found → found.backend = "mock" ∧
          found.completedCapabilities = ["process.list"] ∧
          found.evidence = [MockBackend.inventoryEvidence] := by
  have hsole : router.Sole (.mock mock) ∧ mock.name = "mock" := by
    cases started_of_start hstart with
    | mock b hbackends hname hcapabilities =>
        obtain rfl : b = mock := by
          cases hbackends.symm.trans hmock
          rfl
        exact ⟨⟨hbackends, hcapabilities⟩, hname⟩
    | velociraptor b host clientId hbackends => cases hbackends.symm.trans hmock
  obtain ⟨hsole, hname⟩ := hsole
  obtain ⟨is, htrace⟩ := trace_of_reachable hreach
  refine fun k e he => ⟨mock_not_failed L hsole hreach he, fun a x ha hx =>
    ⟨mock_identified L hsole hreach he ha hx, fun k' e' a' he' ha' hx' => ?_⟩,
    fun result found hresult hfound => ?_⟩
  · refine LawfulRepository.operationKey_unique L htrace he' ha' he ha ?_
    have hsame := (mock_identified L hsole hreach he' ha' hx').symm.trans
      (mock_identified L hsole hreach he ha hx)
    exact uuidText_injective (String.append_right_inj _ |>.mp hsame)
  · obtain ⟨incident, x, -, hcollects⟩ :=
      collected_of_completed L hsole hreach he hresult hfound
    rw [← hname]
    exact MockBackend.collectResult_eq_ok rfl (eq_ok_of_map_some hcollects.symm)

theorem requireExactNonemptySetting_eq_ok {name value : String}
    (h : requireExactNonemptySetting environ name = .ok value) : environ name = some value := by
  unfold requireExactNonemptySetting at h
  dsimp only at h
  split at h
  · cases h
  · next found hfound =>
    split at h
    · cases h
    · cases h
      exact hfound

/-- The one host and its client are those of the environment. -/
theorem velociraptor_of_start (h : start client environ = .ok router)
    (hselected : environ backendSetting = some "velociraptor") :
    ∃ backend host clientId, router.backends = [.velociraptor backend] ∧
      backend.hostClientIds = [(host, clientId)] ∧ environ velociraptorHostSetting = some host ∧
      environ velociraptorClientIdSetting = some clientId := by
  obtain ⟨router', hrouter, h⟩ := exists_of_bind_ok h
  obtain ⟨url, -, h⟩ := exists_of_bind_ok h
  cases h
  unfold makeBackendRouter at hrouter
  rw [hselected] at hrouter
  obtain ⟨apiConfigPath, -, hrouter⟩ := exists_of_bind_ok hrouter
  obtain ⟨host, hhost, hrouter⟩ := exists_of_bind_ok hrouter
  obtain ⟨clientId, hclientId, hrouter⟩ := exists_of_bind_ok hrouter
  obtain ⟨-, -, hrouter⟩ := exists_of_bind_ok hrouter
  obtain ⟨backend, hbackend, hrouter⟩ := exists_of_bind_ok hrouter
  cases hrouter
  exact ⟨backend, host, clientId, rfl, VelociraptorBackend.make_eq_ok hbackend,
    requireExactNonemptySetting_eq_ok hhost, requireExactNonemptySetting_eq_ok hclientId⟩

/-- An alert about the host and nothing else. -/
def AboutHost (host : String) (alert : CanonicalAlert) : Prop :=
  ∃ target, alert.entities = [target] ∧ target.kind = "host" ∧ target.value = host

/-- An operation of Velociraptor is a flow of the one client, and its alert is about the host. -/
theorem velociraptor_identified (L : LawfulRepository M) {backend : VelociraptorBackend}
    {host clientId : String} (hsole : router.Sole (.velociraptor backend))
    (hhosts : backend.hostClientIds = [(host, clientId)])
    (hreach : (service M fp lib router).Reachable cfg) (he : L.store cfg.state k = some e)
    (ha : e.attempt = some a) {x : String} (hx : a.externalOperationId = some x) :
    AboutHost host e.processing.alert ∧ x.startsWith "F." = true ∧ x.length ≤ 512 ∧
      ∃ request, e.processing.investigationRequest = some request ∧
        backend.Scheduled lib clientId request x := by
  obtain ⟨incident, -, halert, hq⟩ := (handled_of_reachable L hsole hreach he).exists_request
    ((coherent_of_reachable L hreach).entry k e he) ha
  obtain ⟨timeout, operation, ⟨h, r, hreturns, hanswer⟩, rfl⟩ :=
    (performed_of_reachable L hsole hreach he hq ha).submitted x hx
  obtain rfl := eq_ok_of_map_some hanswer.symm
  obtain ⟨hscheduled, hprefix, hlength, habout⟩ :=
    VelociraptorBackend.scheduled_of_returns hhosts hreturns
  rw [← halert]
  exact ⟨habout, hprefix, hlength, _, hq, hscheduled⟩

/-- **The Velociraptor deployment.** There is one host and one client, and over any lawful
repository and in every run of any jobs: an operation is recorded only for an alert about that host,
and is a flow of the client that a submission of its request scheduled; a submission for any other
alert is rejected, and its processing never completes; and what is collected has no evidence. -/
theorem velociraptor_deployment (L : LawfulRepository M)
    (hstart : start client environ = .ok router)
    (hselected : environ backendSetting = some "velociraptor")
    (hreach : (service M fp lib router).Reachable cfg) :
    ∃ backend host clientId, router.backends = [.velociraptor backend] ∧
      environ velociraptorHostSetting = some host ∧
      environ velociraptorClientIdSetting = some clientId ∧
      ∀ k e a, L.store cfg.state k = some e → e.attempt = some a →
        (∀ x, a.externalOperationId = some x → AboutHost host e.processing.alert ∧
          x.startsWith "F." = true ∧ x.length ≤ 512 ∧ ∃ request,
            e.processing.investigationRequest = some request ∧
              backend.Scheduled lib clientId request x) ∧
        (¬ AboutHost host e.processing.alert → e.processing.state ≠ .completed ∧
          ∀ r, Submitted cfg.history k r → r = .error .backendSubmissionRejected) ∧
        ∀ result found, e.processing.completedResult = some result →
          result.investigationResult = some found → found.backend = "velociraptor" ∧
            found.completedCapabilities = ["process.list"] ∧ found.evidence = [] := by
  obtain ⟨backend, host, clientId, hbackends, hhosts, hhost, hclientId⟩ :=
    velociraptor_of_start hstart hselected
  refine ⟨backend, host, clientId, hbackends, hhost, hclientId, fun k e a he ha => ?_⟩
  have hsole : router.Sole (.velociraptor backend) := ⟨hbackends, rfl⟩
  obtain ⟨incident, -, halert, hq⟩ := (handled_of_reachable L hsole hreach he).exists_request
    ((coherent_of_reachable L hreach).entry k e he) ha
  have hidentified : ∀ {x}, a.externalOperationId = some x → _ := fun hx =>
    velociraptor_identified L hsole hhosts hreach he ha hx
  refine ⟨fun x => hidentified, fun hother => ⟨fun hstate => ?_, fun r hsubmitted => ?_⟩,
    fun result found hresult hfound => ?_⟩
  · obtain ⟨x, _, _, _, _, hx, -⟩ :=
      (performed_of_reachable L hsole hreach he hq ha).completed hstate
    exact hother (hidentified hx).1
  · obtain ⟨timeout, h, x, hreturns, rfl⟩ := submits_of_submitted L hsole hreach he hq ha hsubmitted
    have hresolve : backend.resolveClientId (inventoryRequest incident) =
        .error .backendSubmissionRejected :=
      VelociraptorBackend.resolveClientId_eq_error hhosts rfl
        (by rwa [AboutHost, ← halert] at hother)
    rcases Velociraptor.returns_evaluate_bind_iff.mp hreturns with ⟨e', he', -, rfl⟩ |
      ⟨clientId', hclient, -⟩
    · cases hresolve.symm.trans he'
      rfl
    · cases hresolve.symm.trans hclient
  · obtain ⟨incident', x, -, hcollects⟩ :=
      collected_of_completed L hsole hreach he hresult hfound
    exact VelociraptorBackend.collectResult_eq_ok (eq_ok_of_map_some hcollects.symm)

end Runs

end Main

namespace Scenario

open Main

theorem mock_deployment_handled : ∃ e, Postgres.view handled.state.store 0 = some e ∧
    e.processing.state ≠ .failed := by
  obtain ⟨e, he, -⟩ := exists_handled
  exact ⟨e, he, (mock_deployment (Postgres.lawfulRepository dialect) start_mock rfl
    handled_reachable 0 e he).1⟩

/-- One host is configured. -/
def hostEnviron : Environ := fun name =>
  (([(databaseUrlSetting, "postgresql://alert2ir"), (backendSetting, "velociraptor"),
    (velociraptorApiConfigPathSetting, "api.yaml"), (velociraptorHostSetting, "ws-01"),
    (velociraptorClientIdSetting, "C.1")] : List (String × String))).lookup name

def workstation : VelociraptorBackend := ⟨[("ws-01", "C.1")], 60, by decide +kernel⟩

def hostRouter : ConfiguredRouter := ⟨[.velociraptor workstation]⟩

theorem start_host : start (fun _ => .ok ()) hostEnviron = .ok hostRouter := rfl

/-- The service with the backend for Velociraptor, over PostgreSQL. -/
abbrev hostService := service (Postgres.repository dialect) fingerprint library hostRouter

/-- Nothing is sent for a request that is not about the host. -/
def hostEnvironment (now : Int) : Environment hostService where
  answer w
    | .decide alert => some (BaselineSeverityPolicy.decide alert, w)
    | .requestFactory incident => some (makeProcessInventoryRequest incident, w)
    | .submit _ backend request _ _ =>
        if backend = VelociraptorBackend.toBackend then
          match workstation.resolveClientId request with
          | .error e => some (.error e, w)
          | .ok _ => none
        else none
    | .poll .. => none
    | .collectResult .. => none
    | c => (Postgres.environment fingerprint answers dialect now).answer w c
  sound := by
    intro w c r w' h
    cases c with
    | decide alert =>
        cases h
        exact ⟨rfl, rfl⟩
    | requestFactory incident =>
        cases h
        exact ⟨rfl, rfl⟩
    | submit _ backend request operationKey timeout =>
        obtain ⟨hbackend, h⟩ := Option.ite_none_right_eq_some.mp h
        cases hresolve : workstation.resolveClientId request with
        | ok clientId => simp [hresolve] at h
        | error e =>
            simp only [hresolve, Option.some.injEq] at h
            cases h
            refine ⟨rfl, .velociraptor workstation, .head _, hbackend.symm, [], .error e, ?_, rfl⟩
            exact Velociraptor.returns_evaluate_bind_iff.mpr (.inl ⟨e, hresolve, rfl, rfl⟩)
    | poll => cases h
    | collectResult => cases h
    | _ => exact ⟨(Postgres.environment fingerprint answers dialect now).sound h, trivial⟩

/-- An alert that is about no host arrives. -/
def astray : Interleaving.Config (World Db) Job Call Call.Response (Except PyError Outcome) :=
  hostService.replay [.spawn (.process alert "key"), .run 0 30 (hostEnvironment 1)]

theorem astray_reachable : hostService.Reachable astray := System.reachable_replay _

theorem velociraptor_deployment_astray : ∃ e a, Postgres.view astray.state.store 0 = some e ∧
    e.attempt = some a ∧ a.externalOperationId = none ∧ e.processing.state = .failed ∧
    ∀ r, Submitted astray.history 0 r → r = .error .backendSubmissionRejected := by
  have hrun : (Postgres.view astray.state.store 0).any (fun e => e.attempt.isSome &&
      e.processing.state = .failed && e.processing.alert.entities.isEmpty) = true := by
    decide +kernel
  obtain ⟨e, he, hrun⟩ := (Option.any_eq_true ..).mp hrun
  simp only [Bool.and_eq_true, decide_eq_true_eq, List.isEmpty_iff] at hrun
  obtain ⟨⟨hattempt, hstate⟩, hentities⟩ := hrun
  obtain ⟨a, ha⟩ := Option.isSome_iff_exists.mp hattempt
  obtain ⟨backend, host, clientId, -, -, -, hentries⟩ := velociraptor_deployment
    (Postgres.lawfulRepository dialect) start_host rfl astray_reachable
  obtain ⟨hidentified, hrejected, -⟩ := hentries 0 e a he ha
  have hother : ¬ AboutHost host e.processing.alert := by
    rintro ⟨target, htarget, -⟩
    rw [hentities] at htarget
    cases htarget
  refine ⟨e, a, he, ha, ?_, hstate, (hrejected hother).2⟩
  cases hx : a.externalOperationId with
  | none => rfl
  | some x => exact absurd (hidentified x hx).1 hother

end Scenario

end Alert2IR
