import Alert2IR.Api.App
import Alert2IR.Application.Availability
import Alert2IR.Application.Fingerprinting
import Alert2IR.Guarantees.Acceptance
import Alert2IR.Persistence.PostgresLaw
import Alert2IR.Persistence.Scenario
import Alert2IR.Splunk.Client

/-!
# What `acceptance_unknown = false` is worth

The gateway takes a 503 for a request that was not accepted. Core also answers 503 when it has
accepted a request and cannot go on with it.
-/

namespace Alert2IR

open Interleaving Splunk

/-- What became of one POST: the thread of core that handled it, if any, and what the client saw. -/
inductive Exchange {σ : Type} (dump : ProcessingRecord → List UInt8) (cfg : Configuration σ)
    (alert : CanonicalAlert) (key : String) : Option Nat → Except RequestError Response → Prop
  | undelivered (e : RequestError) : Exchange dump cfg alert key none (.error e)
  | declined (response : Response) : Exchange dump cfg alert key none (.ok response)
  | unanswered {t : Nat} {o : AlertOrchestrator}
      {program : Prog Call Call.Response (Except PyError Outcome)} {e : RequestError}
      (hthread : cfg.threads[t]? = some ⟨.process o alert key, program⟩)
      (he : e ≠ .connectError) : Exchange dump cfg alert key (some t) (.error e)
  | answered {t : Nat} {o : AlertOrchestrator} {r : Except PyError ProcessingOutcome}
      (hthread : cfg.threads[t]? = some ⟨.process o alert key, .pure (Outcome.processed <$> r)⟩) :
      Exchange dump cfg alert key (some t) (.ok (Api.processAlert dump r))

/-- The thread has brought a processing into being. -/
def Committed {σ : Type} {M : Repository σ} (L : LawfulRepository M) (cfg : Configuration σ)
    (t : Nat) : Prop :=
  ∃ event ∈ cfg.history, event.thread = t ∧
    ∃ k, L.store event.before k = none ∧ (L.store event.after k).isSome = true

/-- How a repository fails the calls that follow an acceptance: one raises that stands in a handler
which replaces its exception, or raises the replacement itself, or the record is not found again. -/
inductive FailsLater (h : List Observation) : Prop
  | raises {c : RepositoryCall} {e : PyError} (hmem : Observation.repository c (.error e) ∈ h)
      (hfails : c.guarded = true ∨ e.isUnavailable = true)
  | missing {k : UUID} (hmem : Observation.repository (.get k) (.ok none) ∈ h)

/-- How a repository fails a request of thread `t` that it has accepted: `accept_processing` raises
once it has stored the processing, or it answers that it has created one and a later call of the
thread fails. -/
inductive FailsAccepted {σ : Type} {M : Repository σ} (L : LawfulRepository M)
    (cfg : Configuration σ) (t : Nat) : Prop
  | acceptance {event : Event σ} {k : UUID} {alert : CanonicalAlert} {scope key : String}
      {version : Int} {digest : List UInt8} {e : PyError} (hmem : event ∈ cfg.history)
      (hthread : event.thread = t) (hraises : event.observed = Observation.repository
        (.acceptProcessing k alert scope key version digest) (.error e))
      (hstored : L.store event.after ≠ L.store event.before)
  | later {h h' : List Observation} {k : UUID} {alert : CanonicalAlert} {scope key : String}
      {version : Int} {digest : List UInt8} {acceptance : ProcessingAcceptance}
      (hown : own t cfg.history = h ++ Observation.repository
        (.acceptProcessing k alert scope key version digest) (.ok acceptance) :: h')
      (hcreated : acceptance.created = true) (hfails : FailsLater h')

namespace Api

theorem statusCode_processAlert {dump : ProcessingRecord → List UInt8}
    (r : Except PyError ProcessingOutcome) :
    (processAlert dump r).statusCode = 503 ↔ endsUnavailable r = true := by
  rcases r with e | outcome
  · cases e <;> simp [processAlert, errorResponse, endsUnavailable, PyError.isUnavailable]
  · simp [processAlert, endsUnavailable, statusCode_public_ne]

end Api

namespace Splunk

variable {unicode : Unicode} {json : Json.Decoder} {result : Alert2IRDeliveryResult}

theorem ResponseFields.classify_known (fields : ResponseFields) (status : Nat) :
    ((fields.classify status).classification = .transientFailure ∧
      (fields.classify status).acceptanceUnknown = false) ↔ status = 503 := by
  unfold classify
  by_cases hstatus : status = 503
  · simp [hstatus, result]
  · simp only [hstatus, iff_false, not_and, reduceIte]
    repeat' split
    all_goals simp [result]

theorem classifyResponse_known {response : Response}
    (h : classifyResponse unicode json response = .ok result) :
    (result.classification = .transientFailure ∧ result.acceptanceUnknown = false) ↔
      response.statusCode = 503 := by
  unfold classifyResponse at h
  cases hfields : responseFields unicode json response with
  | error e => simp [hfields, bind, Except.bind] at h
  | ok fields =>
    simp only [hfields, bind, Except.bind] at h
    rw [Alert2IRDeliveryResult.make_eq_ok_iff.mp h]
    exact fields.classify_known response.statusCode

/-- The client takes a 503 of core for a request that was not accepted. -/
theorem submitAlert_unavailable (unicode : Unicode) (json : Json.Decoder) {alert : CanonicalAlert}
    {key message : String} (hkey : visibleKey key = true) (dump : ProcessingRecord → List UInt8) :
    ∃ result, submitAlert unicode json
        (fun _ _ => .ok (Api.processAlert dump
          (.error (.persistenceUnavailable message)))) alert key
        = .ok result ∧
      result.classification = .transientFailure ∧ result.acceptanceUnknown = false := by
  have hbody : boundedJsonObject json
      (Api.processAlert dump (.error (.persistenceUnavailable message))) =
      [("code", .str "persistence_failed"),
        ("message", .str "durable processing is temporarily unavailable")] :=
    boundedJsonObject_of_bytes rfl (by decide +kernel) (by decide +kernel) (by decide)
  have hfields : responseFields unicode json
      (Api.processAlert dump (.error (.persistenceUnavailable message))) =
      .ok ⟨503, none, none, none, false, none, some "persistence_failed"⟩ := by
    rw [responseFields, hbody]
    rfl
  let fields : DeliveryFields := {
    classification := .transientFailure
    upstreamStatus := some 503
    errorCode := some "persistence_failed"
    retryable := true
    acceptanceUnknown := false }
  have hvalid : fields.postInit = .ok () := by decide +kernel
  refine ⟨⟨fields, hvalid⟩, ?_, rfl, rfl⟩
  rw [submitAlert, hkey, if_neg (by simp)]
  show classifyResponse unicode json _ = _
  rw [classifyResponse, hfields]
  exact Alert2IRDeliveryResult.make_of_valid hvalid

end Splunk

theorem endsUnavailable_fingerprint (sha256 : List UInt8 → List UInt8) (alert : CanonicalAlert) :
    endsUnavailable (fingerprintCanonicalAlert sha256 alert) = false := by
  unfold fingerprintCanonicalAlert
  by_cases hrange : Calendar.InRange alert.detectedAt.instant
  · rw [canonicalFingerprintBytes_of_inRange hrange]
    rfl
  · rw [canonicalFingerprintBytes_of_not_inRange hrange]
    rfl

section Runs

variable {σ : Type} {M : Repository σ} {sha256 : List UInt8 → List UInt8} {cfg : Configuration σ}

/-- A thread has ended with `PersistenceUnavailableError` exactly if the repository failed it so. -/
theorem endsUnavailable_iff (hreach : (M.system (fingerprintCanonicalAlert sha256)).Reachable cfg)
    {t : Nat} {o : AlertOrchestrator} {alert : CanonicalAlert} {key : String}
    {r : Except PyError ProcessingOutcome}
    (hthread : cfg.threads[t]? = some ⟨.process o alert key, .pure (Outcome.processed <$> r)⟩) :
    endsUnavailable r = unavailable (own t cfg.history) := by
  have hreturns : Prog.Returns _ _ _ := hreach.leads hthread
  have hsettles : Settles [] (do
      return Outcome.processed
        (← PersistentAlertProcessor.process o (fingerprintCanonicalAlert sha256) alert key)) :=
    (PersistentAlertProcessor.process_settles (endsUnavailable_fingerprint sha256 alert)).bind
      fun outcome _ hsteady => settles_pure hsteady _
  have hend := (hreturns.of_wp hsettles).1
  rw [List.nil_append] at hend
  rw [← hend]
  cases r <;> rfl

theorem failsLater_iff {h : List Observation} : FailsLater h ↔ unavailable h = true := by
  rw [unavailable, List.any_eq_true]
  constructor
  · rintro (⟨hmem, hfails⟩ | hmem)
    · exact ⟨_, hmem, (Bool.or_eq_true ..).mpr hfails⟩
    · exact ⟨_, hmem, rfl⟩
  · rintro ⟨⟨c, r⟩, hmem, hfails⟩
    cases c with
    | repository c =>
      rcases r with e | x
      · exact .raises hmem ((Bool.or_eq_true ..).mp hfails)
      · cases c with
        | get k =>
          cases x with
          | none => exact .missing hmem
          | some record => cases hfails
        | _ => cases hfails
    | _ => cases hfails

/-- What acts on nothing leaves durable processing available. -/
theorem unavailable_of_acts_nil {h : List Observation} (hacts : acts h = []) :
    unavailable h = false := by
  rw [unavailable, List.any_eq_false]
  intro o hmem
  have hidle := List.filter_eq_nil_iff.mp hacts o hmem
  obtain ⟨c, r⟩ := o
  rw [Bool.not_eq_true]
  refine Observation.unavailable_of_away ?_ r
  cases c with
  | repository c => exact absurd rfl hidle
  | _ => rfl

/-- **What is committed and not available.** A thread has committed an acceptance and is told that
durable processing is unavailable exactly if the repository fails it after its acceptance. -/
theorem committed_unavailable_iff (L : LawfulRepository M)
    {fp : CanonicalAlert → Except PyError (Int × List UInt8)}
    (hreach : (M.system fp).Reachable cfg) {t : Nat} :
    Committed L cfg t ∧ unavailable (own t cfg.history) = true ↔ FailsAccepted L cfg t := by
  have htrace := (hreach.disciplined invocation_disciplined).trace
  have hsound : L.Sound cfg.history cfg.state := LawfulRepository.sound_of_trace htrace
  constructor
  · rintro ⟨⟨event, hmem, hthread, k, hnone, hsome⟩, hunavailable⟩
    obtain ⟨e, he⟩ := Option.isSome_iff_exists.mp hsome
    have hevent := hsound.events event hmem
    obtain ⟨now, alert, scope, key, version, digest, -, hcall⟩ := hevent.fresh hnone he
    have hstored : L.store event.after ≠ L.store event.before := by
      intro hsame
      rw [hsame, hnone] at he
      cases he
    obtain ⟨h₁, h₂, hhistory⟩ := List.append_of_mem hmem
    obtain ⟨is₁, i, -, -, hissues, -⟩ := htrace.split hhistory
    have hfirst : acts (own t h₁) = [] := by
      rw [hcall, hthread] at hissues
      cases hissues with
      | quiet hquiet => cases hquiet
      | accept _ _ hfirst _ => exact hfirst
    obtain ⟨t', w, c, r, w'⟩ := event
    obtain rfl : c = _ := hcall
    rcases r with e | acceptance
    · exact .acceptance hmem hthread rfl hstored
    · obtain ⟨_, -, -, -, -, hcreates⟩ := hevent.accepted rfl
      have hcreated : acceptance.created = true := by
        by_contra hcreated
        rw [if_neg hcreated] at hcreates
        exact hstored hcreates
      have hown : own t cfg.history = own t h₁ ++ Observation.repository
          (.acceptProcessing k alert scope key version digest) (.ok acceptance) :: own t h₂ := by
        rw [hhistory, own_cons_self hthread]
        rfl
      refine .later hown hcreated (failsLater_iff.mpr ?_)
      rw [hown, unavailable_append, unavailable_of_acts_nil hfirst, Bool.false_or] at hunavailable
      exact hunavailable
  · rintro (⟨hmem, hthread, hraises, hstored⟩ | ⟨hown, hcreated, hfails⟩)
    · next event k alert scope key version digest e =>
      have hevent := hsound.events event hmem
      have hfails : unavailable (own t cfg.history) = true := by
        rw [unavailable, List.any_eq_true]
        exact ⟨_, mem_own.mpr ⟨event, hmem, hthread, hraises⟩, rfl⟩
      refine ⟨⟨event, hmem, hthread, ?_⟩, hfails⟩
      obtain ⟨t', w, c, r, w'⟩ := event
      cases hraises
      obtain ⟨-, -, now, hlawful⟩ := hevent
      rcases hlawful.changes with hsame | hmoves
      · exact absurd hsame hstored
      · dsimp only at hmoves ⊢
        generalize L.store w' = s' at hmoves ⊢
        cases hmoves with
        | accept hfresh hnew => exact ⟨k, hfresh, by rw [Function.update_self]; rfl⟩
        | advance hentry hadvance hfresh => cases hadvance
    · next h h' k alert scope key version digest acceptance =>
      obtain ⟨event, hmem, hthread, hobserved⟩ :=
        mem_own.mp (hown ▸ List.mem_append_right h List.mem_cons_self)
      obtain ⟨e, he, -, -, -, hcreates⟩ := (hsound.events event hmem).accepted hobserved
      rw [if_pos hcreated] at hcreates
      refine ⟨⟨event, hmem, hthread, _, hcreates.1, by rw [he]; rfl⟩, ?_⟩
      rw [hown, unavailable_append, ← List.singleton_append, unavailable_append,
        failsLater_iff.mp hfails, Bool.or_true, Bool.or_true]

/-- **When the flag tells the truth.** In every run of core, over any lawful repository and whatever
became of a POST: a transient failure that is reported as not accepted was not accepted in that
request, unless the answer arrived and the repository failed the request after its acceptance. -/
theorem acceptance_unknown_truthful_iff (unicode : Unicode) (json : Json.Decoder)
    (L : LawfulRepository M) (dump : ProcessingRecord → List UInt8)
    (hreach : (M.system (fingerprintCanonicalAlert sha256)).Reachable cfg)
    {alert : CanonicalAlert} {key : String} (hkey : visibleKey key = true) {handler : Option Nat}
    {reply : Except RequestError Response} (hexchange : Exchange dump cfg alert key handler reply) :
    (∀ result, submitAlert unicode json (fun _ _ => reply) alert key = .ok result →
        result.classification = .transientFailure → result.acceptanceUnknown = false →
        ∀ t, handler = some t → ¬ Committed L cfg t) ↔
      ∀ t response, handler = some t → reply = .ok response → ¬ FailsAccepted L cfg t := by
  constructor
  · rintro htruthful t response rfl rfl hfails
    obtain ⟨hcommitted, hunavailable⟩ := (committed_unavailable_iff L hreach).mpr hfails
    cases hexchange with
    | @answered _ o r hthread =>
      have hends := endsUnavailable_iff hreach hthread
      rw [hunavailable] at hends
      rcases r with e | outcome
      · cases e with
        | persistenceUnavailable message =>
          obtain ⟨result, hresult, htransient, hknown⟩ :=
            submitAlert_unavailable unicode json hkey dump
          exact htruthful result hresult htransient hknown t rfl hcommitted
        | _ => cases hends
      · cases hends
  · rintro hnot result hresult htransient hknown t rfl hcommitted
    rw [submitAlert, hkey, if_neg (by simp)] at hresult
    cases hexchange with
    | @unanswered _ o program e hthread he =>
      cases e with
      | connectError => exact he rfl
      | timeoutException =>
        have hfields := Alert2IRDeliveryResult.make_eq_ok_iff.mp hresult
        simp [hfields] at hknown
      | other =>
        have hfields := Alert2IRDeliveryResult.make_eq_ok_iff.mp hresult
        simp [hfields] at hknown
    | @answered _ o r hthread =>
      have hstatus := (classifyResponse_known hresult).mp ⟨htransient, hknown⟩
      have hends := (Api.statusCode_processAlert r).mp hstatus
      rw [endsUnavailable_iff hreach hthread] at hends
      exact hnot t _ rfl rfl ((committed_unavailable_iff L hreach).mp ⟨hcommitted, hends⟩)

end Runs

namespace Scenario

/-- A hash that tells no two texts apart. -/
def constantHash : List UInt8 → List UInt8 := fun _ => List.replicate 32 0

abbrev hashed := (Postgres.repository dialect).system (fingerprintCanonicalAlert constantHash)

/-- Everything is as in a run without faults, but the server is gone once the alert is accepted. -/
def severed : Environment hashed where
  answer w
    | .repository (.storePlan ..) => some (.error .operationalError, w)
    | c => (Postgres.environment (fingerprintCanonicalAlert constantHash) answers dialect 1).answer
        w c
  sound := by
    intro w c r w' h
    split at h
    · cases h
      exact ⟨⟨1, .inr ⟨_, rfl, .inl rfl⟩⟩, rfl⟩
    · exact (Postgres.environment (fingerprintCanonicalAlert constantHash) answers
        dialect 1).sound h

def stranded : Configuration Db := hashed.replay [.spawn (arrival "key"), .run 0 30 severed]

theorem stranded_reachable : hashed.Reachable stranded := System.reachable_replay _

theorem thread_of_raised {cfg : Configuration Db} {t : Nat} {i : Invocation} {e : PyError}
    (hinvocation : (cfg.threads[t]?).map Thread.invocation = some i)
    (hreturned : (cfg.returned t).any (fun r => raised r = some e) = true) :
    cfg.threads[t]? = some ⟨i, .pure (.error e)⟩ := by
  obtain ⟨r, hr, hraised⟩ := (Option.any_eq_true ..).mp hreturned
  obtain ⟨i', hthread⟩ := Config.returned_eq_some_iff.mp hr
  rw [hthread, Option.map_some, Option.some.injEq] at hinvocation
  obtain rfl : i' = i := hinvocation
  rw [hthread, raised_eq_some_iff.mp (of_decide_eq_true hraised)]

theorem stranded_thread : stranded.threads[0]? = some ⟨arrival "key", .pure
    (Outcome.processed <$>
      .error (.persistenceUnavailable "execution plan could not be persisted"))⟩ :=
  thread_of_raised (by decide +kernel) (by decide +kernel)

theorem stranded_exchange (dump : ProcessingRecord → List UInt8) :
    Exchange dump stranded alert "key" (some 0) (.ok (Api.processAlert dump
      (.error (.persistenceUnavailable "execution plan could not be persisted")))) :=
  .answered stranded_thread

theorem stranded_committed : Committed (Postgres.lawfulRepository dialect) stranded 0 := by
  have haccepted : stranded.history.any (fun event => event.thread = 0 &&
      (Postgres.view event.before.store 0).isNone &&
        (Postgres.view event.after.store 0).isSome) = true := by
    decide +kernel
  obtain ⟨event, hevent, haccepted⟩ := List.any_eq_true.mp haccepted
  simp only [Bool.and_eq_true, decide_eq_true_eq, Option.isNone_iff_eq_none] at haccepted
  obtain ⟨⟨hthread, hbefore⟩, hafter⟩ := haccepted
  exact ⟨event, hevent, hthread, 0, hbefore, hafter⟩

/-- A request that was accepted is reported as not accepted. -/
theorem stranded_not_truthful : hashed.Reachable stranded ∧
    Exchange (fun _ => []) stranded alert "key" (some 0) (.ok (Api.processAlert (fun _ => [])
      (.error (.persistenceUnavailable "execution plan could not be persisted")))) ∧
    ∃ result, submitAlert Unicode.ascii Json.Decoder.strict
        (fun _ _ => .ok (Api.processAlert (fun _ => [])
          (.error (.persistenceUnavailable "execution plan could not be persisted")))) alert "key"
        = .ok result ∧
      result.classification = .transientFailure ∧ result.acceptanceUnknown = false ∧
      Committed (Postgres.lawfulRepository dialect) stranded 0 := by
  have hkey : visibleKey "key" = true := by decide +kernel
  obtain ⟨result, hresult, htransient, hknown⟩ :=
    submitAlert_unavailable Unicode.ascii Json.Decoder.strict hkey fun _ => []
  exact ⟨stranded_reachable, stranded_exchange _, result, hresult, htransient, hknown,
    stranded_committed⟩

/-- The server is gone before the alert is accepted. -/
def unreachable : Environment hashed where
  answer w
    | .repository (.acceptProcessing ..) => some (.error .operationalError, w)
    | c => (Postgres.environment (fingerprintCanonicalAlert constantHash) answers dialect 1).answer
        w c
  sound := by
    intro w c r w' h
    split at h
    · cases h
      exact ⟨⟨1, .inr ⟨_, rfl, .inl rfl⟩⟩, rfl⟩
    · exact (Postgres.environment (fingerprintCanonicalAlert constantHash) answers
        dialect 1).sound h

def refused : Configuration Db := hashed.replay [.spawn (arrival "key"), .run 0 30 unreachable]

/-- What core answers where the acceptance fails. -/
def refusal : Response := Api.processAlert (fun _ => [])
  (.error (.persistenceUnavailable "durable processing acceptance failed"))

theorem refused_exchange : Exchange (fun _ => []) refused alert "key" (some 0) (.ok refusal) :=
  .answered (o := orchestrator) (thread_of_raised (by decide +kernel) (by decide +kernel))

theorem refused_empty : refused.history.all (fun event =>
    event.before.store.processings.rows.isEmpty && event.after.store.processings.rows.isEmpty) =
      true := by
  decide +kernel

theorem view_of_rows_nil {db : Db} (h : db.processings.rows.isEmpty = true) :
    Postgres.view db = fun _ => none := by
  funext k
  have hnone : db.processings.lookup k = none := by
    by_contra hsome
    obtain ⟨row, hrow⟩ := Option.ne_none_iff_exists'.mp hsome
    have hmem := Table.mem_rows.mpr ⟨k, hrow⟩
    rw [List.isEmpty_iff.mp h] at hmem
    cases hmem
  rw [Postgres.view, hnone]

/-- A request that is not accepted is reported as not accepted, and has committed nothing. -/
theorem refused_truthful : ∃ result,
    submitAlert Unicode.ascii Json.Decoder.strict (fun _ _ => .ok refusal) alert "key" =
        .ok result ∧
      result.classification = .transientFailure ∧ result.acceptanceUnknown = false ∧
      ¬ Committed (Postgres.lawfulRepository dialect) refused 0 := by
  have hkey : visibleKey "key" = true := by decide +kernel
  have hreach : hashed.Reachable refused := System.reachable_replay _
  have hempty : ∀ event ∈ refused.history, Postgres.view event.before.store = (fun _ => none) ∧
      Postgres.view event.after.store = fun _ => none := by
    intro event hmem
    have hrows := List.all_eq_true.mp refused_empty event hmem
    rw [Bool.and_eq_true] at hrows
    exact ⟨view_of_rows_nil hrows.1, view_of_rows_nil hrows.2⟩
  have hnot : ¬ FailsAccepted (Postgres.lawfulRepository dialect) refused 0 := by
    rintro (⟨hmem, -, -, hstored⟩ | ⟨hown, hcreated, hfails⟩)
    · obtain ⟨hbefore, hafter⟩ := hempty _ hmem
      exact hstored (hafter.trans hbefore.symm)
    · have hacts : (acts (own 0 refused.history)).all Observation.unavailable = true := by
        decide +kernel
      have hunavailable := List.all_eq_true.mp hacts _
        (List.mem_filter.mpr ⟨hown ▸ List.mem_append_right _ List.mem_cons_self, rfl⟩)
      cases hunavailable
  obtain ⟨result, hresult, htransient, hknown⟩ :=
    submitAlert_unavailable Unicode.ascii Json.Decoder.strict hkey fun _ => []
  refine ⟨result, hresult, htransient, hknown, ?_⟩
  refine (acceptance_unknown_truthful_iff Unicode.ascii Json.Decoder.strict
    (Postgres.lawfulRepository dialect) (fun _ => []) hreach hkey refused_exchange).mpr ?_ result
      hresult htransient hknown 0 rfl
  rintro _ _ ⟨⟩ -
  exact hnot

end Scenario

end Alert2IR
