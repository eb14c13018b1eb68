import Alert2IR.Persistence.Integrity

/-!
# Rows that decode

A valid entry passes the checks of the record it is read back as, once its times are in order. They
are while the clock of the server does not run backwards.
-/

namespace Alert2IR

/-- An entry was last updated after it was created, and not after `last`. -/
structure Entry.Timely (last : Int) (e : Entry) : Prop where
  created : e.processing.createdAt.instant ≤ e.processing.updatedAt.instant
  updated : e.processing.updatedAt.instant ≤ last

section Checks

variable {d : Dialect} {e e' : Entry} {now last : Int} {c : RepositoryCall}

theorem isAware_of_utc {t : Datetime} (h : t.utc = t) : t.isAware = true := by
  rw [← h]
  rfl

theorem ifPresent_isAware {t : Option Datetime} (h : t.map Datetime.utc = t) :
    ifPresent t Datetime.isAware = true := by
  cases t with
  | none => rfl
  | some t => exact isAware_of_utc (Option.some.inj h)

theorem Bounded.nonempty {value : String} {bound : Nat} (h : Bounded d bound value) :
    value ≠ "" := by
  rintro rfl
  exact absurd h.1 (by simp [Schema.notBlank])

theorem ErrorPair.bounded {category detail : Option String} (h : ErrorPair d category detail) :
    (requireBoundedError category "error_category").1 = true ∧
      (requireBoundedError detail "error_detail").1 = true := by
  cases h with
  | none => exact ⟨rfl, rfl⟩
  | some hcategory hdetail =>
      simp [requireBoundedError, hcategory.nonempty, hcategory.2, hdetail.nonempty, hdetail.2]

theorem Entry.Coherent.stateChecks (hcoherent : e.Coherent) (hvalid : e.processing.Valid d) :
    checks e.processing.stateChecks = .ok () := by
  obtain ⟨p, attempt⟩ := e
  obtain ⟨-, -, hcompletedAt, hfailedAt, hphase⟩ := hcoherent
  have herrored := hvalid.errored
  dsimp only at hcompletedAt hfailedAt hphase herrored ⊢
  cases hphase with
  | accepted hstate hplan =>
      simp [ProcessingFields.stateChecks, checks, hstate, hplan.decision, hplan.incident,
        hplan.request, hplan.backend, hplan.result]
  | noAction result hstate hresult houtcome hsource hbackend =>
      have hcompleted : p.completedAt.isSome = true := by simpa [hstate] using hcompletedAt
      have hfailed : p.failedAt = none := by simpa [hstate] using hfailedAt
      simp [ProcessingFields.stateChecks, checks, hstate, hresult, hcompleted, hfailed]
  | rejected hstate hplan =>
      have hcompleted : p.completedAt = none := by simpa [hstate] using hcompletedAt
      have hfailed : p.failedAt.isSome = true := by simpa [hstate] using hfailedAt
      simp [ProcessingFields.stateChecks, checks, hstate, hplan.result, hcompleted, hfailed,
        herrored (.inl hstate)]
  | executing q b a hexecutes hserves =>
      by_cases hcompleted : p.state = .completed
      · have hresult : p.completedResult.isSome = true := by
          simpa [hcompleted] using hexecutes.result
        have hat : p.completedAt.isSome = true := by simpa [hcompleted] using hcompletedAt
        have hfailed : p.failedAt = none := by simpa [hcompleted] using hfailedAt
        simp [ProcessingFields.stateChecks, checks, hcompleted, hresult, hat, hfailed]
      · obtain ⟨hresult, hdecision, hincident, hrequest⟩ := hexecutes.planned hcompleted
        have hat : p.completedAt = none := by simpa [hcompleted] using hcompletedAt
        have haccepted : p.state ≠ .accepted := by
          rw [hserves.state]
          cases a.state <;> simp [ExecutionAttemptState.processingState]
        cases hstate : p.state with
        | accepted => exact absurd hstate haccepted
        | completed => exact absurd hstate hcompleted
        | failed =>
            have hfailed : p.failedAt.isSome = true := by simpa [hstate] using hfailedAt
            simp [ProcessingFields.stateChecks, checks, hstate, hresult, hat, hfailed,
              herrored (.inl hstate)]
        | planned | submitting | submitted | recoveryRequired =>
            simp [ProcessingFields.stateChecks, checks, hstate, hresult, hdecision, hincident,
              hrequest, hexecutes.backend]

theorem Entry.Coherent.sourceChecks (hcoherent : e.Coherent) :
    checks e.processing.sourceChecks = .ok () := by
  obtain ⟨p, attempt⟩ := e
  obtain ⟨-, -, halert, hdecision, hincident, -⟩ :=
    ProcessingFields.durable_eq_self_iff.mp hcoherent.durable
  have hphase := hcoherent.phase
  dsimp only at halert hdecision hincident hphase ⊢
  cases hphase with
  | accepted hstate hplan | rejected hstate hplan =>
      simp [ProcessingFields.sourceChecks, checks, hplan.decision, hplan.result]
  | noAction result hstate hresult houtcome hsource hbackend =>
      obtain ⟨hnone, -, -⟩ := result.of_noAction houtcome
      simp [ProcessingFields.sourceChecks, checks, hresult, hnone, hsource,
        hdecision (by simp [hresult])]
  | executing q b a hexecutes hserves =>
      have hsource : q.incident.decision.source = p.alert.source := by
        rw [q.incident.source_eq, hexecutes.alert]
      by_cases hcompleted : p.state = .completed
      · obtain ⟨r, hr⟩ := Option.isSome_iff_exists.mp (by simpa [hcompleted] using hexecutes.result)
        have hd := hexecutes.decision
        have hi := hexecutes.incident
        simp only [ProcessingFields.decision, ProcessingFields.incident, hr, Option.some.injEq]
          at hd hi
        simp [ProcessingFields.sourceChecks, checks, hr, hd, hi, hsource, hexecutes.alert,
          hdecision (by simp [hr])]
      · obtain ⟨hresult, hd, hi, -⟩ := hexecutes.planned hcompleted
        simp [ProcessingFields.sourceChecks, checks, hresult, hd, hi, hsource, hexecutes.alert]

/-- **A valid entry passes every check of a record.** -/
theorem Entry.postInit_eq_ok (hcoherent : e.Coherent) (hvalid : e.Valid d)
    (htimely : e.Timely last) : e.processing.postInit = .ok () := by
  obtain ⟨hcreated, hupdated, -, -, -, -, -, hcompletedAt, hfailedAt⟩ :=
    ProcessingFields.durable_eq_self_iff.mp hcoherent.durable
  obtain ⟨scope, key, version, digest, hscope, hkey, hversion, hdigest, hidentity⟩ :=
    hvalid.processing.identity
  have herrors := hvalid.processing.errors
  rw [ProcessingFields.postInit, checks_append, checks_append, checks_append, checks_append]
  refine ⟨⟨⟨⟨?_, ?_⟩, ?_⟩, hcoherent.stateChecks hvalid.processing⟩, hcoherent.sourceChecks⟩
  · simp [ProcessingFields.timestampChecks, checks, requireAware, isAware_of_utc hcreated,
      isAware_of_utc hupdated, ifPresent_isAware hcompletedAt, ifPresent_isAware hfailedAt,
      htimely.created]
  · simp [ProcessingFields.identityChecks, checks, hscope, hkey, hversion, hdigest,
      hidentity.version, hidentity.digest]
  · have hpair := herrors.isSome_eq
    obtain ⟨hcategory, hdetail⟩ := herrors.bounded
    simp [ProcessingFields.errorChecks, checks, hcategory, hdetail, ← Option.not_isSome, hpair]

/-- An operation moves the time of the last update to its own. -/
theorem Entry.times_of_advance (h : e.advance now c = some e') :
    e'.processing.createdAt = e.processing.createdAt ∧
      e'.processing.updatedAt = .ofInstant now := by
  cases c <;> simp only [advance, reduceCtorEq, Option.ite_none_right_eq_some, move_eq_some_iff]
    at h
  case storeNoActionResult | storePlan =>
    obtain ⟨-, heq⟩ := h
    cases heq
    exact ⟨rfl, rfl⟩
  case claimAttemptForSubmission | markAttemptSubmitted | recordPoll | completeProcessing
    | markRecoveryRequired =>
    obtain ⟨a, -, -, -, rfl⟩ := h
    exact ⟨rfl, rfl⟩
  case failProcessing k expected category detail attemptId =>
    obtain ⟨-, h⟩ := h
    cases attemptId with
    | none =>
        cases h
        exact ⟨rfl, rfl⟩
    | some attemptId =>
        obtain ⟨a, -, -, -, rfl⟩ := move_eq_some_iff.mp h
        exact ⟨rfl, rfl⟩

theorem Entry.Timely.advance (htimely : e.Timely last) (hlast : last ≤ now)
    (h : e.advance now c = some e') : e'.Timely now := by
  obtain ⟨hcreated, hupdated⟩ := times_of_advance h
  constructor
  · rw [hcreated, hupdated, Datetime.instant_ofInstant]
    exact (htimely.created.trans htimely.updated).trans hlast
  · rw [hupdated, Datetime.instant_ofInstant]

end Checks

/-! ### What the callers passed -/

/-- The values passed to the operations that changed a processing. -/
structure Passed where
  alert : CanonicalAlert
  decision : Option Decision
  incident : Option Incident
  request : Option InvestigationRequest
  backend : Option String
  errorCategory : Option String
  errorDetail : Option String
  result : Option OrchestrationResult

namespace Passed

/-- The values passed up to and with a call. -/
def next (c : RepositoryCall) (v : Option Passed) : Option Passed :=
  match c with
  | .acceptProcessing _ alert .. => some ⟨alert, none, none, none, none, none, none, none⟩
  | .storeNoActionResult _ result =>
      v.map fun v => { v with decision := some result.decision, result := some result }
  | .storePlan _ decision incident request backend .. =>
      v.map fun v => { v with
        decision := some decision
        incident := some incident
        request := some request
        backend := some backend }
  | .recordPoll _ _ category detail =>
      v.map fun v => { v with errorCategory := category, errorDetail := detail }
  | .completeProcessing _ result =>
      v.map fun v => { v with result := some result, errorCategory := none, errorDetail := none }
  | .failProcessing _ _ category detail _ | .markRecoveryRequired _ _ category detail =>
      v.map fun v => { v with errorCategory := some category, errorDetail := some detail }
  | _ => v

/-- A processing holds the values passed, as Python compares them. -/
structure HeldBy (v : Passed) (p : ProcessingFields) : Prop where
  alert : p.alert.utc = v.alert.utc
  decision : p.decision = v.decision
  incident : p.incident.map Incident.utc = v.incident.map Incident.utc
  request : p.investigationRequest.map InvestigationRequest.utc
    = v.request.map InvestigationRequest.utc
  backend : p.selectedBackend = v.backend
  errorCategory : p.errorCategory = v.errorCategory
  errorDetail : p.errorDetail = v.errorDetail
  result : p.completedResult.map OrchestrationResult.utc = v.result.map OrchestrationResult.utc

variable {v : Passed} {now : Int} {c : RepositoryCall} {e e' : Entry}

theorem heldBy_accepted (k : UUID) (alert : CanonicalAlert) (scope key : String) (version : Int)
    (digest : List UInt8) : HeldBy ⟨alert, none, none, none, none, none, none, none⟩
      (Entry.accepted now k alert scope key version digest).processing where
  alert := CanonicalAlert.utc_utc alert
  decision := rfl
  incident := rfl
  request := rfl
  backend := rfl
  errorCategory := rfl
  errorDetail := rfl
  result := rfl

/-- What does not touch the plan or the result of a processing keeps the values passed for them. -/
theorem HeldBy.keep {p p' : ProcessingFields} {category detail : Option String} (h : v.HeldBy p)
    (halert : p'.alert = p.alert) (hdecision : p'.plannedDecision = p.plannedDecision)
    (hincident : p'.plannedIncident = p.plannedIncident)
    (hrequest : p'.plannedRequest = p.plannedRequest)
    (hresult : p'.completedResult = p.completedResult)
    (hbackend : p'.selectedBackend = p.selectedBackend) (hcategory : p'.errorCategory = category)
    (hdetail : p'.errorDetail = detail) :
    HeldBy { v with errorCategory := category, errorDetail := detail } p' where
  alert := by rw [halert, h.alert]
  decision := by
    rw [← h.decision]
    simp only [ProcessingFields.decision, hresult, hdecision]
  incident := by
    rw [← h.incident]
    simp only [ProcessingFields.incident, hresult, hincident]
  request := by
    rw [← h.request]
    simp only [ProcessingFields.investigationRequest, hresult, hrequest]
  backend := by rw [hbackend, h.backend]
  errorCategory := hcategory
  errorDetail := hdetail
  result := by rw [hresult, h.result]

/-- **An operation leaves a processing that holds the values passed with it.** -/
theorem HeldBy.advance (h : v.HeldBy e.processing) (hcoherent : e.Coherent) (hfits : c.Fits e)
    (hadvance : e.advance now c = some e') :
    ∃ v', next c (some v) = some v' ∧ v'.HeldBy e'.processing := by
  cases c <;> simp only [Entry.advance, reduceCtorEq, Option.ite_none_right_eq_some,
    Entry.move_eq_some_iff] at hadvance
  case storeNoActionResult k r =>
    obtain ⟨⟨rfl, hstate⟩, heq⟩ := hadvance
    cases heq
    obtain ⟨hplan, -⟩ := hcoherent.phase.of_accepted hstate
    obtain ⟨hincident, hrequest, -⟩ := r.of_noAction hfits.1
    refine ⟨_, rfl, h.alert, rfl, ?_, ?_, h.backend, h.errorCategory, h.errorDetail, ?_⟩
    · rw [← h.incident]
      simp [ProcessingFields.incident, ProcessingFields.storeNoActionResult, hplan.result,
        hplan.incident, OrchestrationResult.utc, hincident]
    · rw [← h.request]
      simp [ProcessingFields.investigationRequest, ProcessingFields.storeNoActionResult,
        hplan.result, hplan.request, OrchestrationResult.utc, hrequest]
    · simp [ProcessingFields.storeNoActionResult]
  case storePlan k decision incident q b a op =>
    obtain ⟨⟨rfl, hstate⟩, heq⟩ := hadvance
    cases heq
    obtain ⟨hplan, -⟩ := hcoherent.phase.of_accepted hstate
    refine ⟨_, rfl, h.alert, ?_, ?_, ?_, rfl, h.errorCategory, h.errorDetail, h.result⟩
    · simp [ProcessingFields.decision, ProcessingFields.storePlan, hplan.result]
    · simp [ProcessingFields.incident, ProcessingFields.storePlan, hplan.result]
    · simp [ProcessingFields.investigationRequest, ProcessingFields.storePlan, hplan.result]
  case claimAttemptForSubmission | markAttemptSubmitted =>
    obtain ⟨a, -, -, -, rfl⟩ := hadvance
    exact ⟨v, rfl, h.keep rfl rfl rfl rfl rfl rfl h.errorCategory h.errorDetail⟩
  case recordPoll =>
    obtain ⟨a, -, -, -, rfl⟩ := hadvance
    exact ⟨_, rfl, h.keep rfl rfl rfl rfl rfl rfl rfl rfl⟩
  case completeProcessing id r =>
    obtain ⟨a, -, -, -, rfl⟩ := hadvance
    obtain ⟨hdecision, hincident, hrequest⟩ := hfits
    refine ⟨_, rfl, h.alert, ?_, ?_, ?_, h.backend, rfl, rfl, ?_⟩
    · rw [← h.decision, hdecision]
      rfl
    · rw [← h.incident, hincident]
      rfl
    · rw [← h.request, hrequest]
      rfl
    · simp [ProcessingFields.complete]
  case failProcessing k expected category detail attemptId =>
    obtain ⟨-, hadvance⟩ := hadvance
    have hfailed : e'.processing = e.processing.fail now category detail := by
      cases attemptId with
      | none =>
          cases hadvance
          rfl
      | some id =>
          obtain ⟨a, -, -, -, rfl⟩ := Entry.move_eq_some_iff.mp hadvance
          rfl
    rw [hfailed]
    exact ⟨_, rfl, h.keep rfl rfl rfl rfl rfl rfl rfl rfl⟩
  case markRecoveryRequired =>
    obtain ⟨a, -, -, -, rfl⟩ := hadvance
    exact ⟨_, rfl, h.keep rfl rfl rfl rfl rfl rfl rfl rfl⟩

end Passed

/-! ### A clock that does not run backwards -/

namespace Postgres

variable {d : Dialect} {start now : Int} {s s' : Db × Int} {c : RepositoryCall}
  {r : Except PyError c.Result} {k : UUID}

/-- The repository with the time of its last transaction. -/
def clocked (d : Dialect) (start : Int) : Repository (Db × Int) where
  init := ((repository d).init, start)
  step s c r s' := s.2 ≤ s'.2 ∧ (exec d s'.2 c s.1 = (r, s'.1) ∨
    ∃ e, r = .error e ∧ (s'.1 = s.1 ∨ s'.1 = (exec d s'.2 c s.1).2))

/-- **The clocked repository is lawful**, since it steps as the plain one does. -/
def clockedRepository (d : Dialect) (start : Int) : LawfulRepository (clocked d start) :=
  (validRepository d).comap Prod.fst rfl fun hstep => ⟨_, hstep.2⟩

/-- A step of the clocked repository changes the store at the time it shows. -/
theorem clocked_changes (hgood : (clockedRepository d start).Good s)
    (hfits : (view s.1).Fits c) (hstep : (clocked d start).step s c r s') :
    view s'.1 = view s.1 ∨ (view s.1).Moves s'.2 c (view s'.1) := by
  have hs := (clockedRepository d start).coherent hgood
  have hrep := represents_of_good hgood.1
  have hmoves : ∀ {r}, exec d s'.2 c s.1 = (r, s'.1) →
      view s'.1 = view s.1 ∨ (view s.1).Moves s'.2 c (view s'.1) := by
    intro r hexec
    obtain ⟨t, hrep', hlawful⟩ := exec_lawful hs hrep hfits hexec
    rw [hrep'.view_eq (hlawful.coherent hs hfits)]
    exact hlawful.changes
  obtain ⟨-, hexec | ⟨e, -, hsame | hcommitted⟩⟩ := hstep
  · exact hmoves hexec
  · exact .inl (congrArg view hsame)
  · exact hmoves (Prod.ext rfl hcommitted.symm)

/-- What the row of a processing says. -/
def content (db : Db) (k : UUID) : Option ProcessingFields := (view db k).map (·.processing)

/-- The values passed to the calls of a history that changed what the row of a processing says. -/
def passed (k : UUID) (history : List (Event (Db × Int))) : Option Passed :=
  history.foldl (fun v event =>
    match event.call with
    | .repository c =>
        if content event.after.store.1 k = content event.before.store.1 k then v
        else Passed.next c v
    | _ => v) none

/-- A processing is in time and holds the values passed for it. -/
structure Faithful (last : Int) (v : Option Passed) (e : Entry) : Prop where
  timely : e.Timely last
  held : ∃ v', v = some v' ∧ v'.HeldBy e.processing

/-- A processing that a call leaves alone stays faithful. -/
theorem Faithful.same {v : Option Passed} {last : Int} {e e' : Entry} (h : Faithful last v e)
    (hlast : last ≤ now) (heq : e'.processing = e.processing) : Faithful now v e' := by
  obtain ⟨⟨hcreated, hupdated⟩, hheld⟩ := h
  constructor
  · constructor
    · rwa [heq]
    · rw [heq]
      exact hupdated.trans hlast
  · rwa [heq]

/-- **One call keeps every processing faithful**, to the values it passed where it changed the
processing. -/
theorem faithful_of_step {v : Option Passed} (hgood : (clockedRepository d start).Good s)
    (hfits : (view s.1).Fits c) (hstep : (clocked d start).step s c r s')
    (hfaithful : ∀ e, view s.1 k = some e → Faithful s.2 v e) {e' : Entry}
    (he' : view s'.1 k = some e') :
    Faithful s'.2 (if content s'.1 k = content s.1 k then v else Passed.next c v) e' := by
  have hs := (clockedRepository d start).coherent hgood
  have hlast : s.2 ≤ s'.2 := hstep.1
  split
  · next hsame =>
    rw [content, content, he', Option.map_some, eq_comm, Option.map_eq_some_iff] at hsame
    obtain ⟨e, he, heq⟩ := hsame
    exact (hfaithful e he).same hlast heq.symm
  · next hchanged =>
    have hmoves := (clocked_changes hgood hfits hstep).resolve_left fun hsame =>
      hchanged (by rw [content, content, hsame])
    generalize hstore : view s'.1 = after at *
    cases hmoves with
    | @accept k' alert scope key version digest hfresh hnew =>
        by_cases hk : k = k'
        · subst hk
          rw [Function.update_self] at he'
          cases he'
          exact ⟨⟨le_rfl, (Datetime.instant_ofInstant _).le⟩, _, rfl, Passed.heldBy_accepted ..⟩
        · exact absurd (by simp [content, hstore, hk]) hchanged
    | @advance c k' e e₁ hentry hadvance hfresh =>
        by_cases hk : k = k'
        · subst hk
          rw [Function.update_self] at he'
          cases he'
          obtain ⟨htimely, v, rfl, hheld⟩ := hfaithful e hentry
          have hconcerns := Entry.concerns_of_advance hadvance
          exact ⟨htimely.advance hlast hadvance,
            hheld.advance (hs.entry k e hentry) (hfits k e hentry hconcerns) hadvance⟩
        · exact absurd (by simp [content, hstore, hk]) hchanged

end Postgres

end Alert2IR
