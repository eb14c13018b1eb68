import Alert2IR.Application.Discipline
import Alert2IR.Application.Passes

/-!
# The budget of a reconciliation pass

A pass may work until its deadline: it reads the clock right before each claim, submission, poll and
collection, and goes on only if time is left. A claim that has been answered is followed by the
submission, or by giving the claim up if no time is left by then.
-/

namespace Alert2IR

open Interleaving

/-- The readings of the clock, oldest first. -/
def readings (h : List Observation) : List Rat :=
  h.filterMap fun
    | ⟨.monotonic, m⟩ => some m
    | _ => none

/-- The calls that a pass makes only while time is left. -/
def Call.isWork : Call → Bool
  | .repository (.claimAttemptForSubmission _) | .submit .. | .poll .. | .collectResult .. => true
  | _ => false

/-- The `timeout_seconds` of a call to a backend. -/
def Call.timeout : Call → Option (Option Rat)
  | .submit _ _ _ _ timeout | .poll _ _ _ _ timeout => some timeout
  | _ => none

/-- How a pass gives up a claim that no time is left to submit. -/
def expiry (claimed : ExecutionAttempt) : RepositoryCall :=
  .markRecoveryRequired claimed.attemptId [.submitting] "recovery_required"
    "reconciliation deadline expired before backend submission"

/-- The clock has just been read, time was left, and a timeout is the time that was left. -/
def Affordable (maxSeconds : Rat) (h : List Observation) (c : Call) : Prop :=
  ∃ started m : Rat, (readings h).head? = some started ∧ [⟨.monotonic, m⟩] <:+ h ∧
    m < started + maxSeconds ∧
    ∀ timeout, c.timeout = some timeout → timeout = some (started + maxSeconds - m)

/-- The attempt that an answered claim has handed over. -/
def Observation.claimed : Observation → Option ExecutionAttempt
  | ⟨.repository (.claimAttemptForSubmission _), .ok claimed⟩ => claimed
  | _ => none

/-- The attempt that a caller has just claimed, with no act after it. -/
def lastClaimed (h : List Observation) : Option ExecutionAttempt :=
  (acts h).getLast?.bind Observation.claimed

/-- What a pass of `max_seconds` may call next. -/
structure Budgeted (maxSeconds : Rat) (h : List Observation) (c : Call) : Prop where
  work : c.isWork = true → Affordable maxSeconds h c
  claimed : c.isAct = true → ∀ claimed, lastClaimed h = some claimed →
    c.submits.isSome = true ∨ c = .repository (expiry claimed)

/-! ### Procedures within the budget -/

/-- A pass that has started, and has not just claimed. -/
structure Ready (started : Rat) (h : List Observation) : Prop where
  started : (readings h).head? = some started
  unclaimed : lastClaimed h = none

/-- A procedure that keeps to the budget of a pass, wherever the pass calls it. -/
def Spends (maxSeconds started : Rat) {α : Type} (p : Proc α) : Prop :=
  ∀ h, Ready started h →
    Interleaving.Proc.wp ownStep (Budgeted maxSeconds) (fun _ h' => Ready started h') p h

section Rules

variable {maxSeconds started : Rat} {h h' : List Observation} {c : Call} {r : c.Response}
  {α β : Type} {p : Proc α}

theorem readings_step (hstep : ownStep h c r h') :
    readings h' = readings h ++ readings [⟨c, r⟩] := by
  rw [hstep, readings, List.filterMap_append]
  rfl

theorem head_readings_step (hstep : ownStep h c r h')
    (hstarted : (readings h).head? = some started) : (readings h').head? = some started := by
  rw [readings_step hstep, List.head?_append, hstarted]
  rfl

theorem lastClaimed_of_quiet (hstep : ownStep h c r h') (hquiet : c.isAct = false) :
    lastClaimed h' = lastClaimed h := by
  rw [lastClaimed, acts_of_quiet hstep hquiet]
  rfl

theorem lastClaimed_of_act (hstep : ownStep h c r h') (hact : c.isAct = true) :
    lastClaimed h' = Observation.claimed ⟨c, r⟩ := by
  rw [lastClaimed, acts_of_act hstep hact, List.getLast?_append, List.getLast?_singleton]
  rfl

theorem claimed_of_idle (hwork : c.isWork = false) : Observation.claimed ⟨c, r⟩ = none := by
  cases c with
  | repository c =>
      cases c with
      | claimAttemptForSubmission id => cases hwork
      | _ => rfl
  | _ => rfl

/-- Any call but an answered claim leaves a pass ready, if it was ready before. -/
theorem Ready.step (hready : Ready started h) (hstep : ownStep h c r h')
    (hnone : Observation.claimed ⟨c, r⟩ = none) : Ready started h' := by
  refine ⟨head_readings_step hstep hready.started, ?_⟩
  cases hact : c.isAct with
  | false => rw [lastClaimed_of_quiet hstep hact, hready.unclaimed]
  | true => rw [lastClaimed_of_act hstep hact, hnone]

/-- A call that is not `Call.isWork`, out of a pass that is ready. -/
theorem Ready.budgeted (hready : Ready started h) (hwork : c.isWork = false) :
    Budgeted maxSeconds h c where
  work h := by simp [hwork] at h
  claimed _ claimed h := by simp [hready.unclaimed] at h

/-- Work in the time left, out of a pass that is ready. -/
theorem Ready.affords (hready : Ready started h) (haffordable : Affordable maxSeconds h c) :
    Budgeted maxSeconds h c where
  work _ := haffordable
  claimed _ claimed h := by simp [hready.unclaimed] at h

theorem Budgeted.of_quiet (hwork : c.isWork = false) (hquiet : c.isAct = false) :
    Budgeted maxSeconds h c where
  work h := by simp [hwork] at h
  claimed h := by simp [hquiet] at h

theorem spends_pure (a : α) : Spends maxSeconds started (pure a : Proc α) := fun _ hready => hready

theorem spends_throw (e : PyError) : Spends maxSeconds started (throw e : Proc α) :=
  fun _ hready => hready

theorem Spends.bind {f : α → Proc β} (hp : Spends maxSeconds started p)
    (hf : ∀ a, Spends maxSeconds started (f a)) : Spends maxSeconds started (p >>= f) := by
  intro h hready
  rw [Interleaving.Proc.wp_bind]
  refine Interleaving.Proc.wp_mono (hp h hready) fun r h' hready' => ?_
  cases r with
  | error e => exact hready'
  | ok a => exact hf a h' hready'

theorem Spends.catching (hp : Spends maxSeconds started p) :
    Spends maxSeconds started (Interleaving.Proc.catching p) := by
  intro h hready
  rw [Interleaving.Proc.wp_catching]
  exact hp h hready

theorem spends_perform {c : Call} (hwork : c.isWork = false) :
    Spends maxSeconds started (Interleaving.Proc.perform c : Proc (Call.Response c)) := by
  intro h hready
  rw [Interleaving.Proc.wp_perform]
  exact ⟨hready.budgeted hwork, fun r h' hstep => hready.step hstep (claimed_of_idle hwork)⟩

theorem spends_repository {c : RepositoryCall} (hwork : Call.isWork (.repository c) = false) :
    Spends maxSeconds started (Proc.repository c) := by
  intro h hready
  rw [wp_repository]
  exact ⟨hready.budgeted hwork, fun r h' hstep => hready.step hstep (claimed_of_idle hwork)⟩

theorem spends_decide (alert : CanonicalAlert) :
    Spends maxSeconds started (Proc.decide alert) := fun _ hready =>
  ⟨hready.budgeted rfl, fun _ _ hstep => hready.step hstep (claimed_of_idle rfl)⟩

theorem spends_requestFactory (incident : Incident) :
    Spends maxSeconds started (Proc.requestFactory incident) := fun _ hready =>
  ⟨hready.budgeted rfl, fun _ _ hstep => hready.step hstep (claimed_of_idle rfl)⟩

theorem spends_observeWhen (condition : Bool) (what : Observed) :
    Spends maxSeconds started (Proc.observeWhen condition what) := by
  cases condition
  · exact spends_pure ()
  · exact spends_perform rfl

theorem spends_evaluate (x : Except PyError α) : Spends maxSeconds started (Proc.evaluate x) := by
  cases x with
  | error e => exact spends_throw e
  | ok a => exact spends_pure a

/-- Work right after a reading that left time. -/
theorem affordable_of_reading {m : Rat} (hstep : ownStep h .monotonic m h')
    (hstarted : (readings h).head? = some started) (hleft : m < started + maxSeconds) {c : Call}
    (htimeout : ∀ timeout, c.timeout = some timeout → timeout = some (started + maxSeconds - m)) :
    Affordable maxSeconds h' c :=
  ⟨started, m, head_readings_step hstep hstarted, hstep.isSuffix List.nil_suffix, hleft, htimeout⟩

theorem wp_observe_bind {P : List Observation → Call → Prop} {what : Observed}
    {Q : Except PyError α → List Observation → Prop} {f : Unit → Proc α} :
    Interleaving.Proc.wp ownStep P Q (Proc.observe what >>= f) h ↔ P h (.observe what) ∧
      ∀ h', ownStep h (.observe what) () h' → Interleaving.Proc.wp ownStep P Q (f ()) h' := by
  rw [Interleaving.Proc.wp_bind]
  exact and_congr_right fun _ => ⟨fun h h' => h () h', fun h _ h' => h h'⟩

theorem wp_remaining {P : List Observation → Call → Prop} {deadline : Rat}
    {Q : Except PyError (Option Rat) → List Observation → Prop} :
    Interleaving.Proc.wp ownStep P Q
        (PersistentAlertProcessor.remainingReconciliationSeconds (some deadline)) h ↔
      P h .monotonic ∧
        ∀ (m : Rat) h', ownStep h .monotonic m h' → Q (.ok (some (deadline - m))) h' := Iff.rfl

theorem lt_of_not_exhausted {deadline m : Rat}
    (hexhausted : PersistentAlertProcessor.exhausted (some (deadline - m)) = false) :
    m < deadline := by
  rw [PersistentAlertProcessor.exhausted] at hexhausted
  simpa using hexhausted

/-- A reading, and what is done with and without time left. -/
theorem spends_remaining_bind {late : Option Rat → Proc α} {timely : Option Rat → Proc α}
    (hlate : ∀ remaining, Spends maxSeconds started (late remaining))
    (htimely : ∀ (m : Rat) h, Ready started h → (∀ c : Call,
        (∀ timeout, c.timeout = some timeout → timeout = some (started + maxSeconds - m)) →
          Affordable maxSeconds h c) →
      Interleaving.Proc.wp ownStep (Budgeted maxSeconds) (fun _ h' => Ready started h')
        (timely (some (started + maxSeconds - m))) h) :
    Spends maxSeconds started (do
      let remaining ← PersistentAlertProcessor.remainingReconciliationSeconds
        (some (started + maxSeconds))
      if PersistentAlertProcessor.exhausted remaining then late remaining
      else timely remaining) := by
  intro h hready
  rw [Interleaving.Proc.wp_bind, wp_remaining]
  refine ⟨hready.budgeted rfl, fun m h' hstep => ?_⟩
  have hready' := hready.step hstep (claimed_of_idle rfl)
  cases hexhausted : PersistentAlertProcessor.exhausted (some (started + maxSeconds - m)) with
  | true =>
      simp only [hexhausted, if_true]
      exact hlate _ h' hready'
  | false =>
      simp only [hexhausted, Bool.false_eq_true, if_false]
      exact htimely m h' hready' fun c htimeout =>
        affordable_of_reading hstep hready.started (lt_of_not_exhausted hexhausted) htimeout

end Rules

namespace PersistentAlertProcessor

open Proc

variable {maxSeconds started : Rat} {o : AlertOrchestrator} {record : ProcessingRecord}
  {attempt : ExecutionAttempt} {backend : Backend} {request : InvestigationRequest}
  {backendName externalOperationId remoteState : String}

theorem reread_spends (k : UUID) : Spends maxSeconds started (reread k) := by
  refine (spends_repository rfl).bind fun found => ?_
  cases found with
  | none => exact spends_throw _
  | some record => exact spends_pure record

theorem orReread_spends (updated : Option ProcessingRecord) (k : UUID) :
    Spends maxSeconds started (orReread updated k) := by
  cases updated with
  | none => exact reread_spends k
  | some record => exact spends_pure record

/-- Counting and returning. -/
theorem count_spends (durable : ProcessingRecord) (condition : Bool) (what : Observed) :
    Spends maxSeconds started (do observeWhen condition what; return durable) :=
  (spends_observeWhen condition what).bind fun _ => spends_pure durable

theorem recover_spends (maxSeconds started : Rat) (a : UUID) (expected : ExecutionAttemptState)
    (category detail : String) (k : UUID) (name : String) :
    Spends maxSeconds started (recover a expected category detail k name) :=
  (spends_repository rfl).bind fun recovery => (orReread_spends recovery k).bind fun durable =>
    count_spends durable _ _

theorem collect_spends : Spends maxSeconds started (collect record attempt backend request
    backendName externalOperationId remoteState (some (started + maxSeconds))) := by
  refine (spends_repository rfl).bind fun _ =>
    spends_remaining_bind (fun _ => reread_spends _) fun m h hready haffordable => ?_
  rw [Interleaving.Proc.wp_bind, Interleaving.Proc.wp_catching, Interleaving.Proc.wp_bind,
    wp_collectResult]
  refine ⟨hready.affords (haffordable _ nofun), fun answer h' hstep => ?_⟩
  have hready' := hready.step hstep rfl
  have hrecover := recover_spends maxSeconds started attempt.attemptId .submitted
    "backend_protocol_error" "backend result could not be collected safely"
    record.processingId backendName h' hready'
  rcases answer with error | _ | investigationResult
  · exact hrecover
  · exact hrecover
  dsimp only
  split
  · exact hrecover
  cases record.decision with
  | none => exact hrecover
  | some decision =>
      cases record.incident with
      | none => exact hrecover
      | some incident =>
          cases hresult : OrchestrationResult.make decision (some incident) (some request)
            (some investigationResult) with
          | error _ =>
              simp only [hresult, evaluate]
              exact hrecover
          | ok result =>
              have hcomplete : Spends maxSeconds started (do
                  let completed ← repository (.completeProcessing attempt.attemptId result)
                  let durable ← orReread completed record.processingId
                  observeWhen (durable.state = .completed) (.transition "submitted" "completed")
                  return durable) :=
                (spends_repository rfl).bind fun completed =>
                  (orReread_spends completed _).bind fun durable => count_spends durable _ _
              simp only [hresult, evaluate]
              exact hcomplete h' hready'

theorem pollSubmitted_spends :
    Spends maxSeconds started (pollSubmitted o record attempt (some (started + maxSeconds))) := by
  unfold pollSubmitted
  cases record.investigationRequest with
  | none => exact recover_spends _ _ _ _ _ _ _ _
  | some request =>
  cases record.selectedBackend with
  | none => exact recover_spends _ _ _ _ _ _ _ _
  | some backendName =>
  cases attempt.externalOperationId with
  | none => exact recover_spends _ _ _ _ _ _ _ _
  | some externalOperationId =>
  dsimp only
  cases o.backendForName backendName with
  | none => exact recover_spends _ _ _ _ _ _ _ _
  | some backend =>
  refine spends_remaining_bind (fun _ => spends_pure record) fun m h hready haffordable => ?_
  rw [Interleaving.Proc.wp_bind, Interleaving.Proc.wp_catching, Interleaving.Proc.wp_bind, wp_poll]
  refine ⟨hready.affords (haffordable _ ?_), fun answer h' hstep => ?_⟩
  · rintro timeout ⟨⟩
    rfl
  have hready' := hready.step hstep rfl
  have hrecover : ∀ detail, Spends maxSeconds started (recover attempt.attemptId .submitted
      "backend_protocol_error" detail record.processingId backendName) :=
    fun detail => recover_spends _ _ _ _ _ _ _ _
  rcases answer with error | _ | status
  · cases error with
    | timeoutError => exact ((spends_repository rfl).bind fun _ => reread_spends _) h' hready'
    | _ =>
        exact hrecover "known backend operation status was not safely interpretable" h' hready'
  · exact hrecover "known backend operation status was not safely interpretable" h' hready'
  refine (?_ : Spends maxSeconds started _) h' hready'
  dsimp only
  cases status.state with
  | none => exact hrecover _
  | some state =>
  cases state with
  | nonterminal => exact (spends_repository rfl).bind fun _ => reread_spends _
  | failed =>
      exact (spends_repository rfl).bind fun _ => (spends_repository rfl).bind fun failed =>
        (orReread_spends failed _).bind fun durable => count_spends durable _ _
  | succeeded => exact collect_spends

theorem persistSubmitted_spends (submitted : SubmittedOperation) :
    Spends maxSeconds started (persistSubmitted o record attempt backendName submitted
      (some (started + maxSeconds))) := by
  refine (spends_perform rfl).bind fun _ => (spends_repository rfl).catching.bind fun answer => ?_
  rcases answer with error | _ | durableAttempt
  · exact (spends_repository rfl).catching.bind fun _ => spends_throw _
  · exact reread_spends _
  · exact (spends_perform rfl).bind fun _ => (reread_spends _).bind fun _ => pollSubmitted_spends

/-- What follows a claim: the submission if time is left, and giving the claim up if not. -/
theorem submitClaimed_spends {claimed : ExecutionAttempt} {h : List Observation}
    (hstarted : (readings h).head? = some started) (hclaimed : lastClaimed h = some claimed) :
    Interleaving.Proc.wp ownStep (Budgeted maxSeconds) (fun _ h' => Ready started h')
      (submitClaimed o record claimed backend request backendName (some (started + maxSeconds)))
      h := by
  unfold submitClaimed
  rw [wp_observe_bind]
  refine ⟨.of_quiet rfl rfl, fun h₁ hstep => ?_⟩
  have hstarted₁ := head_readings_step hstep hstarted
  have hclaimed₁ := (lastClaimed_of_quiet hstep rfl).trans hclaimed
  rw [Interleaving.Proc.wp_bind, wp_remaining]
  refine ⟨.of_quiet rfl rfl, fun m h₂ hstep => ?_⟩
  have hclaimed₂ := (lastClaimed_of_quiet hstep rfl).trans hclaimed₁
  cases hexhausted : exhausted (some (started + maxSeconds - m)) with
  | true =>
      simp only [hexhausted, if_true]
      rw [recover, Interleaving.Proc.wp_bind, wp_repository]
      refine ⟨⟨nofun, fun _ other hother => .inr ?_⟩, fun recovery h₃ hstep' => ?_⟩
      · rw [hclaimed₂, Option.some.injEq] at hother
        rw [← hother]
        rfl
      have hready : Ready started h₃ :=
        ⟨head_readings_step hstep' (head_readings_step hstep hstarted₁),
          lastClaimed_of_act hstep' rfl⟩
      cases recovery with
      | error e => exact hready
      | ok recovery =>
          exact ((orReread_spends recovery _).bind
            fun durable => count_spends durable _ _) h₃ hready
  | false =>
      simp only [hexhausted, Bool.false_eq_true, if_false]
      rw [Interleaving.Proc.wp_bind, Interleaving.Proc.wp_catching, Interleaving.Proc.wp_bind,
        wp_submit]
      refine ⟨⟨fun _ => affordable_of_reading hstep hstarted₁ (lt_of_not_exhausted hexhausted) ?_,
        fun _ _ _ => .inl rfl⟩, fun answer h₃ hstep' => ?_⟩
      · rintro timeout ⟨⟩
        rfl
      have hready : Ready started h₃ :=
        ⟨head_readings_step hstep' (head_readings_step hstep hstarted₁),
          lastClaimed_of_act hstep' rfl⟩
      have hunknown : Spends maxSeconds started (do
          observe (.submission backendName "error")
          let recovery ← repository (.markRecoveryRequired claimed.attemptId [.submitting]
            "backend_submission_unknown" "backend submission outcome is unknown")
          let durable ← orReread recovery record.processingId
          observeWhen (durable.state = .recoveryRequired)
            (.transition "submitting" "recovery_required")
          observeWhen (durable.state = .recoveryRequired)
            (.recoveryRequired backendName "backend_submission_unknown")
          return durable) :=
        (spends_perform rfl).bind fun _ => (spends_repository rfl).bind fun recovery =>
          (orReread_spends recovery _).bind fun durable => (spends_observeWhen _ _).bind fun _ =>
            count_spends durable _ _
      rcases answer with error | _ | submitted
      · cases error with
        | backendSubmissionRejected =>
            refine (?_ : Spends maxSeconds started _) h₃ hready
            exact (spends_perform rfl).bind fun _ => (spends_repository rfl).bind fun failed =>
              (orReread_spends failed _).bind fun durable => count_spends durable _ _
        | _ => exact hunknown h₃ hready
      · exact hunknown h₃ hready
      · exact persistSubmitted_spends submitted h₃ hready

theorem submit_spends :
    Spends maxSeconds started (submit o record attempt (some (started + maxSeconds))) := by
  unfold submit
  cases record.investigationRequest with
  | none => exact spends_throw _
  | some request =>
  cases record.selectedBackend with
  | none => exact spends_throw _
  | some backendName =>
  dsimp only
  cases o.backendForName backendName with
  | none =>
      refine (spends_repository rfl).bind fun failed => ?_
      cases failed with
      | none => exact reread_spends _
      | some failed => exact spends_pure failed
  | some backend =>
  refine spends_remaining_bind (fun _ => spends_pure record) fun m h hready haffordable => ?_
  rw [Interleaving.Proc.wp_bind, Interleaving.Proc.wp_catching, wp_repository]
  refine ⟨hready.affords (haffordable _ nofun), fun answer h' hstep => ?_⟩
  have hstarted := head_readings_step hstep hready.started
  rcases answer with error | _ | claimed
  · exact (⟨hstarted, lastClaimed_of_act hstep rfl⟩ : Ready started h')
  · exact reread_spends _ h' ⟨hstarted, lastClaimed_of_act hstep rfl⟩
  · exact submitClaimed_spends hstarted (lastClaimed_of_act hstep rfl)

theorem failWithoutAttempt_spends (category detail : String) :
    Spends maxSeconds started (failWithoutAttempt record category detail) := by
  refine (spends_repository rfl).catching.bind fun answer => ?_
  rcases answer with error | _ | failed
  · exact spends_throw _
  · exact spends_pure none
  · exact (spends_perform rfl).bind fun _ => spends_pure (some failed)

theorem plan_spends (alert : CanonicalAlert) : Spends maxSeconds started (o.plan alert) := by
  refine (spends_decide alert).bind fun decision => ?_
  split
  · exact spends_throw _
  cases decision.outcome with
  | noAction => exact spends_evaluate _
  | investigate =>
      refine (spends_evaluate _).bind fun incident => (spends_requestFactory incident).bind
        fun request => ?_
      split
      · exact spends_throw _
      · exact (spends_evaluate _).bind fun backend => spends_evaluate _

theorem carryOut_spends (plan : PlanningResult) :
    Spends maxSeconds started (carryOut o record plan (some (started + maxSeconds))) := by
  unfold carryOut
  split
  · refine (spends_evaluate _).bind fun result => (spends_repository rfl).catching.bind
      fun answer => ?_
    cases answer with
    | error e => exact spends_throw _
    | ok completed =>
        exact (orReread_spends completed _).bind fun durable => count_spends durable _ _
  cases plan.incident with
  | none => exact spends_throw _
  | some incident =>
  cases plan.investigationRequest with
  | none => exact spends_throw _
  | some request =>
  cases plan.backend with
  | none => exact spends_throw _
  | some backend =>
  refine (spends_perform rfl).bind fun attemptId => (spends_perform rfl).bind fun operationKey =>
    (spends_repository rfl).catching.bind fun answer => ?_
  rcases answer with error | _ | planned
  · exact spends_throw _
  · exact reread_spends _
  · exact (spends_perform rfl).bind fun _ => submit_spends

theorem advanceAccepted_spends :
    Spends maxSeconds started (advanceAccepted o record (some (started + maxSeconds))) := by
  refine (plan_spends record.alert).catching.bind fun answer => ?_
  cases answer with
  | ok plan => exact carryOut_spends plan
  | error error =>
      cases error with
      | unsupportedCapabilities requested facts =>
          exact (failWithoutAttempt_spends _ _).bind fun _ => spends_throw _
      | ambiguousBackend requested eligible facts =>
          exact (failWithoutAttempt_spends _ _).bind fun _ => spends_throw _
      | _ =>
          refine (failWithoutAttempt_spends "backend_selection_error"
            "processing planning failed").bind fun failed => ?_
          cases failed with
          | none => exact reread_spends _
          | some failed => exact spends_throw _

/-- Reading the attempt of a record, and going on with it if there is one. -/
theorem getAttempt_bind_spends {p : ExecutionAttempt → Proc ProcessingRecord}
    (hp : ∀ attempt, Spends maxSeconds started (p attempt)) :
    Spends maxSeconds started (do
      match ← repository (.getAttemptForProcessing record.processingId) with
      | none => return record
      | some attempt => p attempt) := by
  refine (spends_repository rfl).bind fun found => ?_
  cases found with
  | none => exact spends_pure record
  | some attempt => exact hp attempt

theorem reconcileRecord_spends :
    Spends maxSeconds started (reconcileRecord o record (started + maxSeconds)) := by
  unfold reconcileRecord
  cases record.state with
  | accepted => exact advanceAccepted_spends
  | planned => exact getAttempt_bind_spends fun attempt => submit_spends
  | submitting =>
      exact (spends_perform rfl).bind fun _ =>
        getAttempt_bind_spends fun attempt => recover_spends _ _ _ _ _ _ _ _
  | submitted => exact getAttempt_bind_spends fun attempt => pollSubmitted_spends
  | _ => exact spends_pure record

theorem examine_spends (records : List ProcessingRecord) (report : ReconciliationReport) :
    Spends maxSeconds started (examine o (started + maxSeconds) records report) := by
  induction records generalizing report with
  | nil => exact spends_pure report
  | cons record rest ih =>
      have hrest : ∀ report : ReconciliationReport, Spends maxSeconds started (do
          let remaining ← remainingReconciliationSeconds (some (started + maxSeconds))
          if exhausted remaining then
            return ({ report with timeLimitReached := true } : ReconciliationReport)
          else examine o (started + maxSeconds) rest report) := fun report =>
        spends_remaining_bind (fun _ => spends_pure _) fun m h hready _ => ih report h hready
      refine spends_remaining_bind (fun _ => spends_pure _) fun m h hready _ => ?_
      refine (?_ : Spends maxSeconds started _) h hready
      refine (spends_repository rfl).bind fun _ => reconcileRecord_spends.catching.bind
        fun answer => ?_
      cases answer with
      | error e => exact (spends_perform rfl).bind fun _ => hrest _
      | ok after => exact (spends_perform rfl).bind fun _ => hrest _

/-- A pass keeps to its budget from its first call to its last, and leaves no claim behind. -/
theorem reconcileOnce_budgeted (limit : Int) (staleAfter : Int) :
    Interleaving.Proc.wp ownStep (Budgeted maxSeconds) (fun _ h => lastClaimed h = none)
      (reconcileOnce o limit maxSeconds staleAfter) [] := by
  unfold reconcileOnce
  split
  · exact rfl
  rw [Interleaving.Proc.wp_bind]
  refine ⟨.of_quiet rfl rfl, fun (m : Rat) h hstep => ?_⟩
  have hready : Ready m h :=
    ⟨by rw [readings_step hstep]; rfl, lastClaimed_of_quiet hstep rfl⟩
  have hpass : Spends maxSeconds m (do
      let now ← wallClock
      let staleBefore : Datetime := { now with micros := now.micros - staleAfter }
      let records ← repository (.findReconcilable limit staleBefore)
      examine o (m + maxSeconds) records ⟨0, 0, 0, false⟩) :=
    (spends_perform rfl).bind fun now => (spends_repository rfl).bind fun records =>
      examine_spends records _
  refine (?_ : Interleaving.Proc.wp ownStep (Budgeted maxSeconds)
    (fun _ h => lastClaimed h = none) _ h)
  exact Interleaving.Proc.wp_mono (hpass h hready) fun _ _ hready => hready.unclaimed

end PersistentAlertProcessor

/-- What an invocation may call next, as far as budgets go. A delivery has none. -/
def Invocation.Budgeted : Invocation → List Observation → Call → Prop
  | .process .., _, _ => True
  | .reconcileOnce _ _ maxSeconds _, h, c => Alert2IR.Budgeted maxSeconds h c

/-- A pass that has returned has left no claim behind. -/
def Invocation.Concluded : Invocation → Except PyError Outcome → List Observation → Prop
  | .process .., _, _ => True
  | .reconcileOnce .., _, h => lastClaimed h = none

/-- **Every pass keeps to its budget**, whatever it is answered. -/
theorem invocation_budgeted {fp : CanonicalAlert → Except PyError (Int × List UInt8)}
    (i : Invocation) : (i.procedure fp).run.wp ownStep i.Budgeted i.Concluded [] := by
  cases i with
  | process o alert key =>
      exact Prog.wp_mono (Prog.wp_returns (.refl _) fun _ _ => trivial) fun _ _ _ => trivial
  | reconcileOnce o limit maxSeconds staleAfter =>
      refine (Interleaving.Proc.wp_bind ..).mpr (Interleaving.Proc.wp_mono
        (PersistentAlertProcessor.reconcileOnce_budgeted limit staleAfter) ?_)
      rintro (e | report) h hconcluded
      · exact hconcluded
      · exact hconcluded

end Alert2IR
