import Alert2IR.Application.CallSites
import Alert2IR.Application.Orchestrator
import Alert2IR.Interleaving.Solo

/-!
# When durable processing is unavailable

`process` ends with `PersistenceUnavailableError` exactly if the repository has failed one of its
calls in a way that some handler replaces by this exception, or has raised it itself.
-/

namespace Alert2IR

open Interleaving

/-- The operations whose exceptions a handler replaces by `PersistenceUnavailableError`. -/
def RepositoryCall.guarded : RepositoryCall → Bool
  | acceptProcessing .. | storeNoActionResult .. | storePlan .. | claimAttemptForSubmission _
  | markAttemptSubmitted .. => true
  | failProcessing _ _ _ _ attemptId => attemptId.isNone
  | _ => false

def PyError.isUnavailable : PyError → Bool
  | .persistenceUnavailable _ => true
  | _ => false

/-- Whether a record that has been accepted is not found again. -/
def RepositoryCall.missing : (c : RepositoryCall) → c.Result → Bool
  | get _, found => found.isNone
  | _, _ => false

/-- Whether a repository call was answered as if durable processing were unavailable. -/
def Observation.unavailable : Observation → Bool
  | ⟨.repository c, .error e⟩ => c.guarded || e.isUnavailable
  | ⟨.repository c, .ok x⟩ => c.missing x
  | _ => false

/-- Whether one of the calls was answered so. -/
def unavailable (h : List Observation) : Bool := h.any Observation.unavailable

/-- Whether a procedure ended so. -/
def endsUnavailable {α : Type} : Except PyError α → Bool
  | .error e => e.isUnavailable
  | .ok _ => false

/-- The first repository call that raised, and what it raised. -/
def firstRaise (h : List Observation) : Option (RepositoryCall × PyError) :=
  h.findSome? fun
    | ⟨.repository c, .error e⟩ => some (c, e)
    | _ => none

/-- Nothing has failed so far. -/
def Steady (h : List Observation) : Prop := unavailable h = false ∧ firstRaise h = none

/-- A handler has been entered. -/
def Failed (h : List Observation) : Prop :=
  unavailable h = true ∧ ∃ c e, firstRaise h = some (c, e) ∧ c.guarded = true

/-- How a procedure may end: with `PersistenceUnavailableError` exactly if a call was answered as if
durable processing were unavailable, and with the exception of the first call that raised where no
handler stands around that. -/
def Settled {α : Type} (r : Except PyError α) (h : List Observation) : Prop :=
  endsUnavailable r = unavailable h ∧
    ∀ c e, firstRaise h = some (c, e) → if c.guarded then endsUnavailable r = true else r = .error e

def Settles {α : Type} (h : List Observation) (p : Proc α) : Prop :=
  Interleaving.Proc.wp ownStep (fun _ _ => True) Settled p h

def Call.isRepository : Call → Bool
  | .repository _ => true
  | _ => false

def RepositoryCall.isGet : RepositoryCall → Bool
  | get _ => true
  | _ => false

/-- A procedure that leaves the repository alone. -/
def Away {α : Type} (p : Proc α) : Prop :=
  Interleaving.Proc.Only (fun c => c.isRepository = false) p

section Rules

variable {α β : Type} {h h' : List Observation}

@[simp]
theorem unavailable_append (h h' : List Observation) :
    unavailable (h ++ h') = (unavailable h || unavailable h') := List.any_append

theorem unavailable_of_step {c : Call} {r : c.Response} (hstep : ownStep h c r h') :
    unavailable h' = (unavailable h || Observation.unavailable ⟨c, r⟩) := by
  rw [hstep, unavailable_append]
  simp [unavailable]

theorem Observation.unavailable_of_away {c : Call} (hc : c.isRepository = false)
    (r : c.Response) : Observation.unavailable ⟨c, r⟩ = false := by
  cases c with
  | repository operation => cases hc
  | _ => rfl

theorem firstRaise_of_step {c : Call} {r : c.Response} (hstep : ownStep h c r h') :
    firstRaise h' = (firstRaise h).or (firstRaise [⟨c, r⟩]) := by
  rw [hstep]
  exact List.findSome?_append

theorem firstRaise_of_away {c : Call} (hc : c.isRepository = false) (r : c.Response) :
    firstRaise [⟨c, r⟩] = none := by
  cases c with
  | repository operation => cases hc
  | _ => rfl

/-- A step that is not the repository's changes nothing. -/
theorem Steady.away {c : Call} {r : c.Response} (hsteady : Steady h) (hc : c.isRepository = false)
    (hstep : ownStep h c r h') : Steady h' := by
  constructor
  · rw [unavailable_of_step hstep, hsteady.1, Observation.unavailable_of_away hc, Bool.or_false]
  · rw [firstRaise_of_step hstep, hsteady.2, firstRaise_of_away hc, Option.or_none]

theorem Steady.settled (hsteady : Steady h) {r : Except PyError α}
    (hr : endsUnavailable r = false) : Settled r h := by
  refine ⟨hr.trans hsteady.1.symm, fun c e hfirst => ?_⟩
  cases hsteady.2.symm.trans hfirst

theorem Failed.settled (hfailed : Failed h) {r : Except PyError α}
    (hr : endsUnavailable r = true) : Settled r h := by
  obtain ⟨hunavailable, c', e', hfirst', hguarded⟩ := hfailed
  refine ⟨hr.trans hunavailable.symm, fun c e hfirst => ?_⟩
  cases hfirst.symm.trans hfirst'
  rw [if_pos hguarded]
  exact hr

/-- The first exception remains the first. -/
theorem Failed.step {c : Call} {r : c.Response} (hfailed : Failed h) (hstep : ownStep h c r h') :
    Failed h' := by
  obtain ⟨hunavailable, c', e', hfirst, hguarded⟩ := hfailed
  refine ⟨?_, c', e', ?_, hguarded⟩
  · rw [unavailable_of_step hstep, hunavailable, Bool.true_or]
  · rw [firstRaise_of_step hstep, hfirst, Option.some_or]

/-- A procedure that returns a value leaves nothing failed behind. -/
theorem Settled.steady {a : α} (hsettled : Settled (.ok a) h) : Steady h := by
  refine ⟨hsettled.1.symm, ?_⟩
  cases hfirst : firstRaise h with
  | none => rfl
  | some raise =>
      have hraise := hsettled.2 raise.1 raise.2 hfirst
      split at hraise
      · cases hraise
      · cases hraise

theorem Settled.error {e : PyError} (hsettled : Settled (.error e : Except PyError α) h) :
    Settled (.error e : Except PyError β) h := by
  refine ⟨hsettled.1, fun c e' hfirst => ?_⟩
  have hraise := hsettled.2 c e' hfirst
  cases hguarded : c.guarded with
  | true => simpa [hguarded, endsUnavailable] using hraise
  | false => simpa [hguarded] using hraise

theorem settles_pure (hsteady : Steady h) (a : α) : Settles h (pure a : Proc α) :=
  hsteady.settled rfl

theorem settles_throw (hsteady : Steady h) {e : PyError} (he : e.isUnavailable = false) :
    Settles h (throw e : Proc α) := hsteady.settled he

/-- Replacing an exception. -/
theorem settles_unavailable (hfailed : Failed h) (message : String) :
    Settles h (throw (.persistenceUnavailable message) : Proc α) := hfailed.settled rfl

theorem settles_evaluate (hsteady : Steady h) {x : Except PyError α}
    (hx : endsUnavailable x = false) : Settles h (Proc.evaluate x) := by
  cases x with
  | ok a => exact settles_pure hsteady a
  | error e => exact settles_throw hsteady hx

theorem Settles.bind {p : Proc α} {f : α → Proc β} (hp : Settles h p)
    (hf : ∀ a h', Steady h' → Settles h' (f a)) : Settles h (p >>= f) := by
  rw [Settles, Interleaving.Proc.wp_bind]
  refine Interleaving.Proc.wp_mono hp fun r h' hr => ?_
  cases r with
  | ok a => exact hf a h' hr.steady
  | error e => exact hr.error

/-- What a repository call answers where nothing has failed before. -/
theorem Steady.raise {c : RepositoryCall} {e : PyError} (hsteady : Steady h)
    (hstep : ownStep h (.repository c) (.error e : Except PyError c.Result) h') :
    unavailable h' = (c.guarded || e.isUnavailable) ∧ firstRaise h' = some (c, e) := by
  constructor
  · rw [unavailable_of_step hstep, hsteady.1, Bool.false_or]
    rfl
  · rw [firstRaise_of_step hstep, hsteady.2, Option.none_or]
    rfl

theorem Steady.answer {c : RepositoryCall} {x : c.Result} (hsteady : Steady h)
    (hget : c.missing x = false)
    (hstep : ownStep h (.repository c) (.ok x : Except PyError c.Result) h') : Steady h' := by
  constructor
  · rw [unavailable_of_step hstep, hsteady.1, Bool.false_or]
    exact hget
  · rw [firstRaise_of_step hstep, hsteady.2, Option.none_or]
    rfl

theorem RepositoryCall.missing_of_isGet {c : RepositoryCall} (hget : c.isGet = false)
    (x : c.Result) : c.missing x = false := by
  cases c with
  | get k => cases hget
  | _ => rfl

/-- The exception of a call outside every handler goes on as it is. -/
theorem Steady.settled_raise {c : RepositoryCall} {e : PyError} (hsteady : Steady h)
    (hunguarded : c.guarded = false)
    (hstep : ownStep h (.repository c) (.error e : Except PyError c.Result) h') :
    Settled (.error e : Except PyError α) h' := by
  obtain ⟨hunavailable, hfirst⟩ := hsteady.raise hstep
  refine ⟨?_, fun c' e' hfirst' => ?_⟩
  · rw [hunavailable, hunguarded, Bool.false_or]
    rfl
  · cases hfirst.symm.trans hfirst'
    rw [hunguarded, if_neg Bool.false_ne_true]

/-- A call that is made outside every handler. -/
theorem settles_repository (hsteady : Steady h) {c : RepositoryCall}
    (hunguarded : c.guarded = false) (hget : c.isGet = false) :
    Settles h (Proc.repository c) := by
  refine ⟨trivial, fun r h' hstep => ?_⟩
  cases r with
  | error e => exact hsteady.settled_raise hunguarded hstep
  | ok x => exact (hsteady.answer (RepositoryCall.missing_of_isGet hget x) hstep).settled rfl

/-- A call in a handler that replaces its exception. -/
theorem settles_guarded_bind (hsteady : Steady h) {c : RepositoryCall}
    (hguarded : c.guarded = true) {f : Except PyError c.Result → Proc β}
    (herror : ∀ e h', Failed h' → Settles h' (f (.error e)))
    (hok : ∀ x h', Steady h' → Settles h' (f (.ok x))) :
    Settles h (Interleaving.Proc.catching (Proc.repository c) >>= f) := by
  rw [Settles, Interleaving.Proc.wp_bind, Interleaving.Proc.wp_catching]
  refine ⟨trivial, fun r h' hstep => ?_⟩
  cases r with
  | error e =>
    obtain ⟨hunavailable, hfirst⟩ := hsteady.raise hstep
    rw [hguarded, Bool.true_or] at hunavailable
    exact herror e h' ⟨hunavailable, c, e, hfirst, hguarded⟩
  | ok x =>
    refine hok x h' (hsteady.answer (RepositoryCall.missing_of_isGet ?_ x) hstep)
    cases c with
    | get => cases hguarded
    | _ => rfl

/-- What leaves the repository alone, in a handler or not, changes nothing. -/
theorem Away.wp {p : Proc α} (hp : Away p) (hsteady : Steady h)
    {Q : Except PyError α → List Observation → Prop} (hQ : ∀ r h', Steady h' → Q r h') :
    Interleaving.Proc.wp ownStep (fun _ _ => True) Q p h := by
  have hprog : ∀ (q : Prog Call Call.Response (Except PyError α)) (h₁ : List Observation),
      q.Only (fun c => c.isRepository = false) → Steady h₁ →
      q.wp ownStep (fun _ _ => True) Q h₁ := by
    intro q
    induction q with
    | pure r => exact fun h₁ _ hsteady => hQ r h₁ hsteady
    | call c k ih =>
      intro h₁ honly hsteady
      exact ⟨trivial, fun r h' hstep => ih r h' (honly.2 r) (hsteady.away honly.1 hstep)⟩
  exact hprog p.run h hp hsteady

theorem Away.catching_bind {p : Proc α} {f : Except PyError α → Proc β} (hp : Away p)
    (hsteady : Steady h) (hf : ∀ r h', Steady h' → Settles h' (f r)) :
    Settles h (Interleaving.Proc.catching p >>= f) := by
  rw [Settles, Interleaving.Proc.wp_bind, Interleaving.Proc.wp_catching]
  exact hp.wp hsteady hf

theorem settles_perform {c : Call} (hc : c.isRepository = false) (hsteady : Steady h) :
    Settles h (Interleaving.Proc.perform c : Proc (Call.Response c)) :=
  ⟨trivial, fun _ _ hstep => (hsteady.away hc hstep).settled rfl⟩

theorem settles_observe (what : Observed) (hsteady : Steady h) :
    Settles h (Proc.observe what) := settles_perform rfl hsteady

theorem settles_observeWhen (condition : Bool) (what : Observed) (hsteady : Steady h) :
    Settles h (Proc.observeWhen condition what) := by
  cases condition
  · exact settles_pure hsteady ()
  · exact settles_observe what hsteady

end Rules

namespace PersistentAlertProcessor

variable {o : AlertOrchestrator} {h : List Observation} {record : ProcessingRecord}
  {attempt : ExecutionAttempt} {backend : Backend} {request : InvestigationRequest}
  {backendName externalOperationId : String} {deadline : Option Rat}

theorem reread_settles (hsteady : Steady h) (k : UUID) : Settles h (reread k) := by
  unfold reread
  rw [Settles, Interleaving.Proc.wp_bind]
  refine ⟨trivial, fun r h' hstep => ?_⟩
  rcases r with e | _ | found
  · exact hsteady.settled_raise rfl hstep
  · -- The record is missing, and nothing has raised.
    have hafter : unavailable h' = true := by
      rw [unavailable_of_step hstep, hsteady.1, Bool.false_or]
      rfl
    have hnone : firstRaise h' = none := by
      rw [firstRaise_of_step hstep, hsteady.2, Option.none_or]
      rfl
    exact ⟨hafter.symm, fun c e hfirst => nomatch hnone.symm.trans hfirst⟩
  · exact settles_pure (hsteady.answer (c := .get k) (x := some found) rfl hstep) found

theorem orReread_settles (hsteady : Steady h) (updated : Option ProcessingRecord)
    (k : UUID) : Settles h (orReread updated k) := by
  cases updated with
  | none => exact reread_settles hsteady k
  | some record => exact settles_pure hsteady record

/-- How most branches end. -/
theorem settle_settles (hsteady : Steady h) (updated : Option ProcessingRecord) (k : UUID)
    (condition : ProcessingRecord → Bool) (what : Observed) :
    Settles h (do
      let durable ← orReread updated k
      Proc.observeWhen (condition durable) what
      return durable) :=
  (orReread_settles hsteady updated k).bind fun durable _ hsteady =>
    (settles_observeWhen _ what hsteady).bind fun _ _ hsteady => settles_pure hsteady durable

theorem remaining_settles (hsteady : Steady h) (deadline : Option Rat) :
    Settles h (remainingReconciliationSeconds deadline) := by
  cases deadline with
  | none => exact settles_pure hsteady none
  | some deadline =>
    exact (settles_perform rfl hsteady).bind fun now _ hsteady => settles_pure hsteady _

theorem recover_settles (hsteady : Steady h) (attemptId : UUID)
    (expected : ExecutionAttemptState) (category detail : String) (k : UUID) (name : String) :
    Settles h (recover attemptId expected category detail k name) :=
  (settles_repository hsteady rfl rfl).bind fun recovery _ hsteady =>
    settle_settles hsteady recovery k (fun durable => durable.state = .recoveryRequired) _

theorem only_evaluate {α : Type} {P : Call → Prop} (x : Except PyError α) :
    Interleaving.Proc.Only P (Proc.evaluate x) := by
  cases x with
  | ok a => exact trivial
  | error e => exact trivial

/-- Planning asks the policy and the request factory, and nothing else. -/
theorem only_plan {P : Call → Prop} (hdecide : ∀ alert, P (.decide alert))
    (hfactory : ∀ incident, P (.requestFactory incident)) (alert : CanonicalAlert) :
    Interleaving.Proc.Only P (o.plan alert) := by
  unfold AlertOrchestrator.plan
  refine .bind ⟨hdecide alert, fun _ => trivial⟩ fun decision => ?_
  split
  · exact .throw _
  split
  · exact only_evaluate _
  · refine .bind (only_evaluate _) fun incident => ?_
    refine .bind ⟨hfactory incident, fun _ => trivial⟩ fun request => ?_
    split
    · exact .throw _
    · exact .bind (only_evaluate _) fun backend => only_evaluate _

theorem away_plan (alert : CanonicalAlert) : Away (o.plan alert) :=
  only_plan (P := fun c => c.isRepository = false) (fun _ => rfl) (fun _ => rfl) alert

theorem collect_settles (hsteady : Steady h) {remoteState : String} :
    Settles h (collect record attempt backend request backendName externalOperationId remoteState
      deadline) := by
  unfold collect
  refine (settles_repository hsteady rfl rfl).bind fun _ h₁ hsteady => ?_
  refine (remaining_settles hsteady deadline).bind fun budget h₂ hsteady => ?_
  split
  · exact reread_settles hsteady _
  refine Away.catching_bind ?_ hsteady fun r h₃ hsteady => ?_
  · refine .bind ⟨rfl, fun _ => trivial⟩ fun answer => ?_
    split
    · exact .throw _
    split
    · exact .throw _
    split
    · exact only_evaluate _
    · exact .throw _
  · cases r with
    | error e => exact recover_settles hsteady _ _ _ _ _ _
    | ok result =>
      exact (settles_repository hsteady rfl rfl).bind fun completed _ hsteady =>
        settle_settles hsteady completed _ (fun durable => durable.state = .completed) _

theorem pollSubmitted_settles (hsteady : Steady h) :
    Settles h (pollSubmitted o record attempt deadline) := by
  unfold pollSubmitted
  split
  · split
    · exact recover_settles hsteady _ _ _ _ _ _
    refine (remaining_settles hsteady deadline).bind fun timeout h₁ hsteady => ?_
    split
    · exact settles_pure hsteady record
    refine Away.catching_bind ?_ hsteady fun r h₂ hsteady => ?_
    · refine .bind ⟨rfl, fun _ => trivial⟩ fun answer => ?_
      split
      · exact .throw _
      · exact .pure _
    · split
      · exact (settles_repository hsteady rfl rfl).bind fun _ _ hsteady => reread_settles hsteady _
      · exact recover_settles hsteady _ _ _ _ _ _
      · split
        · exact (settles_repository hsteady rfl rfl).bind fun _ _ hsteady =>
            reread_settles hsteady _
        · refine (settles_repository hsteady rfl rfl).bind fun _ h₃ hsteady => ?_
          exact (settles_repository hsteady rfl rfl).bind fun failed _ hsteady =>
            settle_settles hsteady failed _ (fun durable => durable.state = .failed) _
        · exact collect_settles hsteady
        · exact recover_settles hsteady _ _ _ _ _ _
  · exact recover_settles hsteady _ _ _ _ _ _

theorem persistSubmitted_settles (hsteady : Steady h) {claimed : ExecutionAttempt}
    {submitted : SubmittedOperation} :
    Settles h (persistSubmitted o record claimed backendName submitted deadline) := by
  unfold persistSubmitted
  refine (settles_observe _ hsteady).bind fun _ h₁ hsteady => ?_
  refine settles_guarded_bind hsteady rfl (fun e h₂ hfailed => ?_) fun durable h₂ hsteady => ?_
  · -- whatever comes of the attempt to record the loss, the exception is replaced
    rw [Settles, Interleaving.Proc.wp_bind, Interleaving.Proc.wp_catching]
    exact ⟨trivial, fun r h₃ hstep => settles_unavailable (hfailed.step hstep) _⟩
  · cases durable with
    | none => exact reread_settles hsteady _
    | some durableAttempt =>
      refine (settles_observe _ hsteady).bind fun _ h₃ hsteady => ?_
      exact (reread_settles hsteady _).bind fun durableRecord _ hsteady =>
        pollSubmitted_settles hsteady

theorem submitClaimed_settles (hsteady : Steady h) {claimed : ExecutionAttempt} :
    Settles h (submitClaimed o record claimed backend request backendName deadline) := by
  unfold submitClaimed
  refine (settles_observe _ hsteady).bind fun _ h₁ hsteady => ?_
  refine (remaining_settles hsteady deadline).bind fun timeout h₂ hsteady => ?_
  split
  · exact recover_settles hsteady _ _ _ _ _ _
  refine Away.catching_bind ?_ hsteady fun r h₃ hsteady => ?_
  · refine .bind ⟨rfl, fun _ => trivial⟩ fun answer => ?_
    split
    · exact .throw _
    · exact .pure _
  · split
    · refine (settles_observe _ hsteady).bind fun _ h₄ hsteady => ?_
      exact (settles_repository hsteady rfl rfl).bind fun failed _ hsteady =>
        settle_settles hsteady failed _ (fun durable => durable.state = .failed) _
    · refine (settles_observe _ hsteady).bind fun _ h₄ hsteady => ?_
      refine (settles_repository hsteady rfl rfl).bind fun recovery h₅ hsteady => ?_
      refine (orReread_settles hsteady recovery _).bind fun durable h₆ hsteady => ?_
      refine (settles_observeWhen _ _ hsteady).bind fun _ h₇ hsteady => ?_
      exact (settles_observeWhen _ _ hsteady).bind fun _ _ hsteady => settles_pure hsteady durable
    · exact persistSubmitted_settles hsteady

theorem submit_settles (hsteady : Steady h) :
    Settles h (submit o record attempt deadline) := by
  unfold submit
  split
  · split
    · exact (settles_repository hsteady rfl rfl).bind fun failed _ hsteady =>
        orReread_settles hsteady failed _
    refine (remaining_settles hsteady deadline).bind fun timeout h₁ hsteady => ?_
    split
    · exact settles_pure hsteady record
    refine settles_guarded_bind hsteady rfl (fun e h₂ hfailed => settles_unavailable hfailed _)
      fun claimed h₂ hsteady => ?_
    cases claimed with
    | none => exact reread_settles hsteady _
    | some claimed => exact submitClaimed_settles hsteady
  · exact settles_throw hsteady rfl

theorem failWithoutAttempt_settles (hsteady : Steady h) (category detail : String) :
    Settles h (failWithoutAttempt record category detail) := by
  unfold failWithoutAttempt
  refine settles_guarded_bind hsteady rfl (fun e h₁ hfailed => settles_unavailable hfailed _)
    fun failed h₁ hsteady => ?_
  cases failed with
  | none => exact settles_pure hsteady none
  | some failed => exact (settles_observe _ hsteady).bind fun _ _ hsteady => settles_pure hsteady _

theorem carryOut_settles (hsteady : Steady h) {plan : PlanningResult} :
    Settles h (carryOut o record plan deadline) := by
  unfold carryOut
  split
  · next houtcome =>
    have hmake : endsUnavailable (OrchestrationResult.make plan.decision none none none) =
      false := by
      unfold OrchestrationResult.make
      split
      · rfl
      · next e herror => simp [OrchestrationResult.postInit, houtcome, checks] at herror
    refine (settles_evaluate hsteady hmake).bind fun result h₁ hsteady => ?_
    exact settles_guarded_bind hsteady rfl (fun e h₂ hfailed => settles_unavailable hfailed _)
      fun completed h₂ hsteady =>
        settle_settles hsteady completed _ (fun durable => durable.state = .completed) _
  · split
    · refine (settles_perform rfl hsteady).bind fun attemptId h₁ hsteady => ?_
      refine (settles_perform rfl hsteady).bind fun operationKey h₂ hsteady => ?_
      refine settles_guarded_bind hsteady rfl (fun e h₃ hfailed => settles_unavailable hfailed _)
        fun planned h₃ hsteady => ?_
      cases planned with
      | none => exact reread_settles hsteady _
      | some planned =>
        exact (settles_observe _ hsteady).bind fun _ _ hsteady => submit_settles hsteady
    · exact settles_throw hsteady rfl

theorem advanceAccepted_settles (hsteady : Steady h) :
    Settles h (advanceAccepted o record deadline) := by
  unfold advanceAccepted
  refine (away_plan record.alert).catching_bind hsteady fun r h₁ hsteady => ?_
  split
  · exact (failWithoutAttempt_settles hsteady _ _).bind fun _ _ hsteady => settles_throw hsteady rfl
  · exact (failWithoutAttempt_settles hsteady _ _).bind fun _ _ hsteady => settles_throw hsteady rfl
  · refine (failWithoutAttempt_settles hsteady _ _).bind fun failed h₂ hsteady => ?_
    cases failed with
    | none => exact reread_settles hsteady _
    | some failed => exact settles_throw hsteady rfl
  · exact carryOut_settles hsteady

theorem steady_nil : Steady [] := ⟨rfl, rfl⟩

theorem process_settles {fp : CanonicalAlert → Except PyError (Int × List UInt8)}
    {alert : CanonicalAlert} {key : String} (hfp : endsUnavailable (fp alert) = false) :
    Settles [] (process o fp alert key) := by
  unfold process
  refine (settles_evaluate steady_nil hfp).bind fun fingerprint h₁ hsteady => ?_
  refine (settles_perform rfl hsteady).bind fun processingId h₂ hsteady => ?_
  refine settles_guarded_bind hsteady rfl (fun e h₃ hfailed => settles_unavailable hfailed _)
    fun acceptance h₃ hsteady => ?_
  dsimp only
  split
  · exact (settles_observe _ hsteady).bind fun _ _ hsteady => settles_throw hsteady rfl
  split
  · exact (settles_observe _ hsteady).bind fun _ _ hsteady => settles_pure hsteady _
  · refine (settles_observe _ hsteady).bind fun _ h₄ hsteady => ?_
    refine (settles_observe _ hsteady).bind fun _ h₅ hsteady => ?_
    exact (advanceAccepted_settles hsteady).bind fun advanced _ hsteady =>
      settles_pure hsteady _

end PersistentAlertProcessor

end Alert2IR
