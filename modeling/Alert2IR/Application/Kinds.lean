import Alert2IR.Application.Availability
import Alert2IR.Lifecycle.Store

/-!
# Kinds of procedures

Everything the processor does with one processing is put together from few pieces: steps that change
no state of a processing, and at the end of each branch one compare-and-set, the reread if it was
lost, and the count. What is kept by these pieces is kept by the whole, and it is shown once for
every kind of
procedure. -/

namespace Alert2IR

open Interleaving Interleaving.Proc

/-! ### Runs of single calls -/

section Calls

variable {h : List Observation}

theorem returns_repository_iff {c : RepositoryCall} {r : Except PyError c.Result} :
    Returns (Proc.repository c) h r ↔ h = [⟨.repository c, r⟩] := by
  refine Prog.returns_call_iff.trans ?_
  constructor
  · rintro ⟨x, h', rfl, hrest⟩
    obtain ⟨rfl, rfl⟩ := Prog.returns_pure_iff.mp hrest
    rfl
  · rintro rfl
    exact ⟨r, [], rfl, Prog.returns_pure_iff.mpr ⟨rfl, rfl⟩⟩

theorem returns_repository_bind_iff {α : Type} {c : RepositoryCall} {f : c.Result → Proc α}
    {r : Except PyError α} : Returns (Proc.repository c >>= f) h r ↔
      (∃ e, h = [⟨.repository c, (.error e : Except PyError c.Result)⟩] ∧ r = .error e) ∨
        ∃ x h', h = ⟨.repository c, (.ok x : Except PyError c.Result)⟩ :: h' ∧
          Returns (f x) h' r := by
  simp only [returns_bind_iff, returns_repository_iff]
  constructor
  · rintro (⟨e, rfl, rfl⟩ | ⟨h₁, x, h₂, rfl, rfl, hrest⟩)
    · exact .inl ⟨e, rfl, rfl⟩
    · exact .inr ⟨x, h₂, rfl, hrest⟩
  · rintro (⟨e, rfl, rfl⟩ | ⟨x, h₂, rfl, hrest⟩)
    · exact .inl ⟨e, rfl, rfl⟩
    · exact .inr ⟨_, x, h₂, rfl, rfl, hrest⟩

theorem returns_monotonic_bind_iff {α : Type} {f : Rat → Proc α} {r : Except PyError α} :
    Returns (Proc.monotonic >>= f) h r ↔
      ∃ (m : Rat) (h' : List Observation), h = ⟨.monotonic, m⟩ :: h' ∧ Returns (f m) h' r :=
  returns_perform_bind_iff

theorem returns_wallClock_bind_iff {α : Type} {f : Datetime → Proc α} {r : Except PyError α} :
    Returns (Proc.wallClock >>= f) h r ↔
      ∃ (now : Datetime) (h' : List Observation), h = ⟨.wallClock, now⟩ :: h' ∧
        Returns (f now) h' r :=
  returns_perform_bind_iff

theorem returns_observe_bind_iff {α : Type} {what : Observed} {f : Unit → Proc α}
    {r : Except PyError α} : Returns (Proc.observe what >>= f) h r ↔
      ∃ h', h = ⟨.observe what, ()⟩ :: h' ∧ Returns (f ()) h' r := by
  refine returns_perform_bind_iff.trans ?_
  constructor
  · rintro ⟨⟨⟩, h', rfl, hrest⟩
    exact ⟨h', rfl, hrest⟩
  · rintro ⟨h', rfl, hrest⟩
    exact ⟨(), h', rfl, hrest⟩

end Calls

/-! ### Kinds of calls -/

/-- A call other than `get_attempt_for_processing`. -/
def Call.Plain (c : Call) : Prop := ∀ k, c ≠ .repository (.getAttemptForProcessing k)

theorem Call.plain_of_away {c : Call} (hc : c.isRepository = false) : c.Plain := by
  rintro k rfl
  cases hc

/-- A call that neither reaches the repository nor counts a transition. -/
def Call.isIdle : Call → Bool
  | .repository _ => false
  | .observe (.transition ..) => false
  | _ => true

theorem Call.isRepository_of_isIdle {c : Call} (hc : c.isIdle = true) : c.isRepository = false := by
  cases c with
  | repository c => cases hc
  | _ => rfl

/-- A transition of a processing, out of a state or, where it is accepted, out of none. -/
abbrev Transition := Option ProcessingState × ProcessingState

/-- The labels a transition is counted under. -/
def Transition.label (τ : Transition) : String × String :=
  ((τ.1.map ProcessingState.value).getD "unknown", τ.2.value)

/-- The states an operation takes a processing from and to, as its caller expects. -/
def RepositoryCall.transition : RepositoryCall → Option Transition
  | acceptProcessing .. => some (none, .accepted)
  | storeNoActionResult .. => some (some .accepted, .completed)
  | storePlan .. => some (some .accepted, .planned)
  | claimAttemptForSubmission _ => some (some .planned, .submitting)
  | markAttemptSubmitted .. => some (some .submitting, .submitted)
  | completeProcessing .. => some (some .submitted, .completed)
  | failProcessing _ [state] .. => some (some state, .failed)
  | markRecoveryRequired _ [state] .. => some (some state.processingState, .recoveryRequired)
  | _ => none

/-- The one move to `recovery_required` that is counted as a transition. -/
def unknownOutcome : String := "backend submission outcome is unknown"

/-- When the caller of an operation counts a transition. -/
inductive Counting
  | never
  /-- If it has made the transition itself. -/
  | ifWon
  /-- If it finds the processing in the state after, whoever took it there. -/
  | ifFound
deriving DecidableEq

def RepositoryCall.counting : RepositoryCall → Counting
  | storeNoActionResult .. | completeProcessing .. => .ifFound
  | failProcessing _ [.accepted] .. => .ifWon
  | failProcessing _ [.planned] .. => .never
  | failProcessing .. => .ifFound
  | markRecoveryRequired _ _ _ detail => if detail = unknownOutcome then .ifFound else .never
  | _ => .ifWon

/-- The processing and its state that a routing error names, once a processor has attached them. -/
def PyError.attached : PyError → Option (UUID × ProcessingState)
  | .unsupportedCapabilities _ processing => processing
  | .ambiguousBackend _ _ processing => processing
  | _ => none

namespace PersistentAlertProcessor

open Proc

/-- How a branch ends: the state it has been after is counted, if the processing is in it. -/
def counted (s : Option ProcessingState) (s' : ProcessingState) (also : ProcessingRecord → Bool)
    (what : Observed) (durable : ProcessingRecord) : Proc ProcessingRecord := do
  observeWhen (durable.state = s')
    (.transition (Transition.label (s, s')).1 (Transition.label (s, s')).2)
  observeWhen (also durable) what
  return durable

end PersistentAlertProcessor

open Proc PersistentAlertProcessor

/-- A kind `Whole` of procedures that work on a processing, and a kind `Step` of what may come
before: nothing that moves the processing. -/
structure Kind (Step : ∀ {α : Type}, Proc α → Prop) (Whole : Proc ProcessingRecord → Prop) :
    Prop where
  pure : ∀ {α : Type} (a : α), Step (pure a : Proc α)
  throw : ∀ {α : Type} {e : PyError}, e.attached = none → Step (throw e : Proc α)
  bind : ∀ {α β : Type} {p : Proc α} {f : α → Proc β}, Step p → (∀ a, Step (f a)) → Step (p >>= f)
  catching : ∀ {α : Type} {p : Proc α}, Only (fun c => c.isIdle = true) p → Step (catching p)
  perform : ∀ {c : Call}, c.isIdle = true →
    Step (Interleaving.Proc.perform c : Proc (Call.Response c))
  read : ∀ {c : RepositoryCall}, Call.Plain (.repository c) → c.transition = none →
    Step (repository c)
  recovering : ∀ {a : UUID} {s : ExecutionAttemptState} {category detail : String},
    detail ≠ unknownOutcome →
    Step (repository (.markRecoveryRequired a [s] category detail)) ∧
      Step (Interleaving.Proc.catching (repository (.markRecoveryRequired a [s] category detail)))
  whole : ∀ {p : Proc ProcessingRecord}, Step p → Whole p
  after : ∀ {α : Type} {p : Proc α} {f : α → Proc ProcessingRecord}, Step p → (∀ a, Whole (f a)) →
    Whole (p >>= f)
  /-- A compare-and-set, the reread if it was lost, and the count. -/
  settle : ∀ {c : RepositoryCall} {f : c.Result → Proc ProcessingRecord}
    {s : Option ProcessingState}
    {s' : ProcessingState} (k : UUID) (also : ProcessingRecord → Bool) (what : Observed),
    Call.Plain (.repository c) → c.transition = some (s, s') → c.counting = .ifFound →
    (∀ x, c.wrote x = false → f x = reread k >>= counted s s' also what) →
    (∀ x, c.wrote x = true → ∃ record, c.records x = [record] ∧
      f x = counted s s' also what record) →
    (Call.observe what).isIdle = true → Whole (repository c >>= f)
  /-- The same in a handler that replaces an exception. -/
  settleCaught : ∀ {c : RepositoryCall} {f : Except PyError c.Result → Proc ProcessingRecord}
    {s : Option ProcessingState} {s' : ProcessingState} (k : UUID) (also : ProcessingRecord → Bool)
    (what : Observed),
    Call.Plain (.repository c) → c.transition = some (s, s') → c.counting = .ifFound →
    (∀ e, Whole (f (.error e))) →
    (∀ x, c.wrote x = false → f (.ok x) = reread k >>= counted s s' also what) →
    (∀ x, c.wrote x = true →
      ∃ record, c.records x = [record] ∧ f (.ok x) = counted s s' also what record) →
    (Call.observe what).isIdle = true → Whole (Interleaving.Proc.catching (repository c) >>= f)
  /-- A compare-and-set that is counted where it was won, and only then gone on from. -/
  proceed : ∀ {c : RepositoryCall} {f : Except PyError c.Result → Proc ProcessingRecord}
    {s s' : ProcessingState} (k : UUID),
    Call.Plain (.repository c) → c.transition = some (some s, s') → c.counting = .ifWon →
    s' ≠ .completed → s' ≠ .failed → (∀ e, Whole (f (.error e))) →
      (∀ x, c.wrote x = false → f (.ok x) = reread k) →
    (∀ x, c.wrote x = true → ∃ q : Proc ProcessingRecord,
      f (.ok x) = (observe (.transition s.value s'.value) >>= fun _ => q) ∧ Whole q) →
    Whole (Interleaving.Proc.catching (repository c) >>= f)
  unconfigured : ∀ {k a : UUID} {category detail : String},
    Whole (repository (.failProcessing k [.planned] category detail (some a)) >>= fun failed =>
      orReread failed k)

namespace Kind

variable {Step : ∀ {α : Type}, Proc α → Prop} {Whole : Proc ProcessingRecord → Prop}
  {o : AlertOrchestrator} {record : ProcessingRecord} {attempt : ExecutionAttempt}
  {backend : Backend} {request : InvestigationRequest} {backendName : String}
  {deadline : Option Rat}

theorem observe (hk : Kind Step Whole) {what : Observed}
    (hwhat : (Call.observe what).isIdle = true) :
    Step (Proc.observe what) := hk.perform hwhat

theorem observeWhen (hk : Kind Step Whole) (condition : Bool) {what : Observed}
    (hwhat : (Call.observe what).isIdle = true) : Step (Proc.observeWhen condition what) := by
  unfold Proc.observeWhen
  split
  · exact hk.observe hwhat
  · exact hk.pure ()

theorem evaluate (hk : Kind Step Whole) {α : Type} {x : Except PyError α}
    (hx : ∀ e, x = .error e → e.attached = none) : Step (Proc.evaluate x) := by
  cases x with
  | ok a => exact hk.pure a
  | error e => exact hk.throw (hx e rfl)

theorem reread (hk : Kind Step Whole) (k : UUID) :
    Step (PersistentAlertProcessor.reread k) := by
  refine hk.bind (hk.read (by simp [Call.Plain]) rfl) fun x => ?_
  cases x with
  | none => exact hk.throw rfl
  | some record => exact hk.pure record

theorem orReread (hk : Kind Step Whole) (updated : Option ProcessingRecord) (k : UUID) :
    Step (PersistentAlertProcessor.orReread updated k) := by
  cases updated with
  | none => exact hk.reread k
  | some record => exact hk.pure record

theorem remaining (hk : Kind Step Whole) (deadline : Option Rat) :
    Step (remainingReconciliationSeconds deadline) := by
  cases deadline with
  | none => exact hk.pure none
  | some deadline => exact hk.bind (hk.perform rfl) fun now => hk.pure _

theorem poll (hk : Kind Step Whole) {a : UUID} {remoteState : String}
    {category detail : Option String} :
    Step (repository (.recordPoll a remoteState category detail)) :=
  hk.read (by simp [Call.Plain]) rfl

theorem recover (hk : Kind Step Whole) {a : UUID} {expected : ExecutionAttemptState}
    {category detail : String} (hdetail : detail ≠ unknownOutcome) {k : UUID} {name : String} :
    Step (PersistentAlertProcessor.recover a expected category detail k name) :=
  hk.bind (hk.recovering hdetail).1 fun recovery =>
    hk.bind (hk.orReread recovery k) fun _ =>
      hk.bind (hk.observeWhen _ rfl) fun _ => hk.pure _

theorem collect (hk : Kind Step Whole) {externalOperationId remoteState : String} :
    Whole (PersistentAlertProcessor.collect record attempt backend request backendName
      externalOperationId remoteState deadline) := by
  refine hk.after hk.poll fun _ => hk.after (hk.remaining deadline) fun budget => ?_
  split
  · exact hk.whole (hk.reread _)
  refine hk.after (hk.catching (.bind ⟨rfl, fun _ => trivial⟩ fun answer => ?_)) fun collected => ?_
  · cases answer with
    | none => trivial
    | some result =>
        dsimp only
        split
        · trivial
        · cases record.decision <;> cases record.incident <;>
            first | trivial | exact only_evaluate _
  · cases collected with
    | error e => exact hk.whole (hk.recover (by decide))
    | ok result =>
        refine hk.settle record.processingId (fun _ => false) (.stale "") (by simp [Call.Plain]) rfl
          rfl ?_ ?_ rfl
        · rintro (_ | completed) hwrote
          · rfl
          · cases hwrote
        · rintro (_ | completed) hwrote
          · cases hwrote
          · exact ⟨completed, rfl, rfl⟩

theorem pollSubmitted (hk : Kind Step Whole) :
    Whole (PersistentAlertProcessor.pollSubmitted o record attempt deadline) := by
  unfold PersistentAlertProcessor.pollSubmitted
  cases record.investigationRequest with
  | none => exact hk.whole (hk.recover (by decide))
  | some request =>
  cases record.selectedBackend with
  | none => exact hk.whole (hk.recover (by decide))
  | some backendName =>
  cases attempt.externalOperationId with
  | none => exact hk.whole (hk.recover (by decide))
  | some externalOperationId =>
  dsimp only
  cases o.backendForName backendName with
  | none => exact hk.whole (hk.recover (by decide))
  | some backend =>
  refine hk.after (hk.remaining deadline) fun pollTimeout => ?_
  split
  · exact hk.whole (hk.pure record)
  refine hk.after (hk.catching (.bind ⟨rfl, fun _ => trivial⟩ fun answer => ?_)) fun polled => ?_
  · cases answer <;> trivial
  rcases polled with error | status
  · cases error with
    | timeoutError => exact hk.after hk.poll fun _ => hk.whole (hk.reread _)
    | _ => exact hk.whole (hk.recover (by decide))
  dsimp only
  cases status.state with
  | none => exact hk.whole (hk.recover (by decide))
  | some state =>
  cases state with
  | nonterminal => exact hk.after hk.poll fun _ => hk.whole (hk.reread _)
  | failed =>
      refine hk.after hk.poll fun _ => hk.settle record.processingId (fun _ => false) (.stale "")
        (by simp [Call.Plain]) rfl rfl ?_ ?_ rfl
      · rintro (_ | failed) hwrote
        · rfl
        · cases hwrote
      · rintro (_ | failed) hwrote
        · cases hwrote
        · exact ⟨failed, rfl, rfl⟩
  | succeeded => exact hk.collect

theorem persistSubmitted (hk : Kind Step Whole) {submitted : SubmittedOperation} :
    Whole (PersistentAlertProcessor.persistSubmitted o record attempt backendName submitted
      deadline) := by
  refine hk.after (hk.observe rfl) fun _ =>
    hk.proceed record.processingId (by simp [Call.Plain]) rfl rfl
    (by decide) (by decide) (fun e => ?_) ?_ ?_
  · exact hk.after (hk.recovering (by decide)).2 fun _ => hk.whole (hk.throw rfl)
  · rintro (_ | durableAttempt) hwrote
    · rfl
    · cases hwrote
  · rintro (_ | durableAttempt) hwrote
    · cases hwrote
    · exact ⟨_, rfl, hk.after (hk.reread _) fun _ => hk.pollSubmitted⟩

theorem submitClaimed (hk : Kind Step Whole) :
    ∃ q : Proc ProcessingRecord, Whole q ∧
      PersistentAlertProcessor.submitClaimed o record attempt backend request backendName deadline =
        Proc.observe (.transition "planned" "submitting") >>= fun _ => q := by
  refine ⟨_, ?_, rfl⟩
  refine hk.after (hk.remaining deadline) fun timeout => ?_
  split
  · exact hk.whole (hk.recover (by decide))
  refine hk.after (hk.catching (.bind ⟨rfl, fun _ => trivial⟩ fun answer => ?_))
    fun submission => ?_
  · cases answer <;> trivial
  rcases submission with error | submitted
  · cases error with
    | backendSubmissionRejected =>
        refine hk.after (hk.observe rfl) fun _ => hk.settle record.processingId (fun _ => false)
          (.stale "") (by simp [Call.Plain]) rfl rfl ?_ ?_ rfl
        · rintro (_ | failed) hwrote
          · rfl
          · cases hwrote
        · rintro (_ | failed) hwrote
          · cases hwrote
          · exact ⟨failed, rfl, rfl⟩
    | _ =>
        refine hk.after (hk.observe rfl) fun _ => hk.settle record.processingId
          (fun durable => durable.state = .recoveryRequired)
          (.recoveryRequired backendName "backend_submission_unknown")
            (by simp [Call.Plain]) rfl rfl
          ?_ ?_ rfl
        · rintro (_ | recovery) hwrote
          · rfl
          · cases hwrote
        · rintro (_ | recovery) hwrote
          · cases hwrote
          · exact ⟨recovery, rfl, rfl⟩
  · exact hk.persistSubmitted

theorem submit (hk : Kind Step Whole) :
    Whole (PersistentAlertProcessor.submit o record attempt deadline) := by
  unfold PersistentAlertProcessor.submit
  cases record.investigationRequest with
  | none => exact hk.whole (hk.throw rfl)
  | some request =>
  cases record.selectedBackend with
  | none => exact hk.whole (hk.throw rfl)
  | some backendName =>
  dsimp only
  cases o.backendForName backendName with
  | none => exact hk.unconfigured
  | some backend =>
  refine hk.after (hk.remaining deadline) fun timeout => ?_
  split
  · exact hk.whole (hk.pure record)
  refine hk.proceed record.processingId (by simp [Call.Plain]) rfl rfl (by decide)
      (by decide)
    (fun e => hk.whole (hk.throw rfl)) ?_ ?_
  · rintro (_ | claimed) hwrote
    · rfl
    · cases hwrote
  · rintro (_ | claimed) hwrote
    · cases hwrote
    · obtain ⟨q, hq, heq⟩ := hk.submitClaimed
      exact ⟨q, heq, hq⟩

theorem carryOut (hk : Kind Step Whole) {plan : PlanningResult} :
    Whole (PersistentAlertProcessor.carryOut o record plan deadline) := by
  unfold PersistentAlertProcessor.carryOut
  split
  · refine hk.after (hk.evaluate fun e he => ?_) fun result => hk.settleCaught record.processingId
      (fun _ => false) (.stale "") (by simp [Call.Plain]) rfl rfl
        (fun e => hk.whole (hk.throw rfl)) ?_
      ?_ rfl
    · obtain ⟨message, rfl⟩ := OrchestrationResult.make_error he
      rfl
    · rintro (_ | completed) hwrote
      · rfl
      · cases hwrote
    · rintro (_ | completed) hwrote
      · cases hwrote
      · exact ⟨completed, rfl, rfl⟩
  cases plan.incident with
  | none => exact hk.whole (hk.throw rfl)
  | some incident =>
  cases plan.investigationRequest with
  | none => exact hk.whole (hk.throw rfl)
  | some request =>
  cases plan.backend with
  | none => exact hk.whole (hk.throw rfl)
  | some backend =>
  refine hk.after (hk.perform rfl) fun attemptId => hk.after (hk.perform rfl) fun operationKey =>
    hk.proceed record.processingId (by simp [Call.Plain]) rfl rfl (by decide)
      (by decide)
      (fun e => hk.whole (hk.throw rfl)) ?_ ?_
  · rintro (_ | planned) hwrote
    · rfl
    · cases hwrote
  · rintro (_ | planned) hwrote
    · cases hwrote
    · exact ⟨_, rfl, hk.submit⟩

end Kind

/-! ### Kinds that know no difference -/

theorem Away.plain {α : Type} {p : Proc α} (hp : Away p) : Only Call.Plain p :=
  Only.mono hp fun _ => Call.plain_of_away

theorem plain_repository {c : RepositoryCall} (hc : Call.Plain (.repository c)) :
    Only Call.Plain (Proc.repository c) := ⟨hc, fun _ => trivial⟩

/-- A kind of procedure that sequences and handlers do not lead out of. What a handler stands around
may be of another kind. -/
structure Closed (Φ : ∀ {α : Type}, Proc α → Prop) : Prop where
  pure : ∀ {α : Type} (a : α), Φ (pure a : Proc α)
  throw : ∀ {α : Type} {e : PyError}, e.attached = none → Φ (throw e : Proc α)
  bind : ∀ {α β : Type} {p : Proc α} {f : α → Proc β}, Φ p → (∀ a, Φ (f a)) → Φ (p >>= f)
  catching : ∀ {α : Type} {p : Proc α}, Only Call.Plain p → Φ (catching p)
  repository : ∀ {c : RepositoryCall}, Call.Plain (.repository c) → Φ (repository c)
  perform : ∀ {c : Call}, c.isRepository = false →
    Φ (Interleaving.Proc.perform c : Proc (Call.Response c))

namespace Closed

variable {Φ : ∀ {α : Type}, Proc α → Prop} {record : ProcessingRecord}

theorem observeWhen (hΦ : Closed Φ) (condition : Bool) (what : Observed) :
    Φ (Proc.observeWhen condition what) := by
  unfold Proc.observeWhen
  split
  · exact hΦ.perform rfl
  · exact hΦ.pure ()

theorem reread (hΦ : Closed Φ) (k : UUID) : Φ (PersistentAlertProcessor.reread k) := by
  refine hΦ.bind (hΦ.repository (by simp [Call.Plain])) fun x => ?_
  cases x with
  | none => exact hΦ.throw rfl
  | some record => exact hΦ.pure record

theorem counted (hΦ : Closed Φ) (s : Option ProcessingState) (s' : ProcessingState)
    (also : ProcessingRecord → Bool) (what : Observed) (durable : ProcessingRecord) :
    Φ (PersistentAlertProcessor.counted s s' also what durable) :=
  hΦ.bind (hΦ.observeWhen _ _) fun _ => hΦ.bind (hΦ.observeWhen _ _) fun _ => hΦ.pure durable

/-- Such a kind is one both of steps and of whole procedures. -/
theorem kind (hΦ : Closed Φ) : Kind Φ (fun p => Φ p) where
  pure := hΦ.pure
  throw := hΦ.throw
  bind := hΦ.bind
  catching hp := hΦ.catching
    (hp.mono fun _ hidle => Call.plain_of_away (Call.isRepository_of_isIdle hidle))
  perform hidle := hΦ.perform (Call.isRepository_of_isIdle hidle)
  read hplain _ := hΦ.repository hplain
  recovering _ := ⟨hΦ.repository (by simp [Call.Plain]),
    hΦ.catching (plain_repository (by simp [Call.Plain]))⟩
  whole hp := hp
  after hp hf := hΦ.bind hp hf
  settle {c} _ _ _ k also what hplain _ _ hlost hwon _ := by
    refine hΦ.bind (hΦ.repository hplain) fun x => ?_
    cases hwrote : c.wrote x with
    | false =>
        rw [hlost x hwrote]
        exact hΦ.bind (hΦ.reread k) fun durable => hΦ.counted _ _ _ _ durable
    | true =>
        obtain ⟨record, -, hf⟩ := hwon x hwrote
        rw [hf]
        exact hΦ.counted _ _ _ _ record
  settleCaught {c} _ _ _ k also what hplain _ _ herror hlost hwon _ := by
    refine hΦ.bind (hΦ.catching (plain_repository hplain)) fun r => ?_
    rcases r with e | x
    · exact herror e
    cases hwrote : c.wrote x with
    | false =>
        rw [hlost x hwrote]
        exact hΦ.bind (hΦ.reread k) fun durable => hΦ.counted _ _ _ _ durable
    | true =>
        obtain ⟨record, -, hf⟩ := hwon x hwrote
        rw [hf]
        exact hΦ.counted _ _ _ _ record
  proceed {c} _ _ _ k hplain _ _ _ _ herror hlost hwon := by
    refine hΦ.bind (hΦ.catching (plain_repository hplain)) fun r => ?_
    rcases r with e | x
    · exact herror e
    cases hwrote : c.wrote x with
    | false =>
        rw [hlost x hwrote]
        exact hΦ.reread k
    | true =>
        obtain ⟨q, hf, hq⟩ := hwon x hwrote
        rw [hf]
        exact hΦ.bind (hΦ.perform rfl) fun _ => hq
  unconfigured := by
    refine hΦ.bind (hΦ.repository (by simp [Call.Plain])) fun failed => ?_
    cases failed with
    | none => exact hΦ.reread _
    | some failed => exact hΦ.pure failed

theorem failWithoutAttempt (hΦ : Closed Φ) (category detail : String) :
    Φ (PersistentAlertProcessor.failWithoutAttempt record category detail) := by
  refine hΦ.bind (hΦ.catching (plain_repository (by simp [Call.Plain]))) fun failed => ?_
  rcases failed with error | _ | failed
  · exact hΦ.throw rfl
  · exact hΦ.pure none
  · exact hΦ.bind (hΦ.perform rfl) fun _ => hΦ.pure _

theorem failPlanning (hΦ : Closed Φ) :
    Φ (do
      match ← PersistentAlertProcessor.failWithoutAttempt record "backend_selection_error"
          "processing planning failed" with
      | none => PersistentAlertProcessor.reread record.processingId
      | some _ => MonadExcept.throw (PyError.runtimeError "processing planning failed")
      : Proc ProcessingRecord) := by
  refine hΦ.bind (hΦ.failWithoutAttempt _ _) fun failed => ?_
  cases failed with
  | none => exact hΦ.reread _
  | some failed => exact hΦ.throw rfl

end Closed

end Alert2IR
