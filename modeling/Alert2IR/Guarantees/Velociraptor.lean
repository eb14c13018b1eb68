import Alert2IR.Application.Passes
import Alert2IR.Backends.Velociraptor

/-!
# What a submission to Velociraptor says

A rejection is raised before any query is started. An operation is the flow of a single row that
the one scheduling query returned. Everything else is an exception that the core takes for an
unknown outcome.
-/

namespace Alert2IR

namespace Velociraptor

open Interleaving.Proc

/-- The queries of a run, each with what it streamed. -/
def queried (h : List Observation) : List (String × Stream) :=
  h.filterMap fun
    | ⟨.query vql _, stream⟩ => some (vql, stream)
    | _ => none

@[simp]
theorem queried_nil : queried [] = [] := rfl

@[simp]
theorem queried_append (h h' : List Observation) : queried (h ++ h') = queried h ++ queried h' :=
  List.filterMap_append

variable {lib : Library} {h : List Observation} {α β : Type}

/-! ### Parts of a run -/

@[simp]
theorem returns_evaluate_iff {x r : Except PyError α} :
    Returns (Proc.evaluate x) h r ↔ h = [] ∧ r = x := by
  cases x with
  | ok a => exact returns_pure_iff
  | error e => exact returns_throw_iff

/-- A computation raises, or what follows it goes on with its value. -/
theorem returns_evaluate_bind_iff {x : Except PyError α} {f : α → Proc β} {r : Except PyError β} :
    Returns (Proc.evaluate x >>= f) h r ↔
      (∃ e, x = .error e ∧ h = [] ∧ r = .error e) ∨ ∃ a, x = .ok a ∧ Returns (f a) h r := by
  cases x with
  | ok a => simp [Proc.evaluate]
  | error e =>
      rw [returns_bind_iff]
      simp [Proc.evaluate]

theorem returns_raiseIf {failure : Option LibraryError} {r : Except PyError Unit}
    (hreturns : Returns (raiseIf failure) h r) :
    h = [] ∧ (r = .ok () ∨ ∃ e : LibraryError, r = .error e.toPyError) := by
  cases failure with
  | none =>
      obtain ⟨hnil, hr⟩ := returns_pure_iff.mp hreturns
      exact ⟨hnil, .inl hr⟩
  | some e =>
      obtain ⟨hnil, hr⟩ := returns_throw_iff.mp hreturns
      exact ⟨hnil, .inr ⟨e, hr⟩⟩

theorem returns_runQuery_iff {vql : String} {timeout : Rat} {r : Except PyError (List Value)} :
    Returns (runQuery lib vql timeout) h r ↔
      ∃ stream : Stream, h = [⟨.query vql timeout, stream⟩] ∧ r = rowsOf lib stream := by
  refine (returns_perform_bind_iff (c := Api.query vql timeout)).trans ?_
  constructor
  · rintro ⟨stream, h', rfl, hrest⟩
    obtain ⟨rfl, rfl⟩ := returns_evaluate_iff.mp hrest
    exact ⟨stream, rfl, rfl⟩
  · rintro ⟨stream, rfl, rfl⟩
    exact ⟨stream, [], rfl, returns_evaluate_iff.mpr ⟨rfl, rfl⟩⟩

/-- A channel is closed, which may raise, and then something follows. -/
theorem returns_close_bind {p : Proc α} {r : Except PyError α}
    (hreturns : Returns (Proc.close >>= fun failure => raiseIf failure >>= fun _ => p) h r) :
    ∃ failure h', h = ⟨.close, failure⟩ :: h' ∧
      ((h' = [] ∧ ∃ e : LibraryError, r = .error e.toPyError) ∨ Returns p h' r) := by
  obtain ⟨failure, h', rfl, hrest⟩ := (returns_perform_bind_iff (c := Api.close)).mp hreturns
  refine ⟨failure, h', rfl, ?_⟩
  rcases returns_bind_iff.mp hrest with ⟨e, hraise, rfl⟩ | ⟨h₁, a, h₂, rfl, hraise, hp⟩
  · obtain ⟨rfl, hr | ⟨e', hr⟩⟩ := returns_raiseIf hraise
    · cases hr
    · exact .inl ⟨rfl, e', congrArg Except.error (Except.error.inj hr)⟩
  · obtain ⟨rfl, -⟩ := returns_raiseIf hraise
    exact .inr hp

/-- A body is run only where there is a channel, and only closing that can hide how it ended. -/
theorem returns_withChannel {uncreated : PyError} {body : Proc α} {r : Except PyError α}
    (hreturns : Returns (withChannel uncreated body) h r) :
    (queried h = [] ∧ (r = .error uncreated ∨ ∃ e : LibraryError, r = .error e.toPyError)) ∨
      ∃ h' x, Returns body h' x ∧ queried h = queried h' ∧
        (r = x ∨ ∃ e : LibraryError, r = .error e.toPyError) := by
  obtain ⟨outcome, h', rfl, hrest⟩ := (returns_perform_bind_iff
    (c := Api.createChannel)).mp hreturns
  cases outcome with
  | absent =>
      obtain ⟨rfl, rfl⟩ := returns_throw_iff.mp hrest
      exact .inl ⟨rfl, .inl rfl⟩
  | broken =>
      obtain ⟨failure, h'', rfl, ⟨rfl, hraised⟩ | hthrow⟩ := returns_close_bind hrest
      · exact .inl ⟨rfl, .inr hraised⟩
      · obtain ⟨rfl, rfl⟩ := returns_throw_iff.mp hthrow
        exact .inl ⟨rfl, .inl rfl⟩
  | ready =>
      obtain ⟨h₁, x, h₂, rfl, hbody, hclose⟩ := returns_catching_bind_iff.mp hrest
      refine .inr ⟨h₁, x, hbody, ?_⟩
      obtain ⟨failure, h₃, rfl, ⟨rfl, hraised⟩ | hreturned⟩ := returns_close_bind hclose
      · exact ⟨by simp [queried], .inr hraised⟩
      · obtain ⟨rfl, rfl⟩ := returns_evaluate_iff.mp hreturned
        exact ⟨by simp [queried], .inl rfl⟩

/-! ### What a query returns -/

theorem readBatch_ne (lib : Library) (response : String) :
    readBatch lib response ≠ .error .backendSubmissionRejected := by
  unfold readBatch
  repeat' split
  all_goals exact nofun

theorem mapM_readBatch_ne (lib : Library) (responses : List String) :
    responses.mapM (readBatch lib) ≠ .error .backendSubmissionRejected := by
  induction responses with
  | nil => exact nofun
  | cons response responses ih =>
      rw [List.mapM_cons]
      cases hbatch : readBatch lib response with
      | error e =>
          have hne := readBatch_ne lib response
          rw [hbatch] at hne
          exact fun heq => hne (congrArg Except.error (Except.error.inj heq))
      | ok batch =>
          cases hrest : responses.mapM (readBatch lib) with
          | error e =>
              rw [hrest] at ih
              exact fun heq => ih (congrArg Except.error (Except.error.inj heq))
          | ok batches => exact nofun

theorem rowsOf_ne {stream : Stream} : rowsOf lib stream ≠ .error .backendSubmissionRejected := by
  unfold rowsOf
  cases hbatches : stream.responses.mapM (readBatch lib) with
  | error e =>
      have hne := mapM_readBatch_ne lib stream.responses
      rw [hbatches] at hne
      exact fun heq => hne (congrArg Except.error (Except.error.inj heq))
  | ok batches =>
      simp only [bind, Except.bind]
      split
      all_goals exact nofun

/-- Rows are what the batches of an unbroken stream concatenate to. -/
theorem rowsOf_eq_ok_iff {stream : Stream} {rows : List Value} :
    rowsOf lib stream = .ok rows ↔ stream.failure = none ∧
      ∃ batches, stream.responses.mapM (readBatch lib) = .ok batches ∧ batches.flatten = rows := by
  unfold rowsOf
  cases stream.responses.mapM (readBatch lib) with
  | error e => simp [bind, Except.bind]
  | ok batches =>
      cases hfailure : stream.failure with
      | none => simp [bind, Except.bind, pure, Except.pure]
      | some e =>
          simp only [bind, Except.bind]
          split
          all_goals simp_all [throw, throwThe, MonadExceptOf.throw]

/-- `_query_once` either starts no query, or starts the one it was asked for. -/
theorem returns_queryOnce {vql : String} {timeout : Rat} {r : Except PyError (List Value)}
    (hreturns : Returns (queryOnce lib vql timeout) h r) :
    (queried h = [] ∧ ∃ e, r = .error e) ∨
      ∃ stream, queried h = [(vql, stream)] ∧ r ≠ .error .backendSubmissionRejected ∧
        ∀ rows, r = .ok rows → rowsOf lib stream = .ok rows := by
  rcases returns_withChannel hreturns with ⟨hnone, hr⟩ | ⟨h', x, hbody, hqueried, hr⟩
  · refine .inl ⟨hnone, ?_⟩
    rcases hr with hr | ⟨e, hr⟩
    · exact ⟨_, hr⟩
    · exact ⟨_, hr⟩
  · obtain ⟨stream, rfl, rfl⟩ := returns_runQuery_iff.mp hbody
    refine .inr ⟨stream, hqueried, ?_⟩
    rcases hr with rfl | ⟨e, rfl⟩
    · exact ⟨rowsOf_ne, fun rows hrows => hrows⟩
    · exact ⟨fun heq => e.toPyError_ne (Except.error.inj heq), nofun⟩

/-! ### Scheduling and polling -/

/-- A row that names the flow, client and artifact it is about, under the given keys. -/
structure Names (flowKey flowId clientId artifact : String) (row : Value) : Prop where
  flow : row.get flowKey = some (.str flowId)
  client : row.get "client_id" = some (.str clientId)
  artifacts : row.get "artifacts" = some (.list [.str artifact])

theorem isText_iff {value : Option Value} {text : String} :
    isText value text = true ↔ value = some (.str text) := by
  unfold isText
  split
  · simp
  · next hnot =>
      refine ⟨fun h => absurd h Bool.false_ne_true, fun h => ?_⟩
      exact absurd h (hnot text)

theorem validateArtifacts_iff {value : Option Value} {artifact : String} :
    validateArtifacts value artifact = true ↔ value = some (.list [.str artifact]) := by
  unfold validateArtifacts
  split
  · simp [isText_iff]
  · next hnot =>
      refine ⟨fun h => absurd h Bool.false_ne_true, fun h => ?_⟩
      exact absurd h (hnot (.str artifact))

theorem scheduledFlow_eq_some_iff {clientId artifact flowId : String} {rows : List Value} :
    scheduledFlow clientId artifact rows = some flowId ↔
      ∃ row, rows = [row] ∧ Names "flow_id" flowId clientId artifact row ∧
        isBlank flowId = false ∧ flowId.startsWith "F." = true := by
  constructor
  · intro h
    unfold scheduledFlow at h
    split at h
    · next row =>
        split at h
        · next flowId' hflow =>
            split at h
            · cases h
            · next hchecks =>
                cases h
                simp only [Bool.or_eq_true, Bool.not_eq_true', not_or, Bool.not_eq_true,
                  Bool.not_eq_false] at hchecks
                obtain ⟨⟨⟨hblank, hprefix⟩, hclient⟩, hartifacts⟩ := hchecks
                exact ⟨row, rfl, ⟨hflow, isText_iff.mp hclient,
                  validateArtifacts_iff.mp hartifacts⟩, hblank, hprefix⟩
        · cases h
    · cases h
  · rintro ⟨row, rfl, hnames, hblank, hprefix⟩
    simp [scheduledFlow, hnames.flow, hblank, hprefix, isText_iff.mpr hnames.client,
      validateArtifacts_iff.mpr hnames.artifacts]

/-- Reporting a flow may raise, and queries nothing. -/
theorem returns_report {flowId : String} {r : Except PyError String}
    (hreturns : Returns (Proc.operationSubmitted flowId >>= fun failure =>
      raiseIf failure >>= fun _ => pure flowId) h r) :
    queried h = [] ∧ (r = .ok flowId ∨ ∃ e : LibraryError, r = .error e.toPyError) := by
  obtain ⟨failure, h', rfl, hrest⟩ :=
    (returns_perform_bind_iff (c := Api.operationSubmitted flowId)).mp hreturns
  rcases returns_bind_iff.mp hrest with ⟨e, hraise, rfl⟩ | ⟨h₁, a, h₂, rfl, hraise, hreturn⟩
  · obtain ⟨rfl, hr | ⟨e', hr⟩⟩ := returns_raiseIf hraise
    · cases hr
    · exact ⟨rfl, .inr ⟨e', congrArg Except.error (Except.error.inj hr)⟩⟩
  · obtain ⟨rfl, -⟩ := returns_raiseIf hraise
    obtain ⟨rfl, rfl⟩ := returns_pure_iff.mp hreturn
    exact ⟨rfl, .inl rfl⟩

theorem vqlStringLiteral_eq_ok {value literal : String}
    (h : vqlStringLiteral value = .ok literal) : literal = dumpsString value := by
  unfold vqlStringLiteral at h
  split at h
  · cases h
  · cases h
    rfl

/-- `schedule` rejects only before its query, and returns only what that one query names. -/
theorem returns_schedule {clientId artifact : String} {timeoutSeconds : PyNumber}
    {r : Except PyError String}
    (hreturns : Returns (schedule lib clientId artifact timeoutSeconds) h r) :
    (queried h = [] ∧ ∃ e, r = .error e) ∨
      ∃ timeout stream, validateTimeout timeoutSeconds = .ok timeout ∧
        queried h = [(schedulingVql (dumpsString clientId) (dumpsString artifact)
          (lib.dumpsFloat timeout), stream)] ∧
        r ≠ .error .backendSubmissionRejected ∧
        ∀ flowId, r = .ok flowId → ∃ rows, rowsOf lib stream = .ok rows ∧
          scheduledFlow clientId artifact rows = some flowId := by
  rcases returns_evaluate_bind_iff.mp hreturns with ⟨e, -, rfl, rfl⟩ | ⟨timeout, htimeout, hclient⟩
  · exact .inl ⟨rfl, e, rfl⟩
  rcases returns_evaluate_bind_iff.mp hclient with
    ⟨e, -, rfl, rfl⟩ | ⟨clientLiteral, hclientLiteral, hartifact⟩
  · exact .inl ⟨rfl, e, rfl⟩
  rcases returns_evaluate_bind_iff.mp hartifact with
    ⟨e, -, rfl, rfl⟩ | ⟨artifactLiteral, hartifactLiteral, hscheduled⟩
  · exact .inl ⟨rfl, e, rfl⟩
  obtain rfl := vqlStringLiteral_eq_ok hclientLiteral
  obtain rfl := vqlStringLiteral_eq_ok hartifactLiteral
  obtain ⟨h₁, x, h₂, rfl, hquery, hrest⟩ := returns_catching_bind_iff.mp hscheduled
  -- Whatever the query raised, nothing more is called.
  have hraised : ∀ e, x = .error e → h₂ = [] ∧ (r = .error .backendSubmissionRejected ∧
      e = .backendSubmissionRejected ∨ r = .error submissionUnknown) := by
    rintro e rfl
    cases e with
    | backendSubmissionRejected =>
        obtain ⟨rfl, rfl⟩ := returns_throw_iff.mp hrest
        exact ⟨rfl, .inl ⟨rfl, rfl⟩⟩
    | _ =>
        obtain ⟨rfl, rfl⟩ := returns_throw_iff.mp hrest
        exact ⟨rfl, .inr rfl⟩
  rcases returns_queryOnce hquery with ⟨hnone, e, rfl⟩ | ⟨stream, hone, hne, hrows⟩
  · obtain ⟨rfl, hr⟩ := hraised e rfl
    refine .inl ⟨by simp [hnone], ?_⟩
    rcases hr with ⟨hr, -⟩ | hr
    · exact ⟨_, hr⟩
    · exact ⟨_, hr⟩
  · refine .inr ⟨timeout, stream, htimeout, ?_⟩
    cases x with
    | error e =>
        obtain ⟨rfl, ⟨-, rfl⟩ | rfl⟩ := hraised e rfl
        · exact absurd rfl hne
        · exact ⟨by simp [hone], nofun, nofun⟩
    | ok rows =>
        simp only at hrest
        split at hrest
        · obtain ⟨rfl, rfl⟩ := returns_throw_iff.mp hrest
          exact ⟨by simp [hone], nofun, nofun⟩
        · next flowId hflow =>
            obtain ⟨hnone, rfl | ⟨e, rfl⟩⟩ := returns_report hrest
            · refine ⟨by simp [hone, hnone], nofun, ?_⟩
              rintro _ ⟨⟩
              exact ⟨rows, hrows rows rfl, hflow⟩
            · exact ⟨by simp [hone, hnone], fun heq => e.toPyError_ne (Except.error.inj heq), nofun⟩

theorem make_eq_ok_iff {state : OperationState} {remoteState : String} {status : OperationStatus} :
    OperationStatus.make state remoteState = .ok status →
      status.state = some state ∧ status.remoteState = remoteState := by
  unfold OperationStatus.make
  split
  · rintro ⟨⟩
    exact ⟨rfl, rfl⟩
  · exact nofun

/-- A terminal status is read off a single row, that of the flow, client and artifact polled. -/
theorem names_of_polledStatus {clientId artifact flowId : String} {rows : List Value}
    {status : OperationStatus} (hstatus : polledStatus clientId artifact flowId rows = .ok status)
    (hterminal : status.state ≠ some .nonterminal) :
    ∃ row, rows = [row] ∧ Names "session_id" flowId clientId artifact row := by
  unfold polledStatus at hstatus
  split at hstatus
  · exact absurd (make_eq_ok_iff hstatus).1 hterminal
  · next row =>
      split at hstatus
      · cases hstatus
      · next hchecks =>
          simp only [Bool.or_eq_true, Bool.not_eq_true', not_or, Bool.not_eq_false] at hchecks
          obtain ⟨⟨hsession, hclient⟩, hartifacts⟩ := hchecks
          exact ⟨row, rfl, isText_iff.mp hsession, isText_iff.mp hclient,
            validateArtifacts_iff.mp hartifacts⟩
  · cases hstatus

/-- `poll_flow` starts at most one query, for the flow it was given. -/
theorem returns_pollFlow {clientId artifact flowId : String} {timeoutSeconds : PyNumber}
    {r : Except PyError OperationStatus}
    (hreturns : Returns (pollFlow lib clientId artifact flowId timeoutSeconds) h r) :
    (queried h = [] ∧ ∃ e, r = .error e) ∨
      ∃ stream,
        queried h = [(pollingVql (dumpsString clientId) (dumpsString flowId), stream)] ∧
        ∀ status, r = .ok status → ∃ rows, rowsOf lib stream = .ok rows ∧
          polledStatus clientId artifact flowId rows = .ok status := by
  rcases returns_evaluate_bind_iff.mp hreturns with ⟨e, -, rfl, rfl⟩ | ⟨timeout, -, hclient⟩
  · exact .inl ⟨rfl, e, rfl⟩
  rcases returns_evaluate_bind_iff.mp hclient with
    ⟨e, -, rfl, rfl⟩ | ⟨clientLiteral, hclientLiteral, hartifact⟩
  · exact .inl ⟨rfl, e, rfl⟩
  rcases returns_evaluate_bind_iff.mp hartifact with ⟨e, -, rfl, rfl⟩ | ⟨_, -, hflow⟩
  · exact .inl ⟨rfl, e, rfl⟩
  rcases returns_evaluate_bind_iff.mp hflow with
    ⟨e, -, rfl, rfl⟩ | ⟨flowLiteral, hflowLiteral, hpolled⟩
  · exact .inl ⟨rfl, e, rfl⟩
  obtain rfl := vqlStringLiteral_eq_ok hclientLiteral
  obtain rfl := vqlStringLiteral_eq_ok hflowLiteral
  rcases returns_bind_iff.mp hpolled with ⟨e, hquery, rfl⟩ | ⟨h₁, rows, h₂, rfl, hquery, hrest⟩
  · rcases returns_queryOnce hquery with ⟨hnone, -⟩ | ⟨stream, hone, -, -⟩
    · exact .inl ⟨hnone, e, rfl⟩
    · exact .inr ⟨stream, hone, nofun⟩
  · obtain ⟨rfl, rfl⟩ := returns_evaluate_iff.mp hrest
    rcases returns_queryOnce hquery with ⟨-, e, he⟩ | ⟨stream, hone, -, hrows⟩
    · cases he
    · exact .inr ⟨stream, by simpa using hone,
        fun status hstatus => ⟨rows, hrows rows rfl, hstatus⟩⟩

theorem head?_append {s t : String} {c : Char} (h : s.toList.head? = some c) :
    (s ++ t).toList.head? = some c := by
  rw [String.toList_append, List.head?_append, h, Option.some_or]

theorem head?_schedulingVql {clientLiteral artifactLiteral timeoutLiteral : String} :
    (schedulingVql clientLiteral artifactLiteral timeoutLiteral).toList.head? = some 'L' := by
  unfold schedulingVql
  repeat apply head?_append
  simp

theorem head?_pollingVql {clientLiteral flowLiteral : String} :
    (pollingVql clientLiteral flowLiteral).toList.head? = some 'S' := by
  unfold pollingVql
  repeat apply head?_append
  simp

/-- The texts of the two queries differ from their first letter on. -/
theorem pollingVql_ne_schedulingVql {clientLiteral flowLiteral clientLiteral' artifactLiteral
    timeoutLiteral : String} :
    pollingVql clientLiteral flowLiteral ≠
      schedulingVql clientLiteral' artifactLiteral timeoutLiteral := by
  intro heq
  have hhead : some 'S' = some 'L' :=
    calc some 'S' = (pollingVql clientLiteral flowLiteral).toList.head? := head?_pollingVql.symm
      _ = (schedulingVql clientLiteral' artifactLiteral timeoutLiteral).toList.head? := by rw [heq]
      _ = some 'L' := head?_schedulingVql
  exact absurd hhead (by decide)

end Velociraptor

/-! ### The core's side -/

namespace PersistentAlertProcessor

open Interleaving Interleaving.Proc

/-- What the backend answered, or raised, when it was first asked to submit. -/
def submissionAnswer (h : List Observation) :
    Option (Except PyError (Option SubmittedOperation)) :=
  h.findSome? fun
    | ⟨.submit .., answer⟩ => some answer
    | _ => none

variable {o : AlertOrchestrator} {record : ProcessingRecord} {claimed : ExecutionAttempt}
  {backend : Backend} {request : InvestigationRequest} {backendName : String}
  {deadline : Option Rat} {h : List Observation}

theorem submissionAnswer_eq_none {h : List Observation} (hnone : ∀ o ∈ h, o.call.submits = none) :
    submissionAnswer h = none := by
  rw [submissionAnswer, List.findSome?_eq_none_iff]
  intro o hmem
  have hquiet := hnone o hmem
  obtain ⟨c, r⟩ := o
  cases c with
  | submit => cases hquiet
  | _ => rfl

theorem only_recover {a : UUID} {expected : ExecutionAttemptState} {category detail : String}
    {k : UUID} : Only (fun c : Call => c.submits = none)
      (recover a expected category detail k backendName) := by
  refine Only.bind ⟨rfl, fun _ => trivial⟩ fun recovery => ?_
  refine Only.bind ?_ fun durable => ?_
  · cases recovery with
    | some recovered => exact .pure recovered
    | none =>
        refine Only.bind ⟨rfl, fun _ => trivial⟩ fun found => ?_
        cases found <;> trivial
  · refine Only.bind ?_ fun _ => .pure durable
    unfold Proc.observeWhen
    split
    · exact ⟨rfl, fun _ => trivial⟩
    · exact .pure ()

/-- What is left of a budget is read off the clock, if at all. -/
theorem returns_budget_bind {α : Type} {f : Option Rat → Proc α} {r : Except PyError α}
    (hreturns : Returns (remainingReconciliationSeconds deadline >>= f) h r) :
    ∃ h₁ h₂ remaining, h = h₁ ++ h₂ ∧ (∀ o ∈ h₁, o.call = .monotonic) ∧
      Returns (f remaining) h₂ r := by
  cases deadline with
  | none => exact ⟨[], h, none, rfl, by simp, hreturns⟩
  | some deadline =>
      obtain ⟨m, h', rfl, hrest⟩ := returns_remaining_bind_iff.mp hreturns
      exact ⟨[⟨.monotonic, m⟩], h', _, rfl, by simp, hrest⟩

/-- An exception of the backend other than its rejection sends the attempt into recovery. -/
theorem recovers_of_submitClaimed {r : Except PyError ProcessingRecord} {e : PyError}
    (hreturns : Returns (submitClaimed o record claimed backend request backendName deadline) h r)
    (hanswer : submissionAnswer h = some (.error e)) (hne : e ≠ .backendSubmissionRejected) :
    ∃ answer, ⟨.repository (.markRecoveryRequired claimed.attemptId [.submitting]
      "backend_submission_unknown" "backend submission outcome is unknown"), answer⟩ ∈ h := by
  obtain ⟨h', rfl, hbudget⟩ := returns_observe_bind_iff.mp hreturns
  obtain ⟨h₁, h₂, remaining, rfl, hclock, hrest⟩ := returns_budget_bind hbudget
  split at hrest
  · -- The deadline has passed, and the backend is not asked at all.
    have hquiet := Prog.Returns.only hrest only_recover
    rw [submissionAnswer_eq_none] at hanswer
    · cases hanswer
    · intro o hmem
      rcases List.mem_cons.mp hmem with rfl | hmem
      · rfl
      rcases List.mem_append.mp hmem with hmem | hmem
      · rw [hclock o hmem]
        rfl
      · exact hquiet o hmem
  obtain ⟨h₃, x, h₄, rfl, hsubmission, hhandled⟩ := returns_catching_bind_iff.mp hrest
  obtain ⟨answer, h₅, rfl, hanswered⟩ := Prog.returns_call_iff.mp hsubmission
  have hfirst : submissionAnswer (⟨.observe (.transition "planned" "submitting"), ()⟩ ::
      (h₁ ++ (⟨.submit record.processingId backend request claimed.operationKey remaining, answer⟩
        :: h₅ ++ h₄))) = some answer := by
    have hbefore : submissionAnswer h₁ = none := by
      refine submissionAnswer_eq_none fun o hmem => ?_
      rw [hclock o hmem]
      rfl
    exact (List.findSome?_append).trans (congrArg (Option.or · (some answer)) hbefore)
  obtain rfl : answer = .error e := Option.some.inj (hfirst.symm.trans hanswer)
  obtain ⟨rfl, rfl⟩ := Prog.returns_pure_iff.mp hanswered
  have hunknown : ∃ answer h₆, h₄ = ⟨.observe (.submission backendName "error"), ()⟩ ::
      ⟨.repository (.markRecoveryRequired claimed.attemptId [.submitting]
        "backend_submission_unknown" "backend submission outcome is unknown"), answer⟩ :: h₆ := by
    cases e with
    | backendSubmissionRejected => exact absurd rfl hne
    | _ =>
        obtain ⟨h₅, rfl, hrecovery⟩ := returns_observe_bind_iff.mp hhandled
        rcases returns_repository_bind_iff.mp hrecovery with ⟨e, rfl, -⟩ | ⟨x, h₆, rfl, -⟩
        · exact ⟨_, _, rfl⟩
        · exact ⟨_, _, rfl⟩
  obtain ⟨answer, h₆, rfl⟩ := hunknown
  exact ⟨answer, by simp⟩

end PersistentAlertProcessor

namespace VelociraptorBackend

open Velociraptor Interleaving.Proc

theorem checks_ne (l : List (Bool × String)) : checks l ≠ .error .backendSubmissionRejected := by
  intro h
  obtain ⟨message, heq⟩ := checks_error h
  cases heq

theorem length_of_make {externalOperationId : String} {operation : SubmittedOperation}
    (hmake : SubmittedOperation.make externalOperationId = .ok operation) :
    operation.externalOperationId = externalOperationId ∧ externalOperationId.length ≤ 512 := by
  unfold SubmittedOperation.make at hmake
  split at hmake
  · next hvalid =>
      cases hmake
      have hlength := checks_eq_ok_iff.mp hvalid (_, _) (.tail _ (.head _))
      exact ⟨rfl, by simpa using hlength⟩
  · cases hmake

variable {backend : VelociraptorBackend} {lib : Library} {request : InvestigationRequest}
  {h : List Velociraptor.Observation}

theorem validateTimeout_finite {x y timeout : Rat}
    (h : validateTimeout (.finite x y) = .ok timeout) : y = timeout := by
  dsimp only [validateTimeout] at h
  split at h
  · cases h
  · exact Except.ok.inj h

theorem returns_submit {timeoutSeconds : Option PyNumber} {r : Except PyError SubmittedOperation}
    (hreturns : Returns (backend.submit lib request timeoutSeconds) h r) :
    (queried h = [] ∧ ∃ e, r = .error e) ∨
      ∃ clientId seconds stream, backend.resolveClientId request = .ok clientId ∧
        backend.effectiveTimeout timeoutSeconds = .ok seconds ∧
        queried h = [(schedulingVql (dumpsString clientId) (dumpsString processListArtifact)
          (lib.dumpsFloat seconds), stream)] ∧
        r ≠ .error .backendSubmissionRejected ∧
        ∀ operation, r = .ok operation → ∃ rows, rowsOf lib stream = .ok rows ∧
          scheduledFlow clientId processListArtifact rows = some operation.externalOperationId ∧
          operation.externalOperationId.length ≤ 512 := by
  rcases returns_evaluate_bind_iff.mp hreturns with ⟨e, -, rfl, rfl⟩ | ⟨clientId, hclient, htimeout⟩
  · exact .inl ⟨rfl, e, rfl⟩
  rcases returns_evaluate_bind_iff.mp htimeout with ⟨e, -, rfl, rfl⟩ | ⟨seconds, hseconds, hsubmit⟩
  · exact .inl ⟨rfl, e, rfl⟩
  rcases returns_bind_iff.mp hsubmit with ⟨e, hschedule, rfl⟩ |
    ⟨h₁, flowId, h₂, rfl, hschedule, hmake⟩
  · rcases returns_schedule hschedule with ⟨hnone, -⟩ | ⟨timeout, stream, htimeout, hone, hne, -⟩
    · exact .inl ⟨hnone, e, rfl⟩
    · obtain rfl := validateTimeout_finite htimeout
      refine .inr ⟨clientId, _, stream, hclient, hseconds, hone, ?_, nofun⟩
      exact fun heq => hne (congrArg Except.error (Except.error.inj heq))
  · obtain ⟨rfl, rfl⟩ := returns_evaluate_iff.mp hmake
    rcases returns_schedule hschedule with ⟨-, e, he⟩ |
      ⟨timeout, stream, htimeout, hone, -, hok⟩
    · cases he
    obtain rfl := validateTimeout_finite htimeout
    obtain ⟨rows, hrows, hflow⟩ := hok flowId rfl
    rw [List.append_nil]
    refine .inr ⟨clientId, _, stream, hclient, hseconds, hone, ?_, fun operation hr => ?_⟩
    · unfold SubmittedOperation.make
      split
      · exact nofun
      · next e he =>
          intro heq
          cases heq
          exact checks_ne _ he
    · obtain ⟨heq, hlength⟩ := length_of_make hr
      rw [heq]
      exact ⟨rows, hrows, hflow, hlength⟩

theorem returns_poll {flowId : String} {timeoutSeconds : Option PyNumber}
    {r : Except PyError OperationStatus}
    (hreturns : Returns (backend.poll lib request flowId timeoutSeconds) h r) :
    (queried h = [] ∧ ∃ e, r = .error e) ∨
      ∃ clientId stream, backend.resolveClientId request = .ok clientId ∧
        queried h = [(pollingVql (dumpsString clientId) (dumpsString flowId), stream)] ∧
        ∀ status, r = .ok status → ∃ rows, rowsOf lib stream = .ok rows ∧
          polledStatus clientId processListArtifact flowId rows = .ok status := by
  rcases returns_evaluate_bind_iff.mp hreturns with ⟨e, -, rfl, rfl⟩ | ⟨clientId, hclient, htimeout⟩
  · exact .inl ⟨rfl, e, rfl⟩
  rcases returns_evaluate_bind_iff.mp htimeout with ⟨e, -, rfl, rfl⟩ | ⟨timeout, -, hpoll⟩
  · exact .inl ⟨rfl, e, rfl⟩
  rcases returns_pollFlow hpoll with hnone | ⟨stream, hone, hok⟩
  · exact .inl hnone
  · exact .inr ⟨clientId, stream, hclient, hone, hok⟩

/-- **A rejection means nothing was sent, and an ID means a verified flow.** However the channel,
the streams and the event log behave, a submission is rejected only before a query is started, and
returns an operation only where its one query, which asks for the artifact on the client of the
request within the timeout, gave one row that names it, the client and the artifact; the core takes
every other exception for an unknown outcome. A poll never schedules, and reports an end only from
one row of its query for the flow of the client that names the flow, client and artifact polled. -/
theorem submission_verified (backend : VelociraptorBackend) (lib : Library)
    (request : InvestigationRequest) :
    (∀ timeout h r, Returns (backend.submit lib request timeout) h r →
      (r = .error .backendSubmissionRejected → queried h = []) ∧
      (∀ operation, r = .ok operation → ∃ clientId seconds stream batches row,
          backend.resolveClientId request = .ok clientId ∧
        backend.effectiveTimeout timeout = .ok seconds ∧
        queried h = [(schedulingVql (dumpsString clientId) (dumpsString processListArtifact)
          (lib.dumpsFloat seconds), stream)] ∧
        stream.failure = none ∧ stream.responses.mapM (readBatch lib) = .ok batches ∧
        batches.flatten = [row] ∧
        Names "flow_id" operation.externalOperationId clientId processListArtifact row ∧
        operation.externalOperationId.startsWith "F." = true ∧
        isBlank operation.externalOperationId = false ∧
        operation.externalOperationId.length ≤ 512) ∧
      ∀ e, r = .error e → e ≠ .backendSubmissionRejected →
        ∀ o record claimed selected planned backendName deadline h' r',
          Returns (PersistentAlertProcessor.submitClaimed o record claimed selected planned
            backendName deadline) h' r' →
          PersistentAlertProcessor.submissionAnswer h' = some (.error e) →
          ∃ answer, ⟨.repository (.markRecoveryRequired claimed.attemptId [.submitting]
            "backend_submission_unknown" "backend submission outcome is unknown"), answer⟩ ∈ h') ∧
    ∀ flowId timeout h r, Returns (backend.poll lib request flowId timeout) h r →
      (∀ query ∈ queried h, ∀ clientLiteral artifactLiteral timeoutLiteral,
        query.1 ≠ schedulingVql clientLiteral artifactLiteral timeoutLiteral) ∧
      ∀ status, r = .ok status →
        status.state = some .succeeded ∨ status.state = some .failed →
        ∃ clientId stream batches row, backend.resolveClientId request = .ok clientId ∧
          queried h = [(pollingVql (dumpsString clientId) (dumpsString flowId), stream)] ∧
          stream.failure = none ∧
          stream.responses.mapM (readBatch lib) = .ok batches ∧ batches.flatten = [row] ∧
          Names "session_id" flowId clientId processListArtifact row := by
  refine ⟨fun timeout h r hreturns => ?_, fun flowId timeout h r hreturns => ?_⟩
  · refine ⟨?_, ?_, fun e he hne o record claimed selected planned backendName deadline h' r'
      hreturns' hanswer =>
        PersistentAlertProcessor.recovers_of_submitClaimed hreturns' hanswer hne⟩
    · rintro rfl
      rcases returns_submit hreturns with ⟨hnone, -⟩ | ⟨_, _, _, -, -, -, hne, -⟩
      · exact hnone
      · exact absurd rfl hne
    · rintro operation rfl
      rcases returns_submit hreturns with ⟨-, e, he⟩ |
        ⟨clientId, seconds, stream, hclient, hseconds, hone, -, hok⟩
      · cases he
      obtain ⟨rows, hrows, hflow, hlength⟩ := hok operation rfl
      obtain ⟨row, rfl, hnames, hblank, hprefix⟩ := scheduledFlow_eq_some_iff.mp hflow
      obtain ⟨hunbroken, batches, hbatches, hflatten⟩ := rowsOf_eq_ok_iff.mp hrows
      exact ⟨clientId, seconds, stream, batches, row, hclient, hseconds, hone, hunbroken, hbatches,
        hflatten, hnames, hprefix, hblank, hlength⟩
  · rcases returns_poll hreturns with ⟨hnone, e, rfl⟩ |
      ⟨clientId, stream, hclient, hone, hok⟩
    · exact ⟨by simp [hnone], nofun⟩
    refine ⟨?_, fun status hr hterminal => ?_⟩
    · intro query hmem clientLiteral' artifactLiteral timeoutLiteral
      rw [hone, List.mem_singleton] at hmem
      rw [hmem]
      exact pollingVql_ne_schedulingVql
    · obtain ⟨rows, hrows, hstatus⟩ := hok status hr
      obtain ⟨row, rfl, hnames⟩ := names_of_polledStatus hstatus (by
        rcases hterminal with heq | heq <;> simp [heq])
      obtain ⟨hunbroken, batches, hbatches, hflatten⟩ := rowsOf_eq_ok_iff.mp hrows
      exact ⟨clientId, stream, batches, row, hclient, hone, hunbroken, hbatches, hflatten,
        hnames⟩

end VelociraptorBackend

end Alert2IR
