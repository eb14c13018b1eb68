import Mathlib.Algebra.Order.Ring.Rat
import Mathlib.Tactic.Linarith
import Alert2IR.Guarantees.Velociraptor
import Alert2IR.Interleaving.Environment

/-!
# One collection, or a submission and its polls

`collect` schedules and polls in one loop what `schedule` and `poll_flow` do in separate calls. Fed
the same streams they come to the same end, as long as the local deadline of the loop is not
reached; and the deadline is reached by any clock that advances as long as the loop sleeps.
-/

namespace Alert2IR

namespace Velociraptor

open Interleaving.Proc

/-! ### A server, stream by stream -/

/-- What each query streams, and what each reading of the clock is. -/
structure Server where
  streams : Nat → Stream
  readings : Nat → Rat

/-- How many queries and readings there have been. -/
structure Progress where
  queries : Nat
  readings : Nat

/-- A server whose channels and event log never fail. -/
def Server.answers (server : Server) : Interleaving.Responder Progress Api Api.Response
  | s, .createChannel => (.ready, s)
  | s, .query .. => (server.streams s.queries, { s with queries := s.queries + 1 })
  | s, .close => (none, s)
  | s, .operationSubmitted _ => (none, s)
  | s, .monotonic => (server.readings s.readings, { s with readings := s.readings + 1 })
  | s, .sleep _ => ((), s)

variable {server : Server} {lib : Library} {α : Type} {s : Progress}

theorem readings_le (p : Proc α) : s.readings ≤ (eval server.answers p s).2.readings :=
  eval_mono (f := Progress.readings) (fun s c => by cases c <;> simp [Server.answers]) p s

@[simp]
theorem eval_evaluate (x : Except PyError α) :
    eval server.answers (Proc.evaluate x) s = (x, s) := by
  cases x <;> rfl

theorem eval_runQuery {vql : String} {timeout : Rat} :
    eval server.answers (runQuery lib vql timeout) s =
      (rowsOf lib (server.streams s.queries), { s with queries := s.queries + 1 }) :=
  (eval_bind_of_ok (server.streams s.queries) _ rfl).trans (eval_evaluate _)

theorem eval_withChannel {uncreated : PyError} {body : Proc α} :
    eval server.answers (withChannel uncreated body) s = eval server.answers body s := by
  refine (eval_bind_of_ok ChannelOutcome.ready s rfl).trans ?_
  refine (eval_bind_of_ok _ _ (eval_catching body s)).trans ?_
  refine (eval_bind_of_ok none (eval server.answers body s).2 rfl).trans ?_
  refine (eval_bind_of_ok () (eval server.answers body s).2 rfl).trans ?_
  exact eval_evaluate _

theorem eval_queryOnce {vql : String} {timeout : Rat} :
    eval server.answers (queryOnce lib vql timeout) s =
      (rowsOf lib (server.streams s.queries), { s with queries := s.queries + 1 }) :=
  eval_withChannel.trans eval_runQuery

/-! ### Scheduling -/

variable {clientId artifact : String} {timeoutSeconds : PyNumber}

/-- The flow that a scheduling request with these arguments gets out of a stream. -/
def scheduledBy (lib : Library) (clientId artifact : String) (timeoutSeconds : PyNumber)
    (stream : Stream) : Option String := do
  let _ ← (validateTimeout timeoutSeconds).toOption
  let _ ← (vqlStringLiteral clientId).toOption
  let _ ← (vqlStringLiteral artifact).toOption
  let rows ← (rowsOf lib stream).toOption
  scheduledFlow clientId artifact rows

theorem toOption_eq_some_iff {ε : Type} {x : Except ε α} {a : α} :
    x.toOption = some a ↔ x = .ok a := by
  cases x <;> simp [Except.toOption]

theorem toOption_eq_none_iff {ε : Type} {x : Except ε α} :
    x.toOption = none ↔ ∃ e, x = .error e := by
  cases x <;> simp [Except.toOption]

theorem toOption_eval_schedule (server : Server) (lib : Library) (clientId artifact : String)
    (timeoutSeconds : PyNumber) (s : Progress) :
    (eval server.answers (schedule lib clientId artifact timeoutSeconds) s).1.toOption =
      scheduledBy lib clientId artifact timeoutSeconds (server.streams s.queries) := by
  unfold schedule scheduledBy
  cases validateTimeout timeoutSeconds with
  | error e => rfl
  | ok timeout =>
  cases vqlStringLiteral clientId with
  | error e => rfl
  | ok clientLiteral =>
  cases vqlStringLiteral artifact with
  | error e => rfl
  | ok artifactLiteral =>
  simp only [eval_bind, eval_evaluate, eval_catching, eval_queryOnce]
  cases rowsOf lib (server.streams s.queries) with
  | error e => cases e <;> rfl
  | ok rows =>
      simp only [Except.toOption, Option.bind_eq_bind, Option.bind_some]
      cases scheduledFlow clientId artifact rows with
      | none => rfl
      | some flowId => rfl

/-- The loop of `collect` for a flow, from its first reading of the clock on. -/
def looping (lib : Library) (clientId artifact flowId : String) (timeout : Rat) (rounds : Nat) :
    Proc (Option String) := do
  let flowLiteral ← Proc.evaluate (vqlStringLiteral flowId)
  let started ← Proc.monotonic
  collectRounds lib clientId artifact flowId (pollingVql (dumpsString clientId) flowLiteral)
    (started + timeout) rounds

theorem dumpsString_of_ok {value literal : String} (h : vqlStringLiteral value = .ok literal) :
    literal = dumpsString value := by
  unfold vqlStringLiteral at h
  split at h
  · cases h
  · exact (Except.ok.inj h).symm

/-- **`collect` schedules as `schedule` does**, and goes on to its loop with the same flow. -/
theorem eval_collect (server : Server) (lib : Library) (clientId artifact : String)
    (timeoutSeconds : PyNumber) (rounds : Nat) (s : Progress) :
    (scheduledBy lib clientId artifact timeoutSeconds (server.streams s.queries) = none ∧
      ∃ e s', eval server.answers (collect lib clientId artifact timeoutSeconds rounds) s =
        (.error e, s')) ∨
    ∃ flowId timeout,
      scheduledBy lib clientId artifact timeoutSeconds (server.streams s.queries) = some flowId ∧
      validateTimeout timeoutSeconds = .ok timeout ∧
      eval server.answers (collect lib clientId artifact timeoutSeconds rounds) s =
        eval server.answers (looping lib clientId artifact flowId timeout rounds)
          { s with queries := s.queries + 1 } := by
  unfold collect scheduledBy
  cases htimeout : validateTimeout timeoutSeconds with
  | error e => exact .inl ⟨rfl, e, s, rfl⟩
  | ok timeout =>
  cases hclient : vqlStringLiteral clientId with
  | error e => exact .inl ⟨rfl, e, s, rfl⟩
  | ok clientLiteral =>
  cases vqlStringLiteral artifact with
  | error e => exact .inl ⟨rfl, e, s, rfl⟩
  | ok artifactLiteral =>
  simp only [eval_bind, eval_evaluate, eval_withChannel, eval_runQuery]
  cases rowsOf lib (server.streams s.queries) with
  | error e => exact .inl ⟨rfl, e, _, rfl⟩
  | ok rows =>
      simp only [Except.toOption, Option.bind_eq_bind, Option.bind_some]
      cases hflow : scheduledFlow clientId artifact rows with
      | some flowId =>
          obtain ⟨row, rfl, hnames, hblank, hprefix⟩ := scheduledFlow_eq_some_iff.mp hflow
          refine .inr ⟨flowId, timeout, rfl, rfl, ?_⟩
          simp only [hnames.flow, hblank, hprefix, isText_iff.mpr hnames.client,
            validateArtifacts_iff.mpr hnames.artifacts, dumpsString_of_ok hclient]
          rfl
      | none =>
          refine .inl ⟨rfl, ?_⟩
          match rows with
          | [] => exact ⟨_, _, rfl⟩
          | _ :: _ :: _ => exact ⟨_, _, rfl⟩
          | [row] =>
              cases hrow : row.get "flow_id" with
              | none => exact ⟨_, _, by simp only [hrow]; rfl⟩
              | some value =>
                  cases value with
                  | str flowId =>
                      simp only [hrow]
                      by_cases hinvalid :
                          (isBlank flowId || !flowId.startsWith "F.") = true
                      · rw [if_pos hinvalid]
                        exact ⟨_, _, rfl⟩
                      rw [if_neg hinvalid]
                      by_cases hclient' : isText (row.get "client_id") clientId = true
                      · have hartifacts :
                            validateArtifacts (row.get "artifacts") artifact = false := by
                          simpa [scheduledFlow, hrow, hinvalid, hclient'] using hflow
                        simp only [hclient', hartifacts]
                        exact ⟨_, _, rfl⟩
                      · simp only [Bool.not_eq_true] at hclient'
                        simp only [hclient']
                        exact ⟨_, _, rfl⟩
                  | _ => exact ⟨_, _, by simp only [hrow]; rfl⟩

/-! ### Polling -/

variable {flowId vql : String} {deadline : Rat}

/-- What a poll of a flow makes of a stream. -/
def polledBy (lib : Library) (clientId artifact flowId : String) (stream : Stream) :
    Except PyError OperationStatus := do
  let rows ← rowsOf lib stream
  polledStatus clientId artifact flowId rows

theorem eval_pollFlow {clientLiteral artifactLiteral flowLiteral : String} {timeout : Rat}
    (htimeout : validateTimeout timeoutSeconds = .ok timeout)
    (hclient : vqlStringLiteral clientId = .ok clientLiteral)
    (hartifact : vqlStringLiteral artifact = .ok artifactLiteral)
    (hflow : vqlStringLiteral flowId = .ok flowLiteral) :
    (eval server.answers (pollFlow lib clientId artifact flowId timeoutSeconds) s).1 =
      polledBy lib clientId artifact flowId (server.streams s.queries) := by
  unfold pollFlow polledBy
  simp only [eval_bind, eval_evaluate, htimeout, hclient, hartifact, hflow, eval_queryOnce]
  cases rowsOf lib (server.streams s.queries) with
  | error e => rfl
  | ok rows => rfl

/-- A stream that a poll takes for a status in this state. -/
def Polls (lib : Library) (clientId artifact flowId : String) (state : OperationState)
    (stream : Stream) : Prop :=
  ∃ status, polledBy lib clientId artifact flowId stream = .ok status ∧ status.state = some state

/-- A stream after which the operation has failed, as far as a poll can tell. -/
def Fails (lib : Library) (clientId artifact flowId : String) (stream : Stream) : Prop :=
  Polls lib clientId artifact flowId .failed stream ∨
    ∃ e, polledBy lib clientId artifact flowId stream = .error e

theorem Polls.unique {state state' : OperationState} {stream : Stream}
    (hpolls : Polls lib clientId artifact flowId state stream)
    (hpolls' : Polls lib clientId artifact flowId state' stream) : state = state' := by
  obtain ⟨status, hstatus, hstate⟩ := hpolls
  obtain ⟨status', hstatus', hstate'⟩ := hpolls'
  cases hstatus.symm.trans hstatus'
  exact Option.some.inj (hstate.symm.trans hstate')

theorem Fails.not_polls {state : OperationState} {stream : Stream}
    (hfails : Fails lib clientId artifact flowId stream) (hstate : state ≠ .failed) :
    ¬ Polls lib clientId artifact flowId state stream := by
  rintro hpolls
  rcases hfails with hfailed | ⟨e, he⟩
  · exact hstate (hpolls.unique hfailed)
  · obtain ⟨status, hstatus, -⟩ := hpolls
    cases he.symm.trans hstatus

/-! ### The loop -/

/-- One reading of the clock says what is left, or that nothing is. -/
theorem eval_deadlineRemaining (hearly : server.readings s.readings < deadline) :
    eval server.answers (deadlineRemaining deadline) s =
      (.ok (deadline - server.readings s.readings), { s with readings := s.readings + 1 }) := by
  refine (eval_bind_of_ok (server.readings s.readings) { s with readings := s.readings + 1 }
    rfl).trans ?_
  rw [if_neg (by linarith)]
  rfl

theorem eval_waitForNextPoll (hearly : server.readings s.readings < deadline) :
    eval server.answers (waitForNextPoll deadline) s =
      (.ok (), { s with readings := s.readings + 1 }) :=
  eval_bind_of_ok _ _ (eval_deadlineRemaining hearly)

theorem readings_lt_bind {β : Type} {p : Proc α} {f : α → Proc β}
    (hlt : s.readings < (eval server.answers p s).2.readings) :
    s.readings < (eval server.answers (p >>= f) s).2.readings := by
  rw [eval_bind]
  generalize eval server.answers p s = x at hlt ⊢
  obtain ⟨r, s'⟩ := x
  cases r with
  | error e => exact hlt
  | ok a => exact hlt.trans_le (readings_le _)

theorem readings_lt_deadlineRemaining :
    s.readings < (eval server.answers (deadlineRemaining deadline) s).2.readings :=
  readings_lt_bind (Nat.lt_succ_self s.readings)

theorem readings_lt_waitForNextPoll :
    s.readings < (eval server.answers (waitForNextPoll deadline) s).2.readings :=
  readings_lt_bind readings_lt_deadlineRemaining

/-- **One round does what one poll says.** -/
theorem eval_collectRounds_succ {rounds : Nat}
    (hearly : server.readings s.readings < deadline) :
    (Polls lib clientId artifact flowId .nonterminal (server.streams s.queries) ∧
      eval server.answers
          (collectRounds lib clientId artifact flowId vql deadline (rounds + 1)) s =
        eval server.answers (waitForNextPoll deadline >>= fun _ =>
          collectRounds lib clientId artifact flowId vql deadline rounds)
          ⟨s.queries + 1, s.readings + 1⟩) ∨
    (Polls lib clientId artifact flowId .succeeded (server.streams s.queries) ∧
      (eval server.answers
        (collectRounds lib clientId artifact flowId vql deadline (rounds + 1)) s).1 =
          .ok (some flowId)) ∨
    (Fails lib clientId artifact flowId (server.streams s.queries) ∧
      ∃ e, (eval server.answers
        (collectRounds lib clientId artifact flowId vql deadline (rounds + 1)) s).1 =
          .error e) := by
  rw [collectRounds]
  unfold Fails Polls polledBy
  rw [eval_bind_of_ok _ _ (eval_deadlineRemaining hearly)]
  simp only [eval_bind _ _ (⟨s.queries, s.readings + 1⟩ : Progress), eval_runQuery]
  cases rowsOf lib (server.streams s.queries) with
  | error e => exact .inr (.inr ⟨.inr ⟨e, rfl⟩, e, rfl⟩)
  | ok rows =>
      match rows with
      | [] => exact .inl ⟨⟨_, rfl, rfl⟩, rfl⟩
      | _ :: _ :: _ => exact .inr (.inr ⟨.inr ⟨_, rfl⟩, _, rfl⟩)
      | [row] =>
          simp only [polledStatus, bind, Except.bind]
          by_cases hsession : isText (row.get "session_id") flowId = true
          · by_cases hclient : isText (row.get "client_id") clientId = true
            · by_cases hartifacts : validateArtifacts (row.get "artifacts") artifact = true
              · simp only [hsession, hclient, hartifacts]
                cases hstate : row.get "state" with
                | none => exact .inr (.inr ⟨.inr ⟨_, rfl⟩, _, rfl⟩)
                | some value =>
                    cases value with
                    | str state =>
                        by_cases hsucceeded : state ∈ terminalSuccessFlowStates
                        · obtain rfl := List.mem_singleton.mp hsucceeded
                          exact .inr (.inl ⟨⟨_, rfl, rfl⟩, rfl⟩)
                        by_cases hfailed : state ∈ terminalFailureFlowStates
                        · obtain rfl := List.mem_singleton.mp hfailed
                          exact .inr (.inr ⟨.inl ⟨_, rfl, rfl⟩, _, rfl⟩)
                        by_cases hnonterminal : state ∈ nonterminalFlowStates
                        · simp only [nonterminalFlowStates, List.mem_cons, List.not_mem_nil,
                            or_false] at hnonterminal
                          rcases hnonterminal with rfl | rfl | rfl | rfl | rfl
                          all_goals exact .inl ⟨⟨_, rfl, rfl⟩, rfl⟩
                        · simp only [List.contains_eq_mem, hsucceeded, hfailed, hnonterminal]
                          exact .inr (.inr ⟨.inr ⟨_, rfl⟩, _, rfl⟩)
                    | _ => exact .inr (.inr ⟨.inr ⟨_, rfl⟩, _, rfl⟩)
              · simp only [Bool.not_eq_true] at hartifacts
                simp only [hsession, hclient, hartifacts]
                exact .inr (.inr ⟨.inr ⟨_, rfl⟩, _, rfl⟩)
            · simp only [Bool.not_eq_true] at hclient
              simp only [hsession, hclient]
              exact .inr (.inr ⟨.inr ⟨_, rfl⟩, _, rfl⟩)
          · simp only [Bool.not_eq_true] at hsession
            simp only [hsession]
            exact .inr (.inr ⟨.inr ⟨_, rfl⟩, _, rfl⟩)

/-- **The loop ends as the first poll that is not nonterminal says**, as long as no reading of the
clock reaches the deadline. -/
theorem eval_collectRounds {rounds : Nat}
    (hearly : ∀ m, s.readings ≤ m →
      m < (eval server.answers
        (collectRounds lib clientId artifact flowId vql deadline rounds) s).2.readings →
      server.readings m < deadline) :
    (∃ n < rounds,
      (∀ k < n, Polls lib clientId artifact flowId .nonterminal (server.streams (s.queries + k))) ∧
      Polls lib clientId artifact flowId .succeeded (server.streams (s.queries + n)) ∧
      (eval server.answers (collectRounds lib clientId artifact flowId vql deadline rounds) s).1 =
        .ok (some flowId)) ∨
    (∃ n < rounds,
      (∀ k < n, Polls lib clientId artifact flowId .nonterminal (server.streams (s.queries + k))) ∧
      Fails lib clientId artifact flowId (server.streams (s.queries + n)) ∧
      ∃ e, (eval server.answers
        (collectRounds lib clientId artifact flowId vql deadline rounds) s).1 = .error e) ∨
    ((∀ k < rounds,
        Polls lib clientId artifact flowId .nonterminal (server.streams (s.queries + k))) ∧
      (eval server.answers (collectRounds lib clientId artifact flowId vql deadline rounds) s).1 =
        .ok none) := by
  induction rounds generalizing s with
  | zero => exact .inr (.inr ⟨by simp, rfl⟩)
  | succ rounds ih =>
      have hfirst : server.readings s.readings < deadline := by
        refine hearly s.readings (le_refl _) ?_
        rw [collectRounds]
        exact readings_lt_bind readings_lt_deadlineRemaining
      rcases eval_collectRounds_succ hfirst with ⟨hpolls, heq⟩ | ⟨hpolls, heq⟩ | ⟨hfails, heq⟩
      · have hsecond : server.readings (s.readings + 1) < deadline := by
          refine hearly _ (Nat.le_succ _) ?_
          rw [heq]
          exact readings_lt_bind (s := ⟨s.queries + 1, s.readings + 1⟩) readings_lt_waitForNextPoll
        rw [eval_bind_of_ok _ _ (eval_waitForNextPoll hsecond)] at heq
        rw [heq] at hearly ⊢
        have hshift : ∀ k, s.queries + 1 + k = s.queries + (k + 1) := by omega
        have hrest := ih (s := ⟨s.queries + 1, s.readings + 1 + 1⟩) fun m hle hlt =>
          hearly m (by dsimp only at hle; omega) hlt
        simp only [hshift] at hrest
        -- The poll of this round comes before those of the rest.
        rcases hrest with ⟨n, hn, hbefore, hend⟩ | ⟨n, hn, hbefore, hend⟩ | ⟨hbefore, hend⟩
        · refine .inl ⟨n + 1, by omega, ?_, hend⟩
          rw [Nat.forall_lt_succ_left]
          exact ⟨hpolls, hbefore⟩
        · refine .inr (.inl ⟨n + 1, by omega, ?_, hend⟩)
          rw [Nat.forall_lt_succ_left]
          exact ⟨hpolls, hbefore⟩
        · refine .inr (.inr ⟨?_, hend⟩)
          rw [Nat.forall_lt_succ_left]
          exact ⟨hpolls, hbefore⟩
      · exact .inl ⟨0, Nat.succ_pos _, by simp, hpolls, heq⟩
      · exact .inr (.inl ⟨0, Nat.succ_pos _, by simp, hfails, heq⟩)

/-- The first of a sequence that is not as those before it is of one kind only. -/
theorem not_both_first {P Q Q' : Nat → Prop} (hPQ : ∀ n, P n → ¬ Q n) (hPQ' : ∀ n, P n → ¬ Q' n)
    (hQQ' : ∀ n, Q n → ¬ Q' n) {n n' : Nat} (hbefore : ∀ k < n, P k) (hq : Q n)
    (hbefore' : ∀ k < n', P k) (hq' : Q' n') : False := by
  rcases lt_trichotomy n n' with hlt | rfl | hlt
  · exact hPQ n (hbefore' n hlt) hq
  · exact hQQ' n hq hq'
  · exact hPQ' n' (hbefore n' hlt) hq'

theorem eval_collectRounds_iff {rounds : Nat}
    (hearly : ∀ m, s.readings ≤ m →
      m < (eval server.answers
        (collectRounds lib clientId artifact flowId vql deadline rounds) s).2.readings →
      server.readings m < deadline) :
    (∀ flowId', (eval server.answers
        (collectRounds lib clientId artifact flowId vql deadline rounds) s).1 = .ok (some flowId') ↔
      flowId = flowId' ∧ ∃ n < rounds,
        (∀ k < n, Polls lib clientId artifact flowId .nonterminal
          (server.streams (s.queries + k))) ∧
        Polls lib clientId artifact flowId .succeeded (server.streams (s.queries + n))) ∧
    ((∃ e, (eval server.answers
        (collectRounds lib clientId artifact flowId vql deadline rounds) s).1 = .error e) ↔
      ∃ n < rounds,
        (∀ k < n, Polls lib clientId artifact flowId .nonterminal
          (server.streams (s.queries + k))) ∧
        Fails lib clientId artifact flowId (server.streams (s.queries + n))) := by
  have hdistinct : ∀ n, Polls lib clientId artifact flowId .nonterminal
        (server.streams (s.queries + n)) →
      ¬ Polls lib clientId artifact flowId .succeeded (server.streams (s.queries + n)) :=
    fun n hpolls hpolls' => nomatch hpolls.unique hpolls'
  have hgoing : ∀ n, Polls lib clientId artifact flowId .nonterminal
        (server.streams (s.queries + n)) →
      ¬ Fails lib clientId artifact flowId (server.streams (s.queries + n)) :=
    fun n hpolls hfails => hfails.not_polls (by decide) hpolls
  have hdone : ∀ n, Polls lib clientId artifact flowId .succeeded
        (server.streams (s.queries + n)) →
      ¬ Fails lib clientId artifact flowId (server.streams (s.queries + n)) :=
    fun n hpolls hfails => hfails.not_polls (by decide) hpolls
  rcases eval_collectRounds hearly with
    ⟨n, hn, hbefore, hpolls, heq⟩ | ⟨n, hn, hbefore, hfails, e, heq⟩ | ⟨hbefore, heq⟩
  · rw [heq]
    refine ⟨fun flowId' => ⟨?_, ?_⟩, nofun, ?_⟩
    · rintro ⟨⟩
      exact ⟨rfl, n, hn, hbefore, hpolls⟩
    · rintro ⟨rfl, -⟩
      rfl
    · rintro ⟨n', -, hbefore', hfails⟩
      exact (not_both_first hdistinct hgoing hdone hbefore hpolls hbefore' hfails).elim
  · rw [heq]
    refine ⟨fun flowId' => ⟨nofun, ?_⟩, fun _ => ⟨n, hn, hbefore, hfails⟩, fun _ => ⟨e, rfl⟩⟩
    rintro ⟨-, n', -, hbefore', hpolls⟩
    exact (not_both_first hdistinct hgoing hdone hbefore' hpolls hbefore hfails).elim
  · rw [heq]
    refine ⟨fun flowId' => ⟨nofun, ?_⟩, nofun, ?_⟩
    · rintro ⟨-, n, hn, -, hpolls⟩
      exact (hdistinct n (hbefore n hn) hpolls).elim
    · rintro ⟨n, hn, -, hfails⟩
      exact (hgoing n (hbefore n hn) hfails).elim

/-! ### The deadline -/

/-- The true time, the deadline that the first reading of the clock sets, the last reading, and how
many queries came to an end at or after the deadline. -/
structure Watch where
  now : Rat
  deadline : Option Rat
  reading : Rat
  overran : Nat

/-- How time passes in a call. The clock reads a time within the call, a sleep takes as long as it
was asked for or longer, and nothing is said of how long anything else takes. -/
def Watch.tick (timeout : Rat) (s : Watch) : (c : Api) → c.Response → Watch → Prop
  | .monotonic, (reading : Rat), s' =>
      s.now ≤ reading ∧ reading ≤ s'.now ∧
        s' = ⟨s'.now, some (s.deadline.getD (reading + timeout)), reading, s.overran⟩
  | .sleep seconds, _, s' => s.now + seconds ≤ s'.now ∧ s' = { s with now := s'.now }
  | .query .., _, s' =>
      s.now ≤ s'.now ∧ s' = { s with
        now := s'.now
        overran := s.overran + if s.deadline.any fun deadline => deadline ≤ s'.now then 1 else 0 }
  | _, _, s' => s.now ≤ s'.now ∧ s' = { s with now := s'.now }

/-- Once there is a deadline, a query is started only where none has overrun it, and is given what
was left at the last reading; nor does a sleep reach beyond it. -/
def Watch.Punctual (s : Watch) (c : Api) : Prop :=
  ∀ deadline, s.deadline = some deadline →
    match c with
    | .query _ timeout => s.overran = 0 ∧ s.reading < deadline ∧ s.reading + timeout = deadline
    | .sleep seconds => s.overran = 0 ∧ s.reading + seconds ≤ deadline
    | _ => True

/-- A collection that has come to its end, with one query at most that overran the deadline. -/
def Ended (r : Except PyError (Option String)) (s : Watch) : Prop := r ≠ .ok none ∧ s.overran ≤ 1

section Time

variable {timeout : Rat} {w : Watch}

theorem wp_evaluate {Q : Except PyError α → Watch → Prop} {x : Except PyError α} :
    wp (Watch.tick timeout) Watch.Punctual Q (Proc.evaluate x) w ↔ Q x w := by
  cases x with
  | ok a => exact Iff.rfl
  | error e => exact Iff.rfl

theorem wp_raiseIf {Q : Except PyError Unit → Watch → Prop} {failure : Option LibraryError}
    (h : ∀ r, Q r w) : wp (Watch.tick timeout) Watch.Punctual Q (raiseIf failure) w := by
  cases failure with
  | none => exact h _
  | some e => exact h _

/-- A reading either leaves some time or raises. -/
theorem wp_deadlineRemaining {Q : Except PyError Rat → Watch → Prop}
    (hdeadline : w.deadline = some deadline)
    (hearly : ∀ reading now, w.now ≤ reading → reading ≤ now → reading < deadline →
      Q (.ok (deadline - reading)) ⟨now, some deadline, reading, w.overran⟩)
    (hlate : ∀ e reading now, Q (.error e) ⟨now, some deadline, reading, w.overran⟩) :
    wp (Watch.tick timeout) Watch.Punctual Q (deadlineRemaining deadline) w := by
  refine (wp_bind Q _ _ w).mpr ⟨fun _ _ => trivial, fun (reading : Rat) w' htick => ?_⟩
  obtain ⟨hle, hle', hw'⟩ := htick
  rw [hdeadline, Option.getD_some] at hw'
  rw [hw']
  show wp _ _ Q (if deadline - reading ≤ 0 then _ else _) _
  split
  · exact hlate _ reading w'.now
  · next hleft => exact hearly reading w'.now hle hle' (by linarith)

/-- A query ends with what its stream comes to, and either overran the deadline or did not. -/
theorem wp_runQuery {Q : Except PyError (List Value) → Watch → Prop} {seconds : Rat}
    (hpunctual : w.Punctual (.query vql seconds))
    (hrows : ∀ rows w', w.now ≤ w'.now → w'.deadline = w.deadline →
      (w'.overran = w.overran ∨ w'.overran = w.overran + 1 ∧
        ∃ deadline, w.deadline = some deadline ∧ deadline ≤ w'.now) → Q rows w') :
    wp (Watch.tick timeout) Watch.Punctual Q (runQuery lib vql seconds) w := by
  refine (wp_bind Q _ _ w).mpr ⟨hpunctual, fun (stream : Stream) w' htick => ?_⟩
  obtain ⟨hnow, hw'⟩ := htick
  refine wp_evaluate.mpr (hrows _ w' hnow (by rw [hw']) ?_)
  by_cases hlate : w.deadline.any (fun deadline => deadline ≤ w'.now) = true
  · refine .inr ⟨by rw [hw', if_pos hlate], ?_⟩
    simpa [Option.any_eq_true] using hlate
  · exact .inl (by rw [hw', if_neg hlate, Nat.add_zero])

/-- **A round ends the collection or goes on to wait**, with the deadline not yet overrun, or
overrun by its own query. -/
theorem wp_collectRounds_succ {rounds : Nat} (hdeadline : w.deadline = some deadline)
    (hnone : w.overran = 0)
    (hwait : ∀ w', w'.deadline = some deadline → w.now ≤ w'.now → w.now < deadline →
      w'.overran ≤ 1 → (w'.now < deadline → w'.overran = 0) →
      wp (Watch.tick timeout) Watch.Punctual Ended (waitForNextPoll deadline >>= fun _ =>
        collectRounds lib clientId artifact flowId vql deadline rounds) w') :
    wp (Watch.tick timeout) Watch.Punctual Ended
      (collectRounds lib clientId artifact flowId vql deadline (rounds + 1)) w := by
  rw [collectRounds, wp_bind]
  refine wp_deadlineRemaining hdeadline (fun reading now hle hle' hlt => ?_) fun e reading now => ?_
  · refine (wp_bind Ended _ _ _).mpr (wp_runQuery ?_ fun result w' hnow hkept hcount => ?_)
    · rintro _ ⟨⟩
      exact ⟨hnone, hlt, add_sub_cancel _ _⟩
    have hnow' : now ≤ w'.now := hnow
    have hover : w'.overran ≤ 1 := by
      dsimp only at hcount
      omega
    have hgo : wp _ _ _ _ _ := hwait w' hkept (by linarith) (by linarith) hover fun hearly => by
      rcases hcount with hsame | ⟨-, _, ⟨⟩, hlate⟩
      · exact hsame.trans hnone
      · linarith
    have hthrow : ∀ e : PyError, Ended (.error e) w' := fun e => ⟨nofun, hover⟩
    cases result with
    | error e => exact hthrow e
    | ok rows =>
        dsimp only
        split
        · exact hgo
        · split
          · exact hthrow _
          split
          · exact hthrow _
          split
          · exact hthrow _
          split
          · split
            · exact ⟨nofun, hover⟩
            split
            · exact hgo
            split
            · exact hthrow _
            · exact hthrow _
          · exact hthrow _
        · exact hthrow _
  · exact ⟨nofun, by simp [hnone]⟩

/-- **The loop ends after as many rounds as the deadline leaves it seconds**, and one more. -/
theorem wp_collectRounds {rounds : Nat} (hdeadline : w.deadline = some deadline)
    (hnone : w.overran = 0) (hleft : deadline - w.now ≤ rounds) :
    wp (Watch.tick timeout) Watch.Punctual Ended
      (collectRounds lib clientId artifact flowId vql deadline (rounds + 1)) w := by
  induction rounds generalizing w with
  | zero =>
      refine wp_collectRounds_succ hdeadline hnone fun w' _ _ hlt => ?_
      rw [Nat.cast_zero] at hleft
      linarith
  | succ rounds ih =>
      refine wp_collectRounds_succ hdeadline hnone fun w' hkept hnow _ hover hearly => ?_
      unfold waitForNextPoll
      rw [wp_bind, wp_bind]
      refine wp_deadlineRemaining hkept (fun reading now hle hle' hlt => ?_) fun e _ _ =>
        ⟨nofun, hover⟩
      have hzero : w'.overran = 0 := hearly (by linarith)
      refine ⟨?_, fun _ w'' htick => ?_⟩
      · rintro _ ⟨⟩
        refine ⟨hzero, ?_⟩
        have hmin : min pollIntervalSeconds (deadline - reading) ≤ deadline - reading :=
          min_le_right _ _
        show reading + min pollIntervalSeconds (deadline - reading) ≤ deadline
        linarith
      obtain ⟨hslept, hw''⟩ := htick
      have hslept : now + min pollIntervalSeconds (deadline - reading) ≤ w''.now := hslept
      refine ih (by rw [hw'']) (by rw [hw'']; exact hzero) ?_
      push_cast at hleft
      rcases min_choice pollIntervalSeconds (deadline - reading) with heq | heq
      · rw [heq, pollIntervalSeconds] at hslept
        linarith
      · rw [heq] at hslept
        have hrounds : (0 : Rat) ≤ rounds := Nat.cast_nonneg rounds
        linarith

/-- A channel costs no more than time. -/
theorem wp_withChannel {uncreated : PyError} {body : Proc (Option String)} (hover : w.overran ≤ 1)
    (hbody : ∀ now, wp (Watch.tick timeout) Watch.Punctual Ended body { w with now }) :
    wp (Watch.tick timeout) Watch.Punctual Ended (withChannel uncreated body) w := by
  refine (wp_bind Ended _ _ w).mpr ⟨fun _ _ => trivial,
    fun (outcome : ChannelOutcome) w₁ htick => ?_⟩
  obtain ⟨-, hw₁⟩ := htick
  rw [hw₁]
  cases outcome with
  | absent => exact ⟨nofun, hover⟩
  | broken =>
      refine (wp_bind Ended _ _ _).mpr ⟨fun _ _ => trivial, fun failure w₂ htick => ?_⟩
      obtain ⟨-, hw₂⟩ := htick
      rw [hw₂]
      refine (wp_bind Ended _ _ _).mpr (wp_raiseIf fun r => ?_)
      cases r with
      | ok u => exact ⟨nofun, hover⟩
      | error e => exact ⟨nofun, hover⟩
  | ready =>
      refine (wp_bind Ended _ _ _).mpr ((wp_catching _ _ _).mpr (wp_mono (hbody w₁.now) ?_))
      rintro result w₂ ⟨hresult, hover⟩
      refine (wp_bind Ended _ _ _).mpr ⟨fun _ _ => trivial, fun failure w₃ htick => ?_⟩
      obtain ⟨-, hw₃⟩ := htick
      rw [hw₃]
      refine (wp_bind Ended _ _ _).mpr (wp_raiseIf fun r => ?_)
      cases r with
      | ok u => exact wp_evaluate.mpr ⟨hresult, hover⟩
      | error e => exact ⟨nofun, hover⟩

/-- **A collection ends, and overruns its deadline by one query at most.** -/
theorem wp_collect {rounds : Nat} (htimeout : validateTimeout timeoutSeconds = .ok timeout)
    (hdeadline : w.deadline = none) (hnone : w.overran = 0) (hrounds : timeout ≤ rounds) :
    wp (Watch.tick timeout) Watch.Punctual Ended
      (collect lib clientId artifact timeoutSeconds (rounds + 1)) w := by
  have hthrow : ∀ (e : PyError) (w' : Watch), w'.overran = 0 → Ended (.error e) w' :=
    fun e w' h => ⟨nofun, by omega⟩
  unfold collect
  rw [wp_bind, wp_evaluate, htimeout]
  refine (wp_bind Ended _ _ w).mpr (wp_evaluate.mpr ?_)
  cases vqlStringLiteral clientId with
  | error e => exact hthrow e w hnone
  | ok clientLiteral =>
  refine (wp_bind Ended _ _ w).mpr (wp_evaluate.mpr ?_)
  cases vqlStringLiteral artifact with
  | error e => exact hthrow e w hnone
  | ok artifactLiteral =>
  refine wp_withChannel (by omega) fun now => ?_
  refine (wp_bind Ended _ _ _).mpr (wp_runQuery ?_ fun result w₁ _ hkept hcount => ?_)
  · intro deadline hsome
    cases hdeadline.symm.trans hsome
  have hzero : w₁.overran = 0 := by
    rcases hcount with hsame | ⟨-, deadline, hsome, -⟩
    · exact hsame.trans hnone
    · cases hdeadline.symm.trans hsome
  cases result with
  | error e => exact hthrow e w₁ hzero
  | ok rows =>
      dsimp only
      split
      · split
        · next flowId _ =>
          split
          · exact hthrow _ w₁ hzero
          refine (wp_bind Ended _ _ _).mpr ⟨fun _ _ => trivial, fun failure w₂ htick => ?_⟩
          obtain ⟨-, hw₂⟩ := htick
          have hzero₂ : w₂.overran = 0 := by rw [hw₂]; exact hzero
          refine (wp_bind Ended _ _ _).mpr (wp_raiseIf fun r => ?_)
          cases r with
          | error e => exact hthrow e w₂ hzero₂
          | ok u =>
          dsimp only
          split
          · exact hthrow _ w₂ hzero₂
          split
          · exact hthrow _ w₂ hzero₂
          rw [wp_bind, wp_evaluate]
          cases vqlStringLiteral flowId with
          | error e => exact hthrow e w₂ hzero₂
          | ok flowLiteral =>
          refine (wp_bind Ended _ _ _).mpr ⟨fun _ _ => trivial, fun (started : Rat) w₃ htick => ?_⟩
          obtain ⟨-, hstarted, hw₃⟩ := htick
          have hnodeadline : w₂.deadline = none := by
            rw [hw₂]
            exact hkept.trans hdeadline
          rw [hnodeadline, Option.getD_none] at hw₃
          refine wp_collectRounds (by rw [hw₃]) (by rw [hw₃]; exact hzero₂) ?_
          linarith
        · exact hthrow _ w₁ hzero
      · exact hthrow _ w₁ hzero

end Time

/-! ### Both paths -/

/-- An answer that is a status in the given state. -/
def Gives (state : OperationState) (answer : Except PyError OperationStatus) : Prop :=
  ∃ status, answer = .ok status ∧ status.state = some state

/-- None of the readings made so far reached the deadline that the first one set. -/
def InTime (server : Server) (timeoutSeconds : PyNumber) (s : Progress) : Prop :=
  ∀ timeout, validateTimeout timeoutSeconds = .ok timeout →
    ∀ m < s.readings, server.readings m < server.readings 0 + timeout

/-- What `schedule` returns for the first stream of a server. -/
def scheduling (server : Server) (lib : Library) (clientId artifact : String)
    (timeoutSeconds : PyNumber) : Except PyError String :=
  (eval server.answers (schedule lib clientId artifact timeoutSeconds) ⟨0, 0⟩).1

/-- What `poll_flow` returns for the stream after the first `n + 1` ones. -/
def polling (server : Server) (lib : Library) (clientId artifact flowId : String)
    (timeoutSeconds : PyNumber) (n : Nat) : Except PyError OperationStatus :=
  (eval server.answers (pollFlow lib clientId artifact flowId timeoutSeconds) ⟨n + 1, 0⟩).1

/-- What `collect` returns, cut off after so many rounds, and how far it has come by then. -/
def collecting (server : Server) (lib : Library) (clientId artifact : String)
    (timeoutSeconds : PyNumber) (rounds : Nat) : Except PyError (Option String) × Progress :=
  eval server.answers (collect lib clientId artifact timeoutSeconds rounds) ⟨0, 0⟩

theorem literals_of_scheduledBy {stream : Stream}
    (h : scheduledBy lib clientId artifact timeoutSeconds stream = some flowId) :
    vqlStringLiteral clientId = .ok (dumpsString clientId) ∧
      (∃ literal, vqlStringLiteral artifact = .ok literal) ∧
      vqlStringLiteral flowId = .ok (dumpsString flowId) := by
  unfold scheduledBy at h
  cases htimeout : validateTimeout timeoutSeconds with
  | error e => simp [htimeout, Except.toOption] at h
  | ok timeout =>
  cases hclient : vqlStringLiteral clientId with
  | error e => simp [htimeout, hclient, Except.toOption] at h
  | ok clientLiteral =>
  cases hartifact : vqlStringLiteral artifact with
  | error e => simp [htimeout, hclient, hartifact, Except.toOption] at h
  | ok artifactLiteral =>
  cases hrows : rowsOf lib stream with
  | error e => simp [htimeout, hclient, hartifact, hrows, Except.toOption] at h
  | ok rows =>
      simp only [htimeout, hclient, hartifact, hrows, Except.toOption, Option.bind_eq_bind,
        Option.bind_some] at h
      obtain ⟨row, rfl, -, hblank, -⟩ := scheduledFlow_eq_some_iff.mp h
      refine ⟨by rw [dumpsString_of_ok hclient], ⟨artifactLiteral, rfl⟩, ?_⟩
      simp [vqlStringLiteral, hblank]

theorem polling_eq {stream : Stream} {t : PyNumber} {timeout : Rat} {n : Nat}
    (htimeout : validateTimeout t = .ok timeout)
    (h : scheduledBy lib clientId artifact timeoutSeconds stream = some flowId) :
    polling server lib clientId artifact flowId t n =
      polledBy lib clientId artifact flowId (server.streams (0 + 1 + n)) := by
  obtain ⟨hclient, ⟨literal, hartifact⟩, hflow⟩ := literals_of_scheduledBy h
  rw [Nat.add_comm (0 + 1) n]
  exact eval_pollFlow htimeout hclient hartifact hflow

/-- **The combined and the split paths agree.** As long as no reading of the clock reaches the
deadline, `collect` returns a flow where `schedule` returns it for the first stream and polls over
the following ones go from nonterminal to succeeded, and raises where `schedule` raises or the first
poll that is not nonterminal has failed or raises. And however long its calls take, it ends, and
only one query overruns the deadline. -/
theorem collect_agrees (lib : Library) (clientId artifact : String) (timeoutSeconds : PyNumber)
    (pollTimeouts : Nat → PyNumber)
    (hvalid : ∀ n, ∃ timeout, validateTimeout (pollTimeouts n) = .ok timeout) :
    (∀ server rounds,
      InTime server timeoutSeconds
        (collecting server lib clientId artifact timeoutSeconds rounds).2 →
      (∀ flowId,
        (collecting server lib clientId artifact timeoutSeconds rounds).1 = .ok (some flowId) ↔
          scheduling server lib clientId artifact timeoutSeconds = .ok flowId ∧
          ∃ n < rounds,
            (∀ k < n, Gives .nonterminal
              (polling server lib clientId artifact flowId (pollTimeouts k) k)) ∧
            Gives .succeeded (polling server lib clientId artifact flowId (pollTimeouts n) n)) ∧
      ((∃ e, (collecting server lib clientId artifact timeoutSeconds rounds).1 = .error e) ↔
        (∃ e, scheduling server lib clientId artifact timeoutSeconds = .error e) ∨
        ∃ flowId, scheduling server lib clientId artifact timeoutSeconds = .ok flowId ∧
          ∃ n < rounds,
            (∀ k < n, Gives .nonterminal
              (polling server lib clientId artifact flowId (pollTimeouts k) k)) ∧
            (Gives .failed (polling server lib clientId artifact flowId (pollTimeouts n) n) ∨
              ∃ e, polling server lib clientId artifact flowId (pollTimeouts n) n = .error e))) ∧
    ∀ timeout rounds (w : Watch), validateTimeout timeoutSeconds = .ok timeout →
      w.deadline = none → w.overran = 0 → timeout ≤ (rounds : Nat) →
      wp (Watch.tick timeout) Watch.Punctual Ended
        (collect lib clientId artifact timeoutSeconds (rounds + 1)) w := by
  refine ⟨fun server rounds hintime => ?_, fun timeout rounds w htimeout hdeadline hnone hrounds =>
    wp_collect htimeout hdeadline hnone hrounds⟩
  have hschedule := toOption_eval_schedule server lib clientId artifact timeoutSeconds ⟨0, 0⟩
  rcases eval_collect server lib clientId artifact timeoutSeconds rounds ⟨0, 0⟩ with
    ⟨hnone, e, s', heq⟩ | ⟨flowId, timeout, hsome, htimeout, heq⟩
  · rw [hnone] at hschedule
    obtain ⟨e', he'⟩ := toOption_eq_none_iff.mp hschedule
    have he' : scheduling server lib clientId artifact timeoutSeconds = .error e' := he'
    unfold collecting
    rw [heq, he']
    exact ⟨fun flowId => ⟨nofun, nofun⟩, fun _ => .inl ⟨e', rfl⟩, fun _ => ⟨e, rfl⟩⟩
  · rw [hsome] at hschedule
    have hok : scheduling server lib clientId artifact timeoutSeconds = .ok flowId :=
      toOption_eq_some_iff.mp hschedule
    obtain ⟨-, -, hflow⟩ := literals_of_scheduledBy hsome
    have hpolling : ∀ n, polling server lib clientId artifact flowId (pollTimeouts n) n =
        polledBy lib clientId artifact flowId (server.streams (0 + 1 + n)) := by
      intro n
      obtain ⟨pollTimeout, hpollTimeout⟩ := hvalid n
      exact polling_eq hpollTimeout hsome
    have hloop : collecting server lib clientId artifact timeoutSeconds rounds =
        eval server.answers (collectRounds lib clientId artifact flowId
          (pollingVql (dumpsString clientId) (dumpsString flowId))
          (server.readings 0 + timeout) rounds) ⟨0 + 1, 0 + 1⟩ := by
      refine heq.trans ?_
      unfold looping
      rw [hflow]
      exact eval_bind_of_ok (server.readings 0) _ rfl
    have hearly : ∀ m, 0 + 1 ≤ m →
        m < (eval server.answers (collectRounds lib clientId artifact flowId
          (pollingVql (dumpsString clientId) (dumpsString flowId))
          (server.readings 0 + timeout) rounds) ⟨0 + 1, 0 + 1⟩).2.readings →
        server.readings m < server.readings 0 + timeout := by
      intro m _ hm
      rw [← hloop] at hm
      exact hintime timeout htimeout m hm
    obtain ⟨hreturns, hraises⟩ := eval_collectRounds_iff (s := ⟨0 + 1, 0 + 1⟩) hearly
    rw [← hloop] at hreturns hraises
    rw [hok]
    simp only [Except.ok.injEq, reduceCtorEq, exists_false, false_or, exists_eq_left', hpolling]
    refine ⟨fun flowId' => (hreturns flowId').trans ?_, hraises⟩
    constructor
    · rintro ⟨rfl, hends⟩
      refine ⟨rfl, ?_⟩
      simp only [hpolling]
      exact hends
    · rintro ⟨rfl, hends⟩
      simp only [hpolling] at hends
      exact ⟨rfl, hends⟩

namespace Scenario

def flowRow (flowKey : String) (more : List (String × Value)) : Value :=
  .dict ([(flowKey, .str "F.1"), ("client_id", .str "C.1"),
    ("artifacts", .list [.str processListArtifact])] ++ more)

/-- Two texts that stand for rows. -/
def library : Library where
  loads response :=
    if response = "scheduled" then .ok (.list [flowRow "flow_id" []])
    else if response = "finished" then
      .ok (.list [flowRow "session_id" [("state", .str "FINISHED")]])
    else .error .malformed
  dumpsFloat _ := "5.0"

/-- The flow is scheduled, not seen yet, and then finished. -/
def finishing : Server where
  streams
    | 0 => ⟨["scheduled"], none⟩
    | 1 => ⟨[], none⟩
    | _ => ⟨["finished"], none⟩
  readings _ := 0

/-- Both paths return the flow that the server finishes. -/
theorem collect_agrees_finished :
    (collecting finishing library "C.1" processListArtifact (.finite 5 5) 2).1 =
      .ok (some "F.1") := by
  have hagrees := collect_agrees library "C.1" processListArtifact (.finite 5 5)
    (fun _ => .finite 1 1) fun _ => ⟨1, rfl⟩
  refine ((hagrees.1 finishing 2 ?_).1 "F.1").mpr ⟨?_, 1, by decide, ?_, ?_⟩
  · rintro timeout ⟨⟩ m -
    show (0 : Rat) < 0 + 5
    norm_num
  · refine toOption_eq_some_iff.mp ((toOption_eval_schedule _ _ _ _ _ _).trans ?_)
    refine Eq.trans (b := scheduledFlow "C.1" processListArtifact [flowRow "flow_id" []]) rfl ?_
    refine scheduledFlow_eq_some_iff.mpr ⟨_, rfl, ⟨rfl, rfl, rfl⟩, by decide, by simp⟩
  · intro k hk
    obtain rfl := Nat.lt_one_iff.mp hk
    exact ⟨_, rfl, rfl⟩
  · exact ⟨_, rfl, rfl⟩

end Scenario

end Velociraptor

end Alert2IR
