import Alert2IR.Application.Processing
import Alert2IR.Interleaving.Replay
import Alert2IR.Persistence.Memory
import Alert2IR.Persistence.Postgres

/-!
# Scenarios

A scenario replays processors over an executable repository, with the answers of everything else
written down. The one alert, policy and backend below are enough to drive a processing through
every state.
-/

namespace Alert2IR

open Interleaving

/-- What policy, request factory, backend and clocks answer. -/
structure Answers where
  decision : Except PyError Decision
  request : Incident → Except PyError InvestigationRequest
  submit : Except PyError (Option SubmittedOperation)
  poll : Except PyError (Option OperationStatus)
  collectResult : Except PyError (Option InvestigationResult)
  monotonic : Rat
  wallClock : Datetime

/-- A UUID no factory of the kind has handed out, while there are few of them. -/
def World.freshUuid {σ : Type} (w : World σ) (kind : UuidKind) : UUID :=
  .ofNat 128 (w.issued kind).length

/-- An environment that executes repository calls, and answers the others as written down. -/
def Repository.environment {σ : Type} (M : Repository σ)
    (fp : CanonicalAlert → Except PyError (Int × List UInt8))
    (exec : (c : RepositoryCall) → σ → Except PyError c.Result × σ)
    (hexec : ∀ s c, M.step s c (exec c s).1 (exec c s).2) (a : Answers) :
    Environment (M.system fp) where
  answer w
    | .repository c => some ((exec c w.store).1, ⟨(exec c w.store).2, w.issued⟩)
    | .newUuid kind =>
        if w.freshUuid kind ∈ w.issued kind then none
        else some (w.freshUuid kind,
          { w with issued := Function.update w.issued kind (w.freshUuid kind :: w.issued kind) })
    | .decide _ => some (a.decision, w)
    | .requestFactory incident => some (a.request incident, w)
    | .submit .. => some (a.submit, w)
    | .poll .. => some (a.poll, w)
    | .collectResult .. => some (a.collectResult, w)
    | .monotonic => some (a.monotonic, w)
    | .wallClock => some (a.wallClock, w)
    | .observe _ => some ((), w)
  sound := by
    intro w c r w' h
    cases c with
    | repository c =>
        cases h
        exact ⟨hexec w.store c, rfl⟩
    | newUuid kind =>
        dsimp only at h
        split at h
        · cases h
        · next hfresh =>
          cases h
          exact ⟨hfresh, rfl⟩
    | _ =>
        cases h
        rfl

section Repositories

variable (fp : CanonicalAlert → Except PyError (Int × List UInt8)) (a : Answers)

/-- Transactions that commit at time `now`. -/
def Postgres.environment (d : Dialect) (now : Int) :
    Environment ((Postgres.repository d).system fp) :=
  (Postgres.repository d).environment fp (fun c => Postgres.exec d now c)
    (fun _ _ => ⟨now, .inl rfl⟩) a

/-- Operations at time `now`. -/
def Memory.environment (now : Datetime) : Environment (Memory.repository.system fp) :=
  Memory.repository.environment fp (fun c => Memory.exec now c) (fun _ _ => ⟨now, rfl⟩) a

end Repositories

/-- The repository call thread `t` is about to make. -/
def Configuration.pending {σ : Type} (cfg : Configuration σ) (t : Nat) : Option RepositoryCall :=
  match cfg.calling t with
  | some (.repository c) => some c
  | _ => none

theorem Configuration.exists_pending {σ : Type} (cfg : Configuration σ) (t : Nat)
    (p : RepositoryCall → Bool) (h : (cfg.pending t).any p = true) :
    ∃ c, cfg.calling t = some (.repository c) ∧ p c = true := by
  obtain ⟨c, hpending, hp⟩ := (Option.any_eq_true ..).mp h
  unfold pending at hpending
  split at hpending
  · next c' hcalling =>
    cases hpending
    exact ⟨c, hcalling, hp⟩
  · cases hpending

/-- The exception of an answer. -/
def raised {α : Type} : Except PyError α → Option PyError
  | .error e => some e
  | .ok _ => none

theorem raised_eq_some_iff {α : Type} {r : Except PyError α} {e : PyError} :
    raised r = some e ↔ r = .error e := by
  cases r <;> simp [raised]

namespace Scenario

/-- A dialect whose only space is the space. -/
def dialect : Dialect where
  isSpace c := c.toNat == 32
  isPyWhitespace_of_isSpace c h := by simp [isPyWhitespace, show c.toNat = 32 by simpa using h]

/-- A fingerprint that tells no two alerts apart. -/
def fingerprint : CanonicalAlert → Except PyError (Int × List UInt8) :=
  fun _ => .ok (1, List.replicate 32 0)

def source : SourceProvenance := ⟨"sentinel", none, by decide +kernel⟩

def alert : CanonicalAlert where
  detection := ⟨"T1059", none, by decide +kernel⟩
  detectedAt := .ofInstant 0
  source := source
  entities := []
  severity := .high
  evidence := []
  valid := rfl

def decision : Decision := ⟨.investigate, "policy", ["severity"], source, by decide +kernel⟩

def noAction : Decision := ⟨.noAction, "policy", ["severity"], source, by decide +kernel⟩

def incident : Incident := ⟨alert, decision, by decide +kernel⟩

def backend : Backend := ⟨"velociraptor", ["triage"]⟩

def orchestrator : AlertOrchestrator := ⟨⟨[backend]⟩⟩

def request (incident : Incident) : InvestigationRequest :=
  ⟨incident, "triage", ["triage"], [], by decide +kernel⟩

def operation : SubmittedOperation := ⟨"flow-1", by decide +kernel⟩

def status (state : OperationState) : OperationStatus := ⟨some state, "remote", by decide +kernel⟩

def result : InvestigationResult := ⟨"velociraptor", [], [], by decide +kernel⟩

/-- Everything goes well. -/
def answers : Answers where
  decision := .ok decision
  request := fun incident => .ok (request incident)
  submit := .ok (some operation)
  poll := .ok (some (status .succeeded))
  collectResult := .ok (some result)
  monotonic := 0
  wallClock := .ofInstant 0

/-- The alert arrives under the key `key`. -/
def arrival (key : String) : Invocation := .process orchestrator alert key

/-- A reconciliation pass arrives, to which any submission is stale that started `staleAfter`
ago. -/
def pass (staleAfter : Int) : Invocation := .reconcileOnce orchestrator 10 60 staleAfter

/-- Processors over PostgreSQL. -/
abbrev system := (Postgres.repository dialect).system fingerprint

/-- Thread `t` takes up to `n` turns at time `now`. -/
def run (t n : Nat) (now : Int) (a : Answers) : Move system :=
  .run t n (Postgres.environment fingerprint a dialect now)

/-- One processor delivers the alert, and everything goes well. -/
def delivered : Configuration Db := system.replay [.spawn (arrival "key"), run 0 30 1 answers]

theorem delivered_reachable : system.Reachable delivered := System.reachable_replay _

end Scenario

end Alert2IR
