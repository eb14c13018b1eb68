import Alert2IR.Guarantees.AcceptanceUnknown

/-!
# Which persistence failures surface as such

A call of the repository that raises is answered with 503 where a handler stands around it. Where
none does, its exception leaves `process` as it is.
-/

namespace Alert2IR

open Interleaving Interleaving.Proc

/-- The 503 of a `PersistenceUnavailableError`. -/
def Api.persistenceFailed : Response :=
  errorResponse 503 {
    code := "persistence_failed"
    message := "durable processing is temporarily unavailable" } []

/-- The failure surfaces: as `PersistenceUnavailableError` in the program, as 503 outside. -/
def Surfaces (dump : ProcessingRecord → List UInt8) (r : Except PyError ProcessingOutcome) : Prop :=
  (∃ message, r = .error (.persistenceUnavailable message)) ∧
    Api.processAlert dump r = Api.persistenceFailed

theorem surfaces_iff {dump : ProcessingRecord → List UInt8}
    {r : Except PyError ProcessingOutcome} : Surfaces dump r ↔ endsUnavailable r = true := by
  constructor
  · rintro ⟨⟨message, rfl⟩, -⟩
    rfl
  · intro hends
    rcases r with e | outcome
    · cases e with
      | persistenceUnavailable message => exact ⟨⟨message, rfl⟩, rfl⟩
      | _ => cases hends
    · cases hends

/-- **Exactly the calls in a handler surface.** In every run of `process` in which some repository
call raises, whatever it raises: the first one surfaces as a persistence failure exactly if a
handler replaces its exception or it raises that exception itself. -/
theorem failure_surfaces_iff {sha256 : List UInt8 → List UInt8} {o : AlertOrchestrator}
    {alert : CanonicalAlert} {key : String} {h : List Observation}
    {r : Except PyError ProcessingOutcome} (dump : ProcessingRecord → List UInt8)
    (hreturns : Returns (PersistentAlertProcessor.process o (fingerprintCanonicalAlert sha256) alert
      key) h r)
    {c : RepositoryCall} {e : PyError} (hfirst : firstRaise h = some (c, e)) :
    Surfaces dump r ↔ c.guarded = true ∨ e.isUnavailable = true := by
  have hsettled : Settled r ([] ++ h) := hreturns.of_wp
    (PersistentAlertProcessor.process_settles (endsUnavailable_fingerprint sha256 alert))
  have hraise := hsettled.2 c e hfirst
  rw [surfaces_iff]
  cases hguarded : c.guarded with
  | true =>
      rw [if_pos hguarded] at hraise
      simp [hraise]
  | false =>
      rw [if_neg (by simp [hguarded])] at hraise
      simp [hraise, endsUnavailable]

/-- A thread of a system runs `process` on its own calls. -/
theorem returns_process_of_reachable {σ : Type} {M : Repository σ}
    {fp : CanonicalAlert → Except PyError (Int × List UInt8)} {cfg : Configuration σ}
    (hreach : (M.system fp).Reachable cfg) {t : Nat} {o : AlertOrchestrator}
    {alert : CanonicalAlert} {key : String} {r : Except PyError Outcome}
    (hthread : cfg.threads[t]? = some ⟨.process o alert key, .pure r⟩) :
    ∃ r', Returns (PersistentAlertProcessor.process o fp alert key) (own t cfg.history) r' ∧
      r = Outcome.processed <$> r' := by
  have hreturns : Returns (do
      return Outcome.processed (← PersistentAlertProcessor.process o fp alert key))
      (own t cfg.history) r := hreach.leads hthread
  rcases returns_bind_iff.mp hreturns with ⟨e, hraises, rfl⟩ | ⟨h₁, outcome, h₂, heq, hends, hlast⟩
  · exact ⟨_, hraises, rfl⟩
  · obtain ⟨rfl, rfl⟩ := returns_pure_iff.mp hlast
    rw [List.append_nil] at heq
    exact ⟨_, heq ▸ hends, rfl⟩

namespace Scenario

/-- Everything is as in a run without faults, but the result of the finished operation cannot be
stored. -/
def unstored : Environment hashed where
  answer w
    | .repository (.completeProcessing ..) => some (.error .operationalError, w)
    | c => (Postgres.environment (fingerprintCanonicalAlert constantHash) answers dialect 1).answer
        w c
  sound := by
    intro w c r w' h
    split at h
    · cases h
      exact ⟨⟨1, .inr ⟨_, rfl, .inl rfl⟩⟩, rfl⟩
    · exact (Postgres.environment (fingerprintCanonicalAlert constantHash) answers
        dialect 1).sound h

def uncompleted : Configuration Db := hashed.replay [.spawn (arrival "key"), .run 0 40 unstored]

/-- The backend finishes its operation, the result cannot be stored, and the exception of the
database leaves `process`. -/
theorem completion_failure_unsurfaced : ∃ (h : List Observation)
    (r : Except PyError ProcessingOutcome) (c : RepositoryCall) (e : PyError),
    Returns (PersistentAlertProcessor.process orchestrator (fingerprintCanonicalAlert constantHash)
      alert "key") h r ∧ firstRaise h = some (c, e) ∧ ¬ Surfaces (fun _ => []) r := by
  have hinvocation : (uncompleted.threads[0]?).map Thread.invocation = some (arrival "key") := by
    decide +kernel
  have hreturned : (uncompleted.returned 0).any (fun r => raised r = some .operationalError) =
      true := by
    decide +kernel
  have hraise : (firstRaise (own 0 uncompleted.history)).isSome = true := by decide +kernel
  obtain ⟨r, hr, hraised⟩ := (Option.any_eq_true ..).mp hreturned
  obtain ⟨i, hthread⟩ := Config.returned_eq_some_iff.mp hr
  rw [hthread, Option.map_some, Option.some.injEq] at hinvocation
  obtain rfl : i = arrival "key" := hinvocation
  obtain ⟨⟨c, e⟩, hfirst⟩ := Option.isSome_iff_exists.mp hraise
  have hreach : hashed.Reachable uncompleted := System.reachable_replay _
  obtain ⟨r', hreturns, rfl⟩ := returns_process_of_reachable hreach hthread
  refine ⟨_, r', c, e, hreturns, hfirst, ?_⟩
  have hraised := raised_eq_some_iff.mp (of_decide_eq_true hraised)
  rintro ⟨⟨message, rfl⟩, -⟩
  cases hraised

/-- A plan that cannot be stored surfaces. -/
theorem plan_failure_surfaces : ∃ (h : List Observation) (r : Except PyError ProcessingOutcome),
    Returns (PersistentAlertProcessor.process orchestrator (fingerprintCanonicalAlert constantHash)
      alert "key") h r ∧ Surfaces (fun _ => []) r := by
  have hraise : (firstRaise (own 0 stranded.history)).any
    (fun raise => raise.1.guarded) = true := by
    decide +kernel
  obtain ⟨⟨c, e⟩, hfirst, hguarded⟩ := (Option.any_eq_true ..).mp hraise
  obtain ⟨r, hreturns, -⟩ := returns_process_of_reachable stranded_reachable stranded_thread
  exact ⟨_, r, hreturns, (failure_surfaces_iff (fun _ => []) hreturns hfirst).mpr (.inl hguarded)⟩

end Scenario

end Alert2IR
