import Alert2IR.Persistence.Integrity
import Alert2IR.Persistence.Scenario

/-!
# The schema never rejects a lifecycle step

The checks of the domain classes cover the columns a processor writes, up to the identity of a
request and the name of a backend. With those seen to, no constraint of either table ever rolls a
transaction back.
-/

namespace Alert2IR

open Interleaving Schema

/-- The values that reach a call from outside the domain classes: an idempotency key, a fingerprint
and the name of a backend. -/
def RepositoryCall.DomainValid : RepositoryCall → Prop
  | .acceptProcessing _ _ _ key version digest =>
      visibleAscii key = true ∧ 1 ≤ key.length ∧ key.length ≤ 128 ∧ version = 1 ∧
        digest.length = 32
  | .storePlan _ _ _ _ backend _ _ => isBlank backend = false
  | _ => True

instance (c : RepositoryCall) : Decidable c.DomainValid := by
  unfold RepositoryCall.DomainValid
  split <;> infer_instance

section Values

variable {d : Dialect}

theorem bounded_of_check {value : String} {bound : Nat}
    (h : (!isBlank value && decide (value.length ≤ bound)) = true) : Bounded d bound value := by
  rw [Bool.and_eq_true, Bool.not_eq_true', decide_eq_true_eq] at h
  exact ⟨notBlank_of_not_isBlank h.1, h.2⟩

theorem SubmittedOperation.bounded (x : SubmittedOperation) :
    Bounded d 512 x.externalOperationId := by
  have h := checks_eq_ok_iff.mp x.valid
  refine bounded_of_check ?_
  rw [Bool.and_eq_true]
  exact ⟨h _ (.head _), h _ (.tail _ (.head _))⟩

theorem OperationStatus.bounded (x : OperationStatus) : Bounded d 256 x.remoteState := by
  have h := checks_eq_ok_iff.mp x.valid
  refine bounded_of_check ?_
  rw [Bool.and_eq_true]
  exact ⟨h _ (.head _), h _ (.tail _ (.head _))⟩

/-- Every call site passes valid values. -/
theorem Issues.valued {fp : CanonicalAlert → Except PyError (Int × List UInt8)} {i : Invocation}
    {h : List Observation} {c : RepositoryCall} (hissues : Issues fp i h (.repository c))
    (hvalid : c.DomainValid) : c.Valued d := by
  cases hissues with
  | quiet hquiet => cases hquiet
  | accept =>
      obtain ⟨hvisible, hnonempty, hbounded, hversion, hdigest⟩ := hvalid
      exact ⟨rfl, hvisible, hnonempty, hbounded, hversion, hdigest⟩
  | storePlan => exact notBlank_of_not_isBlank hvalid
  | failPlanning _ _ herror =>
      simp only [List.mem_cons, List.not_mem_nil, or_false, Prod.mk.injEq] at herror
      rcases herror with ⟨rfl, rfl⟩ | ⟨rfl, rfl⟩ | ⟨rfl, rfl⟩ <;>
        exact ⟨bounded_of_check (by decide +kernel), bounded_of_check (by decide +kernel)⟩
  | @markSubmitted _ _ _ _ _ _ _ submitted => exact submitted.bounded
  | @recordStatus _ _ _ _ _ _ _ status => exact ⟨status.bounded, .none⟩
  | recoverIncomplete _ _ _ hdetail =>
      simp only [List.mem_cons, List.not_mem_nil, or_false] at hdetail
      rcases hdetail with rfl | rfl <;>
        exact ⟨bounded_of_check (by decide +kernel), bounded_of_check (by decide +kernel)⟩
  | recoverStatus _ _ _ hdetail =>
      simp only [List.mem_cons, List.not_mem_nil, or_false] at hdetail
      rcases hdetail with rfl | rfl <;>
        exact ⟨bounded_of_check (by decide +kernel), bounded_of_check (by decide +kernel)⟩
  | recordTimeout =>
      exact ⟨bounded_of_check (by decide +kernel),
        .some (bounded_of_check (by decide +kernel)) (bounded_of_check (by decide +kernel))⟩
  | failUnconfigured | failRejected | failExecution | recoverExpired | recoverUnknown
  | recoverUnpersisted | recoverStale | recoverCollection =>
      exact ⟨bounded_of_check (by decide +kernel), bounded_of_check (by decide +kernel)⟩
  | _ => trivial

end Values

namespace Postgres

/-- **The schema never rejects a lifecycle step.** In every run of any number of processors over
PostgreSQL, whatever repository call one of them is about to make: with a valid key and fingerprint
to accept under, and a backend that has a name to plan on, no constraint rolls its transaction back,
and every row of the tables it leaves satisfies the constraints of its table. -/
theorem never_rejected (d : Dialect) (fp : CanonicalAlert → Except PyError (Int × List UInt8))
    {cfg : Configuration Db} (hreach : ((repository d).system fp).Reachable cfg) {t : Nat}
    {c : RepositoryCall} (hcalling : cfg.calling t = some (.repository c))
    (hvalid : c.DomainValid) (now : Int) :
    Checked d (exec d now c cfg.state.store).2 ∧
      ∀ name, (exec d now c cfg.state.store).1 ≠ .error (.integrityError name) := by
  have hdisciplined := hreach.disciplined invocation_disciplined
  have htrace := hdisciplined.trace
  have hsound : (validRepository d).Sound cfg.history cfg.state :=
    LawfulRepository.sound_of_trace htrace
  obtain ⟨hgood, hentries⟩ := hsound.good
  have hrep := represents_of_good hgood
  obtain ⟨i, hissues⟩ := hdisciplined.calling hcalling
  refine ⟨exec_checked (checked_of_valid hsound.coherent hrep hentries), ?_⟩
  exact exec_unrefused hsound.coherent hrep hentries (hsound.fits hissues) (hissues.valued hvalid)
    (LawfulRepository.unused_of_issues (validRepository d) htrace hissues)

end Postgres

namespace Scenario

open Postgres

/-- A processor that has planned is about to store its plan. -/
def planning : Configuration Db := system.replay [.spawn (arrival "key"), run 0 8 1 answers]

theorem never_rejected_planning :
    ∃ c, planning.calling 0 = some (.repository c) ∧ c.isLifecycle = true ∧
      ∀ name, (exec dialect 2 c planning.state.store).1 ≠ .error (.integrityError name) := by
  obtain ⟨c, hcalling, hcheck⟩ := Configuration.exists_pending planning 0
    (fun c => decide (c.isLifecycle = true ∧ c.DomainValid)) (by decide +kernel)
  obtain ⟨hlifecycle, hvalid⟩ := of_decide_eq_true hcheck
  exact ⟨c, hcalling, hlifecycle, (never_rejected dialect fingerprint
    (System.reachable_replay _) hcalling hvalid 2).2⟩

end Scenario

end Alert2IR
