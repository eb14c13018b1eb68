import Alert2IR.Application.Discipline
import Alert2IR.Application.Passes
import Alert2IR.Persistence.PostgresLaw
import Alert2IR.Persistence.Scenario

/-!
# Reconciliation, record by record

A pass handles each record of its batch behind one handler, so what is raised by the work on one
record is counted and the pass goes on. The attempt that the loop reads for the correlation context
is read outside that handler: a pass is failure-isolated exactly as long as that read succeeds.
-/

namespace Alert2IR

open Interleaving Interleaving.Proc PersistentAlertProcessor

/-! ### Isolated passes -/

/-- A pass that went over `records` and examined `examined`, each on its own. -/
structure Isolates (o : AlertOrchestrator) (limit : Int) (deadline : Rat)
    (records : List ProcessingRecord) (h : List Observation) (examined : List Examined)
    (report : ReconciliationReport) : Prop where
  order : examined.map (·.record) <+: records
  worked : ∀ x ∈ examined, Returns (reconcileRecord o x.record deadline) x.calls x.outcome
  calls : ∃ last, h = examined.flatMap (·.observations) ++ last ∧
    ∀ seen ∈ last, seen.call = .monotonic
  finished : examined.length = records.length ∨
    ∃ m : Rat, h.getLast? = some ⟨.monotonic, m⟩ ∧ deadline ≤ m
  total : report.examined = examined.length
  failed : report.failed = examined.countP (·.failed)
  advanced : report.advanced = examined.countP (·.advanced)
  bounded : report.advanced + report.failed ≤ report.examined ∧ (report.examined : Int) ≤ limit

/-- A pass that does not raise and in which every record of the batch is handled as if it were
alone, up to the end of the batch or of the time. -/
def FailureIsolated (o : AlertOrchestrator) (limit : Int) (maxSeconds : Rat)
    (records : List ProcessingRecord) (h : List Observation) (r : Except PyError Outcome) : Prop :=
  ∃ (started : Rat) (now stale : Datetime) (h' : List Observation) (examined : List Examined)
    (report : ReconciliationReport), r = .ok (.reconciled report) ∧
      h = ⟨.monotonic, started⟩ :: ⟨.wallClock, now⟩ ::
        ⟨.repository (.findReconcilable limit stale),
          (.ok records : Except PyError (List ProcessingRecord))⟩ :: h' ∧
      Isolates o limit (started + maxSeconds) records h' examined report

/-- A reading of the clock. -/
def Seen.isClock : Observation → Bool
  | ⟨.monotonic, _⟩ => true
  | _ => false

/-- A read of an attempt that raised. -/
def Seen.isLostAttempt : Observation → Bool
  | ⟨.repository (.getAttemptForProcessing _), (.error _ : Except PyError _)⟩ => true
  | _ => false

/-- What follows a reading of the clock is not a read of an attempt that raised. -/
def Undisturbed (seen next : Observation) : Prop :=
  Seen.isClock seen = true → Seen.isLostAttempt next = false

instance (seen next : Observation) : Decidable (Undisturbed seen next) :=
  inferInstanceAs (Decidable (_ → _))

/-- No read of an attempt that the loop makes for the correlation context, which is one right after
a reading of the clock, raised. -/
def ContextRead (h : List Observation) : Prop := h.IsChain Undisturbed

instance (h : List Observation) : Decidable (ContextRead h) :=
  inferInstanceAs (Decidable (h.IsChain Undisturbed))

section Chains

variable {h h' : List Observation} {o : AlertOrchestrator} {deadline : Rat}

theorem isLostAttempt_of_plain {next : Observation} (hplain : next.call.Plain) :
    Seen.isLostAttempt next = false := by
  obtain ⟨c, r⟩ := next
  unfold Seen.isLostAttempt
  split
  · next heq =>
    cases heq
    exact absurd rfl (hplain _)
  · rfl

theorem contextRead_cons_of_plain (hplain : ∀ seen ∈ h, seen.call.Plain) (first : Observation) :
    ContextRead (first :: h) := by
  induction h generalizing first with
  | nil => exact .singleton _
  | cons next h ih =>
      exact .cons_cons (fun _ => isLostAttempt_of_plain (hplain next (.head _)))
        (ih (fun seen hmem => hplain seen (.tail _ hmem)) next)

theorem contextRead_of_plain (hplain : ∀ seen ∈ h, seen.call.Plain) : ContextRead h := by
  cases h with
  | nil => exact .nil
  | cons first h =>
      exact contextRead_cons_of_plain (fun seen hmem => hplain seen (.tail _ hmem)) first

/-- Work that reads the attempt of its record first, and no attempt after that. -/
theorem contextRead_of_attempt {α : Type} {k : UUID} {f : Option ExecutionAttempt → Proc α}
    {r : Except PyError α} (hf : ∀ x, Only Call.Plain (f x))
    (hreturns : Returns (Proc.repository (.getAttemptForProcessing k) >>= f) h r) :
    ∃ (x : Except PyError (Option ExecutionAttempt)) (h' : List Observation),
      h = ⟨.repository (.getAttemptForProcessing k), x⟩ :: h' ∧ ∀ seen ∈ h', seen.call.Plain := by
  rcases returns_repository_bind_iff.mp hreturns with ⟨e, rfl, -⟩ | ⟨x, h', rfl, hrest⟩
  · exact ⟨.error e, [], rfl, by simp⟩
  · exact ⟨.ok x, h', rfl, hrest.only (hf x)⟩

/-- The work on a record reads no attempt after the clock. -/
theorem contextRead_of_worked {record : ProcessingRecord} {r : Except PyError ProcessingRecord}
    (hworked : Returns (reconcileRecord o record deadline) h r) : ContextRead h := by
  unfold reconcileRecord at hworked
  cases hstate : record.state <;> simp only [hstate] at hworked
  case accepted => exact contextRead_of_plain (hworked.only plain_advanceAccepted)
  case planned =>
    obtain ⟨x, h', rfl, hplain⟩ := contextRead_of_attempt (fun x => by
      cases x with
      | none => exact .pure record
      | some attempt => exact closed_plain.kind.submit) hworked
    exact contextRead_cons_of_plain hplain _
  case submitting =>
    obtain ⟨h', rfl, hread⟩ := returns_observe_bind_iff.mp hworked
    obtain ⟨x, h', rfl, hplain⟩ := contextRead_of_attempt (fun x => by
      cases x with
      | none => exact .pure record
      | some attempt => exact closed_plain.kind.recover (by decide)) hread
    exact .cons_cons nofun (contextRead_cons_of_plain hplain _)
  case submitted =>
    obtain ⟨x, h', rfl, hplain⟩ := contextRead_of_attempt (fun x => by
      cases x with
      | none => exact .pure record
      | some attempt => exact closed_plain.kind.pollSubmitted) hworked
    exact contextRead_cons_of_plain hplain _
  all_goals exact contextRead_of_plain (hworked.only trivial)

/-- What the loop does on account of a record disturbs nothing but what comes next. -/
theorem contextRead_append {x : Examined} (hcalls : ContextRead x.calls)
    (hnext : ∀ seen ∈ h.head?, seen.call.Plain) :
    ContextRead (x.observations ++ h) ↔ ContextRead h := by
  constructor
  · intro hchain
    have hright := List.IsChain.right_of_append hchain
    exact hright
  · intro hchain
    rw [ContextRead, Examined.observations, List.cons_append, List.cons_append, List.append_assoc]
    refine .cons_cons (fun _ => rfl) ?_
    refine List.IsChain.cons ?_ fun _ _ hclock => by cases hclock
    refine List.IsChain.append hcalls ?_ ?_
    · refine .cons_cons (fun hclock => by cases hclock) (List.IsChain.cons hchain ?_)
      exact fun seen hmem _ => isLostAttempt_of_plain (hnext seen hmem)
    · rintro seen - next hmem
      cases hmem
      exact fun _ => rfl

end Chains

/-! ### The loop -/

section Loop

variable {o : AlertOrchestrator} {deadline : Rat} {record : ProcessingRecord}
  {records rest : List ProcessingRecord} {h : List Observation} {x : Examined}
  {examined : List Examined} {report report' : ReconciliationReport}

/-- A run of the loop that starts from the counts of `report`. -/
structure GoesOver (o : AlertOrchestrator) (deadline : Rat) (records : List ProcessingRecord)
    (h : List Observation) (examined : List Examined) (report report' : ReconciliationReport) :
    Prop where
  order : examined.map (·.record) <+: records
  worked : ∀ x ∈ examined, Returns (reconcileRecord o x.record deadline) x.calls x.outcome
  calls : ∃ last, h = examined.flatMap (·.observations) ++ last ∧
    ∀ seen ∈ last, seen.call = .monotonic
  finished : examined.length = records.length ∨
    ∃ m : Rat, h.getLast? = some ⟨.monotonic, m⟩ ∧ deadline ≤ m
  total : report'.examined = report.examined + examined.length
  failed : report'.failed = report.failed + examined.countP (·.failed)
  advanced : report'.advanced = report.advanced + examined.countP (·.advanced)

theorem GoesOver.nil : GoesOver o deadline [] [] [] report report where
  order := List.prefix_rfl
  worked := by simp
  calls := ⟨[], rfl, by simp⟩
  finished := .inl rfl
  total := rfl
  failed := rfl
  advanced := rfl

theorem GoesOver.late {m : Rat} (hlate : deadline ≤ m) :
    GoesOver o deadline records [⟨.monotonic, m⟩] [] report
      { report with timeLimitReached := true } where
  order := List.nil_prefix
  worked := by simp
  calls := ⟨_, rfl, by simp⟩
  finished := .inr ⟨m, rfl, hlate⟩
  total := rfl
  failed := rfl
  advanced := rfl

theorem GoesOver.last (hrecord : x.record = record)
    (hworked : Returns (reconcileRecord o record deadline) x.calls x.outcome)
    (hlate : deadline ≤ x.finished) :
    GoesOver o deadline (record :: rest) x.observations [x] report
      { x.count report with timeLimitReached := true } where
  order := ⟨rest, by simp [hrecord]⟩
  worked := by simpa [hrecord] using hworked
  calls := ⟨[], by simp, by simp⟩
  finished := .inr ⟨x.finished, x.getLast_observations, hlate⟩
  total := rfl
  failed := by simp [Examined.count, List.countP_cons]
  advanced := by simp [Examined.count, List.countP_cons]

theorem GoesOver.next (hrecord : x.record = record)
    (hworked : Returns (reconcileRecord o record deadline) x.calls x.outcome)
    (h' : GoesOver o deadline rest h examined (x.count report) report') :
    GoesOver o deadline (record :: rest) (x.observations ++ h) (x :: examined) report report' where
  order := by
    rw [List.map_cons, hrecord]
    exact List.cons_prefix_cons.mpr ⟨rfl, h'.order⟩
  worked := List.forall_mem_cons.mpr ⟨hrecord ▸ hworked, h'.worked⟩
  calls := by
    obtain ⟨last, heq, hlast⟩ := h'.calls
    exact ⟨last, by rw [heq, List.flatMap_cons, List.append_assoc], hlast⟩
  finished := by
    rcases h'.finished with hall | ⟨m, hm, hlate⟩
    · exact .inl (congrArg (· + 1) hall)
    · exact .inr ⟨m, by rw [List.getLast?_append, hm, Option.some_or], hlate⟩
  total := by
    rw [h'.total, List.length_cons, Examined.count_examined]
    omega
  failed := by
    rw [h'.failed, List.countP_cons, Examined.count_failed]
    omega
  advanced := by
    rw [h'.advanced, List.countP_cons, Examined.count_advanced]
    omega

/-- **The loop goes over its records, or a read for the correlation context ends it.** -/
theorem goesOver_or_raised {r : Except PyError ReconciliationReport}
    (hreturns : Returns (examine o deadline records report) h r) :
    (∀ seen ∈ h.head?, seen.call.Plain) ∧
      ((¬ ContextRead h ∧ ∃ e, r = .error e) ∨ (ContextRead h ∧
        ∃ examined report', r = .ok report' ∧
          GoesOver o deadline records h examined report report')) := by
  induction records generalizing report h with
  | nil =>
      obtain ⟨rfl, rfl⟩ := returns_pure_iff.mp hreturns
      exact ⟨by simp, .inr ⟨.nil, [], report, rfl, .nil⟩⟩
  | cons record rest ih =>
      cases examines_of_returns hreturns with
      | late hlate =>
          exact ⟨by simp [Call.Plain], .inr ⟨.singleton _, [], _, rfl, .late hlate⟩⟩
      | raised =>
          refine ⟨by simp [Call.Plain], .inl ⟨fun hread => ?_, _, rfl⟩⟩
          exact Bool.noConfusion ((List.isChain_cons_cons.mp hread).1 rfl)
      | @last x hrecord hworked hlate =>
          refine ⟨by simp [Examined.observations, Call.Plain], .inr ⟨?_, [x], _, rfl,
            .last hrecord hworked hlate⟩⟩
          rw [← List.append_nil x.observations]
          exact (contextRead_append (contextRead_of_worked hworked) (by simp)).mpr .nil
      | @next x h r hrecord hworked hrest =>
          obtain ⟨hhead, hend⟩ := ih hrest
          have hchain := contextRead_append (contextRead_of_worked hworked) hhead
          refine ⟨by simp [Examined.observations, Call.Plain], ?_⟩
          rw [hchain]
          refine hend.imp_right fun hend => ?_
          obtain ⟨hread, examined, report', hr, hover⟩ := hend
          exact ⟨hread, x :: examined, report', hr, hover.next hrecord hworked⟩

/-- No record is counted twice. -/
theorem countP_exclusive (examined : List Examined) :
    examined.countP (·.advanced) + examined.countP (·.failed) ≤ examined.length := by
  induction examined with
  | nil => rfl
  | cons x examined ih =>
      have hx := x.not_advanced_and_failed
      rw [List.countP_cons, List.countP_cons, List.length_cons]
      split <;> split <;> first | omega | exact absurd ⟨‹_›, ‹_›⟩ hx

/-- What the counts of a whole pass come to. -/
theorem GoesOver.isolates {limit : Int} (hlimit : 1 ≤ limit)
    (hbatch : records.length ≤ limit.toNat)
    (hover : GoesOver o deadline records h examined ⟨0, 0, 0, false⟩ report') :
    Isolates o limit deadline records h examined report' where
  order := hover.order
  worked := hover.worked
  calls := hover.calls
  finished := hover.finished
  total := hover.total.trans (Nat.zero_add _)
  failed := hover.failed.trans (Nat.zero_add _)
  advanced := hover.advanced.trans (Nat.zero_add _)
  bounded := by
    have hlength : examined.length ≤ records.length := by
      simpa using hover.order.length_le
    have hexclusive := countP_exclusive examined
    have htotal : report'.examined = examined.length := hover.total.trans (Nat.zero_add _)
    have hfailed : report'.failed = examined.countP (·.failed) :=
      hover.failed.trans (Nat.zero_add _)
    have hadvanced : report'.advanced = examined.countP (·.advanced) :=
      hover.advanced.trans (Nat.zero_add _)
    omega

end Loop

/-! ### Whole passes -/

/-- The prologue of a pass whose batch has been found. -/
theorem examine_of_pass {o : AlertOrchestrator} {limit staleAfter : Int} {maxSeconds : Rat}
    {stale : Datetime} {records : List ProcessingRecord} {h : List Observation}
    {r : Except PyError ReconciliationReport}
    (hreturns : Returns (reconcileOnce o limit maxSeconds staleAfter) h r)
    (hfound : h[2]? = some ⟨.repository (.findReconcilable limit stale),
      (.ok records : Except PyError (List ProcessingRecord))⟩) :
    1 ≤ limit ∧ ∃ (started : Rat) (now : Datetime) (h' : List Observation),
      h = ⟨.monotonic, started⟩ :: ⟨.wallClock, now⟩ ::
        ⟨.repository (.findReconcilable limit stale),
          (.ok records : Except PyError (List ProcessingRecord))⟩ :: h' ∧
      Returns (examine o (started + maxSeconds) records ⟨0, 0, 0, false⟩) h' r := by
  unfold reconcileOnce at hreturns
  split at hreturns
  · obtain ⟨rfl, -⟩ := returns_throw_iff.mp hreturns
    cases hfound
  next hbounds =>
  refine ⟨by omega, ?_⟩
  rw [returns_monotonic_bind_iff] at hreturns
  obtain ⟨started, h₁, rfl, hreturns⟩ := hreturns
  rw [returns_wallClock_bind_iff] at hreturns
  obtain ⟨now, h₂, rfl, hreturns⟩ := hreturns
  rw [returns_repository_bind_iff] at hreturns
  rcases hreturns with ⟨e, rfl, -⟩ | ⟨found, h₃, rfl, hreturns⟩
  · cases hfound
  · cases hfound
    exact ⟨started, now, h₃, rfl, hreturns⟩

/-- **A pass is isolated as long as every context is read.** -/
theorem isolated_iff_of_pass {o : AlertOrchestrator} {limit staleAfter : Int} {maxSeconds : Rat}
    {stale : Datetime} {records : List ProcessingRecord} {h : List Observation}
    {r : Except PyError ReconciliationReport}
    (hreturns : Returns (reconcileOnce o limit maxSeconds staleAfter) h r)
    (hfound : h[2]? = some ⟨.repository (.findReconcilable limit stale),
      (.ok records : Except PyError (List ProcessingRecord))⟩)
    (hbatch : records.length ≤ limit.toNat) :
    FailureIsolated o limit maxSeconds records h (r.map Outcome.reconciled) ↔ ContextRead h := by
  obtain ⟨hlimit, started, now, h', rfl, hexamined⟩ := examine_of_pass hreturns hfound
  obtain ⟨hhead, hend⟩ := goesOver_or_raised hexamined
  have hread : ContextRead (⟨.monotonic, started⟩ :: ⟨.wallClock, now⟩ ::
      ⟨.repository (.findReconcilable limit stale),
        (.ok records : Except PyError (List ProcessingRecord))⟩ :: h') ↔ ContextRead h' := by
    constructor
    · exact fun hchain => hchain.tail.tail.tail
    · intro hchain
      refine .cons_cons (fun _ => rfl) (.cons_cons (fun hclock => by cases hclock) ?_)
      exact List.IsChain.cons hchain fun next hmem hclock => by cases hclock
  rw [hread]
  rcases hend with ⟨hraised, e, rfl⟩ | ⟨hread, examined, report, rfl, hover⟩
  · refine iff_of_false ?_ hraised
    rintro ⟨_, _, _, _, _, _, hok, -⟩
    cases hok
  · refine iff_of_true ?_ hread
    exact ⟨started, now, stale, h', examined, report, rfl, rfl, hover.isolates hlimit hbatch⟩

section Runs

variable {σ : Type} {M : Repository σ}
  {fp : CanonicalAlert → Except PyError (Int × List UInt8)}

/-- A repository whose batches keep to the limit. -/
def Repository.Limits (M : Repository σ) : Prop :=
  ∀ {s limit stale records s'}, M.step s (.findReconcilable limit stale)
    (.ok records : Except PyError (List ProcessingRecord)) s' → records.length ≤ limit.toNat

/-- Every pass of a run that has returned. -/
theorem isolated_iff_of_reachable (hM : M.Limits) {cfg : Configuration σ}
    (hreach : (M.system fp).Reachable cfg) {t : Nat} {o : AlertOrchestrator}
    {limit staleAfter : Int} {maxSeconds : Rat} {stale : Datetime}
    {records : List ProcessingRecord} {r : Except PyError Outcome}
    (hthread : cfg.threads[t]? = some ⟨.reconcileOnce o limit maxSeconds staleAfter, .pure r⟩)
    (hfound : (own t cfg.history)[2]? = some ⟨.repository (.findReconcilable limit stale),
      (.ok records : Except PyError (List ProcessingRecord))⟩) :
    FailureIsolated o limit maxSeconds records (own t cfg.history) r ↔
      ContextRead (own t cfg.history) := by
  have hbatch : records.length ≤ limit.toNat := by
    have htrace := (hreach.disciplined invocation_disciplined).trace
    obtain ⟨event, hmem, -, hseen⟩ := mem_own.mp (List.mem_of_getElem? hfound)
    obtain ⟨h₁, h₂, heq⟩ := List.append_of_mem hmem
    obtain ⟨_, _, _, _, _, hstep⟩ := htrace.split heq
    obtain ⟨t', w, c, r, w'⟩ := event
    cases hseen
    exact hM hstep.1
  have hreturns := hreach.leads hthread
  rcases returns_bind_iff.mp hreturns with ⟨e, hpass, rfl⟩ | ⟨h₁, report, h₂, heq, hpass, hrest⟩
  · exact isolated_iff_of_pass hpass hfound hbatch
  · obtain ⟨rfl, rfl⟩ := returns_pure_iff.mp hrest
    rw [List.append_nil] at heq
    rw [heq] at hfound ⊢
    exact isolated_iff_of_pass hpass hfound hbatch

end Runs

namespace Memory

theorem limits : repository.Limits := by
  intro m limit stale records m' hstep
  obtain ⟨now, hexec⟩ := hstep
  have hrun := congrArg Prod.fst ((findReconcilable_run m limit stale).symm.trans hexec)
  cases hchecks : checks [(decide (1 ≤ limit), "reconciliation limit must be positive")] with
  | error e => simp [hchecks, bind, Except.bind] at hrun
  | ok u =>
      cases hvalues : m.records.rows.filterM (m.isReconcilable stale) with
      | error e => simp [hchecks, hvalues, bind, Except.bind] at hrun
      | ok values =>
          simp only [hchecks, hvalues, bind, Except.bind, pure, Except.pure,
            Except.ok.injEq] at hrun
          rw [← hrun]
          exact List.length_take_le _ _

end Memory

theorem length_of_mapM {α β : Type} {f : α → Except PyError β} {l : List α} {xs : List β}
    (h : l.mapM f = .ok xs) : xs.length = l.length := by
  induction l generalizing xs with
  | nil =>
      cases h
      rfl
  | cons a l ih =>
      rw [List.mapM_cons] at h
      cases ha : f a with
      | error e => simp [ha, bind, Except.bind] at h
      | ok b =>
          cases hl : l.mapM f with
          | error e => simp [ha, hl, bind, Except.bind] at h
          | ok ys =>
              simp only [ha, hl, bind, Except.bind, pure, Except.pure, Except.ok.injEq] at h
              rw [← h, List.length_cons, List.length_cons, ih hl]

namespace Postgres

theorem limits (d : Dialect) : (repository d).Limits := by
  intro db limit stale records db' hstep
  obtain ⟨now, hexec | ⟨e, herror, -⟩⟩ := hstep
  · rcases guarded_cases hexec with ⟨e, herror, -⟩ | ⟨-, hexec⟩
    · cases herror
    rcases transaction_cases hexec with ⟨e, herror, -⟩ | ⟨rows, hbody, hrows⟩
    · cases herror
    simp only [getDb_bind, pure_eq_ok_iff] at hbody
    obtain ⟨rfl, rfl⟩ := hbody
    rw [length_of_mapM hrows.symm]
    exact List.length_take_le _ _
  · cases herror

end Postgres

/-- **A pass is failure-isolated if and only if every read for the correlation context succeeds.**
Over either repository, in every run of any number of processors, whatever repository and backend
calls raise: a pass that found the batch `records` and has come to its end did not raise, handled
each record it examined as it does alone, left none out before the time was up and counted right,
exactly if no read of an attempt right after a reading of the clock raised. -/
theorem failure_isolated_iff (d : Dialect)
    (fp : CanonicalAlert → Except PyError (Int × List UInt8)) {t : Nat} {o : AlertOrchestrator}
    {limit staleAfter : Int} {maxSeconds : Rat} {stale : Datetime}
    {records : List ProcessingRecord} {r : Except PyError Outcome} :
    (∀ cfg : Configuration Db, ((Postgres.repository d).system fp).Reachable cfg →
      cfg.threads[t]? = some ⟨.reconcileOnce o limit maxSeconds staleAfter, .pure r⟩ →
      (own t cfg.history)[2]? = some ⟨.repository (.findReconcilable limit stale),
        (.ok records : Except PyError (List ProcessingRecord))⟩ →
      (FailureIsolated o limit maxSeconds records (own t cfg.history) r ↔
        ContextRead (own t cfg.history))) ∧
    ∀ cfg : Configuration Memory, (Memory.repository.system fp).Reachable cfg →
      cfg.threads[t]? = some ⟨.reconcileOnce o limit maxSeconds staleAfter, .pure r⟩ →
      (own t cfg.history)[2]? = some ⟨.repository (.findReconcilable limit stale),
        (.ok records : Except PyError (List ProcessingRecord))⟩ →
      (FailureIsolated o limit maxSeconds records (own t cfg.history) r ↔
        ContextRead (own t cfg.history)) :=
  ⟨fun _ hreach => isolated_iff_of_reachable (Postgres.limits d) hreach,
    fun _ hreach => isolated_iff_of_reachable Memory.limits hreach⟩

namespace Scenario

/-- The batch of an answer of `find_reconcilable`. -/
def batch : Observation → Option (Int × Datetime × List ProcessingRecord)
  | ⟨.repository (.findReconcilable limit stale),
      (.ok records : Except PyError (List ProcessingRecord))⟩ => some (limit, stale, records)
  | _ => none

theorem batch_eq_some_iff {seen : Observation} {limit : Int} {stale : Datetime}
    {records : List ProcessingRecord} : batch seen = some (limit, stale, records) ↔
      seen = ⟨.repository (.findReconcilable limit stale),
        (.ok records : Except PyError (List ProcessingRecord))⟩ := by
  unfold batch
  split
  · simp only [Option.some.injEq, Prod.mk.injEq]
    constructor
    · rintro ⟨rfl, rfl, rfl⟩
      rfl
    · intro heq
      cases heq
      exact ⟨rfl, rfl, rfl⟩
  · next hnone =>
    simp only [reduceCtorEq, false_iff]
    rintro rfl
    exact hnone _ _ _ rfl

/-- All goes well but the reads of attempts, which do not reach the server. -/
def unreadable (now : Int) (a : Answers) : Environment system where
  answer w
    | .repository (.getAttemptForProcessing _) => some (.error .operationalError, w)
    | c => (Postgres.environment fingerprint a dialect now).answer w c
  sound := by
    intro w c r w' h
    split at h
    · cases h
      exact ⟨⟨now, .inr ⟨_, rfl, .inl rfl⟩⟩, rfl⟩
    · exact (Postgres.environment fingerprint a dialect now).sound h

/-- A processor crashes once its alert is accepted, and a pass arrives. -/
def abandoned (env : Environment system) : Configuration Db :=
  system.replay [.spawn (arrival "key"), run 0 2 1 answers, .spawn (pass 0), .run 1 60 env]

/-- What `abandoned` is looked up for: a pass that has come to its end, and its batch. -/
theorem exists_pass (env : Environment system) (p : Except PyError Outcome → Bool)
    (hinvocation : ((abandoned env).threads[1]?).map Thread.invocation = some (pass 0))
    (hreturned : ((abandoned env).returned 1).any p = true)
    (hbatch : ((own 1 (abandoned env).history)[2]?.bind batch).any
      (fun found => found.1 = 10) = true) :
    ∃ stale records r, (abandoned env).threads[1]? = some ⟨pass 0, .pure r⟩ ∧ p r = true ∧
      (own 1 (abandoned env).history)[2]? = some ⟨.repository (.findReconcilable 10 stale),
        (.ok records : Except PyError (List ProcessingRecord))⟩ := by
  obtain ⟨r, hr, hp⟩ := (Option.any_eq_true ..).mp hreturned
  obtain ⟨i, hthread⟩ := Config.returned_eq_some_iff.mp hr
  obtain ⟨⟨limit, stale, records⟩, hfound, hlimit⟩ := (Option.any_eq_true ..).mp hbatch
  obtain ⟨seen, hseen, hbatch⟩ := Option.bind_eq_some_iff.mp hfound
  obtain rfl := of_decide_eq_true hlimit
  rw [hthread, Option.map_some, Option.some.injEq] at hinvocation
  exact ⟨stale, records, r, hinvocation ▸ hthread, hp, hseen.trans (congrArg some
    (batch_eq_some_iff.mp hbatch))⟩

theorem failure_isolated_abandoned : ∃ records r,
    (abandoned (Postgres.environment fingerprint answers dialect 2)).returned 1 = some r ∧
      FailureIsolated orchestrator 10 60 records
        (own 1 (abandoned (Postgres.environment fingerprint answers dialect 2)).history) r := by
  obtain ⟨stale, records, r, hthread, -, hfound⟩ := exists_pass
    (Postgres.environment fingerprint answers dialect 2) (fun _ => true) (by decide +kernel)
      (by decide +kernel) (by decide +kernel)
  refine ⟨records, r, Config.returned_eq_some_iff.mpr ⟨_, hthread⟩, ?_⟩
  exact ((failure_isolated_iff dialect fingerprint).1 _ (System.reachable_replay _) hthread
    hfound).mpr (by decide +kernel)

/-- A pass ends with the first context it cannot read. -/
theorem pass_unreadable_raises : system.Reachable (abandoned (unreadable 2 answers)) ∧
    ∃ stale records r,
      (abandoned (unreadable 2 answers)).threads[1]? = some ⟨pass 0, .pure r⟩ ∧
      (own 1 (abandoned (unreadable 2 answers)).history)[2]? =
        some ⟨.repository (.findReconcilable 10 stale),
          (.ok records : Except PyError (List ProcessingRecord))⟩ ∧
      ¬ FailureIsolated orchestrator 10 60 records
        (own 1 (abandoned (unreadable 2 answers)).history) r := by
  obtain ⟨stale, records, r, hthread, hraised, hfound⟩ := exists_pass
    (unreadable 2 answers) (fun r => raised r = some .operationalError)
    (by decide +kernel) (by decide +kernel) (by decide +kernel)
  refine ⟨System.reachable_replay _, stale, records, r, hthread, hfound, ?_⟩
  rintro ⟨_, _, _, _, _, _, rfl, -⟩
  cases of_decide_eq_true hraised

end Scenario

end Alert2IR
