import Alert2IR.Migrations.DurableExecution
import Alert2IR.Persistence.Invariants
import Alert2IR.Persistence.Scenario

/-!
# History survives the migration

Every row of migration 0001 becomes the row of a completed processing that satisfies the constraints
of migration 0002 and decodes to what was recorded. It is not an entry the lifecycle could have led
to, since it has no attempt, but no operation changes it or takes it up again.
-/

namespace Alert2IR

open Sql Schema Postgres

namespace Migrations

variable {d : Dialect} {r : SnapshotRow}

/-- What the three steps of the migration make of a row. -/
def migrate (r : SnapshotRow) : Option ProcessingRow := setNotNull (backfill (addColumns r))

/-- One coherence constraint implies the other. -/
theorem coherence_migrate {row : ProcessingRow} (hrow : migrate r = some row)
    (hsatisfied : satisfied (snapshotConstraints d r) = true) :
    (lifecycleCoherence row).passes = true := by
  simp only [satisfied, snapshotConstraints, List.all_cons, List.all_nil, Bool.and_true,
    Bool.and_eq_true, Truth.all_cons, Truth.all_nil, Truth.passes_and] at hsatisfied
  obtain ⟨-, -, houtcome, -, -, ⟨-, -, harray, hlength, -⟩, hcoherence⟩ := hsatisfied
  have hreasons : presentNonemptyArray (some r.decisionReasons) = some true := by
    simp only [test_some, Truth.passes_some] at harray hlength
    simp [presentNonemptyArray, presentArray, harray, hlength, Truth.and]
  have hdecided : isIn (some r.decisionOutcome) ["investigate", "no_action"] = some true := by
    simpa [isIn] using houtcome
  have hkept : lifecycleCoherence row = aggregateCoherence r := by
    cases hrow
    simp [lifecycleCoherence, aggregateCoherence, addColumns, backfill, hreasons, hdecided]
  rw [hkept]
  exact hcoherence

/-- **A row that satisfies the constraints of migration 0001 satisfies those of migration 0002.** -/
theorem satisfied_migrate {row : ProcessingRow} (hrow : migrate r = some row)
    (hsatisfied : satisfied (snapshotConstraints d r) = true) :
    satisfied (processingConstraints d row) = true := by
  have hcoherence := coherence_migrate hrow hsatisfied
  cases hrow
  simp only [satisfied, snapshotConstraints, List.all_cons, List.all_nil, Bool.and_true,
    Bool.and_eq_true] at hsatisfied
  obtain ⟨hversion, hseverity, houtcome, hrequired, hoptional, harrays, -⟩ := hsatisfied
  simp only [satisfied, processingConstraints, List.all_cons, List.all_nil, Bool.and_true,
    Bool.and_eq_true]
  exact ⟨hversion, hseverity, houtcome, hrequired, hoptional, harrays, rfl, rfl, rfl, rfl, rfl,
    hcoherence⟩

/-! ### What a migrated row decodes to -/

/-- The completed processing that a snapshot becomes. -/
def Snapshot.migrated (s : Snapshot) : ProcessingFields where
  processingId := s.processingId
  createdAt := .ofInstant s.createdAt
  updatedAt := .ofInstant s.createdAt
  alert := s.alert.utc
  state := .completed
  idempotencyScope := none
  idempotencyKey := none
  fingerprintVersion := none
  requestFingerprint := none
  plannedDecision := none
  plannedIncident := none
  plannedRequest := none
  selectedBackend := none
  completedResult := some s.result.utc
  completedAt := some (.ofInstant s.createdAt)
  failedAt := none
  errorCategory := none
  errorDetail := none

theorem migrate_row (s : Snapshot) : migrate s.row = some s.migrated.row := by
  simp [migrate, setNotNull, backfill, addColumns, Snapshot.row, Snapshot.migrated,
    ProcessingFields.row, ProcessingFields.decision, ProcessingFields.investigationRequest,
    OrchestrationResult.utc, ProcessingState.value, CanonicalAlert.utc]
  exact ⟨rfl, rfl, rfl⟩

theorem Snapshot.durable_migrated (s : Snapshot) : s.migrated.durable = s.migrated := by
  simp [ProcessingFields.durable, Snapshot.migrated]

theorem Snapshot.decision_migrated (s : Snapshot) : s.migrated.decision = some s.result.decision :=
  rfl

theorem deserializeFields_migrated (s : Snapshot) :
    deserializeFields s.migrated.row = .ok s.migrated := by
  have hsource : ∀ x, s.migrated.decision = some x → x.source = s.migrated.alert.source := by
    rintro x ⟨⟩
    exact s.source_eq
  refine deserializeFields_row_of s.durable_migrated (deserializeDecision_row hsource) ?_ ?_
    (by simp [Snapshot.migrated])
  all_goals cases houtcome : s.result.decision.outcome
  case refine_1.noAction =>
    obtain ⟨-, hrequest, -⟩ := s.result.of_noAction houtcome
    have hnone : s.migrated.investigationRequest = none := by
      simp [Snapshot.migrated, ProcessingFields.investigationRequest, OrchestrationResult.utc,
        hrequest]
    rw [hnone]
    exact deserializeRequest_row_none hnone
  case refine_2.noAction =>
    rw [s.decision_migrated]
    exact deserializeResult_row_noAction (r := s.result.utc) rfl houtcome
  all_goals
    obtain ⟨i, q, x, hincident, hrequest, hresult⟩ := s.result.of_investigate houtcome
    obtain ⟨hdecision, hsame⟩ := s.result.graph_of_investigate houtcome hincident hrequest
    have hq : s.migrated.investigationRequest = some q.utc := by
      simp [Snapshot.migrated, ProcessingFields.investigationRequest, OrchestrationResult.utc,
        hrequest]
    have hdecided : q.utc.incident.decision = s.result.decision := by
      have hdecision' : q.incident.utc.decision = i.utc.decision := by rw [hsame]
      exact hdecision'.trans hdecision
    rw [s.decision_migrated, hq, ← hdecided]
  case refine_1.investigate =>
    have halert : q.utc.incident.alert = s.migrated.alert :=
      (congrArg Incident.alert hsame).trans (s.alert_eq i hincident)
    rw [← halert]
    exact deserializeRequest_row_some hq
  case refine_2.investigate =>
    refine deserializeResult_row_investigate (r := s.result.utc) rfl rfl hdecided.symm ?_ ?_
    · simp [OrchestrationResult.utc, hincident]
      exact hsame.symm
    · simp [OrchestrationResult.utc, hrequest]

theorem postInit_migrated (s : Snapshot) : s.migrated.postInit = .ok () := by
  have hincident : ifPresent s.result.utc.incident
      (fun incident => incident.alert.utc = s.alert.utc) = true := by
    cases hincident : s.result.incident with
    | none => simp [OrchestrationResult.utc, hincident]
    | some i =>
      have halert := s.alert_eq i hincident
      simp [OrchestrationResult.utc, hincident, halert]
  have hsource : s.result.utc.decision.source = s.alert.source := s.source_eq
  simp [ProcessingFields.postInit, ProcessingFields.timestampChecks,
    ProcessingFields.identityChecks, ProcessingFields.errorChecks, ProcessingFields.stateChecks,
    ProcessingFields.sourceChecks, Snapshot.migrated, checks, requireAware, requireBoundedError,
    hincident, hsource]

/-- A record that says what a snapshot said, and nothing about an execution. -/
structure Preserves (s : Snapshot) (r : ProcessingRecord) : Prop where
  processingId : r.processingId = s.processingId
  state : r.state = .completed
  alert : r.alert = s.alert.utc
  decision : r.decision = some s.result.decision
  incident : r.incident = s.result.incident.map Incident.utc
  investigationRequest :
    r.investigationRequest = s.result.investigationRequest.map InvestigationRequest.utc
  completedResult : r.completedResult = some s.result.utc
  createdAt : r.createdAt = .ofInstant s.createdAt
  updatedAt : r.updatedAt = .ofInstant s.createdAt
  completedAt : r.completedAt = some (.ofInstant s.createdAt)
  unidentified : r.idempotencyScope = none ∧ r.idempotencyKey = none ∧
    r.fingerprintVersion = none ∧ r.requestFingerprint = none

theorem deserializeProcessing_migrated (s : Snapshot) :
    ∃ r, deserializeProcessing s.migrated.row = .ok r ∧ Preserves s r := by
  obtain ⟨r, hmake, hfields⟩ := ProcessingRecord.exists_make_of_postInit (postInit_migrated s)
  refine ⟨r, ?_, ?_⟩
  · rw [deserializeProcessing, deserializeFields_migrated]
    exact hmake
  · have hpresents : ∀ f : ProcessingFields, r.toProcessingFields = f → f = s.migrated →
        Preserves s r := by
      rintro _ rfl heq
      constructor <;> rw [heq]
      case unidentified => exact ⟨rfl, rfl, rfl, rfl⟩
      all_goals rfl
    exact hpresents _ rfl hfields

/-! ### What becomes of a completed row -/

/-- A completed processing in its row, among rows that are each under their own key. -/
structure Rests (row : ProcessingRow) (db : Db) : Prop where
  keyed : ∀ k p, db.processings.lookup k = some p → p.id = k
  lookup : db.processings.lookup row.id = some row

/-- **A completed row stays as it is.** -/
theorem rests_invariant {row : ProcessingRow} {t : Int} (hstate : row.state = "completed")
    (hcompleted : row.completedAt = some t) : Invariant d (Rests row) where
  updateProcessing k condition set hprogresses := by
    constructor
    rintro db a db' ⟨hkeyed, hlookup⟩ hx
    rcases updateProcessing_eq_ok_iff.mp hx with ⟨-, rfl, -⟩ | ⟨p, hp, hcondition, hrow, -, rfl⟩
    · exact ⟨hkeyed, hlookup⟩
    have hne : (set p).id ≠ row.id := by
      intro hid
      have hk : row.id = k := by rw [← hid, hprogresses.id, hkeyed k p hp]
      rw [hk, hp, Option.some.injEq] at hlookup
      subst hlookup
      rcases hprogresses.incomplete p hcondition hrow with hopen | hnone
      · exact hopen hstate
      · cases hnone.symm.trans hcompleted
    refine ⟨fun k' p' hp' => ?_, ?_⟩
    · rw [Table.lookup_insert] at hp'
      split at hp'
      · next hk => cases hp'; exact hk.symm
      · exact hkeyed k' p' hp'
    · rw [Table.lookup_insert, if_neg hne.symm]
      exact hlookup
  updateAttempt id condition set := by
    constructor
    rintro db a db' hrests hx
    rcases updateAttempt_eq_ok_iff.mp hx with ⟨-, rfl, -⟩ | ⟨p, -, -, -, -, -, rfl⟩
    · exact hrests
    · exact ⟨hrests.keyed, hrests.lookup⟩
  insertAttempt attempt := by
    constructor
    rintro db a db' hrests hx
    obtain ⟨-, -, -, rfl⟩ := insertAttempt_eq_ok hx
    exact ⟨hrests.keyed, hrests.lookup⟩
  insertAccept p scope key := by
    constructor
    rintro db a db' ⟨hkeyed, hlookup⟩ hx
    rcases insertAccept_eq_ok hx with ⟨-, rfl, -⟩ | ⟨-, -, -, hfresh, rfl⟩
    · exact ⟨hkeyed, hlookup⟩
    refine ⟨fun k' p' hp' => ?_, ?_⟩
    · rw [Table.lookup_insert] at hp'
      split at hp'
      · next hk => cases hp'; exact hk.symm
      · exact hkeyed k' p' hp'
    · rw [Table.lookup_insert, if_neg]
      · exact hlookup
      · intro hid
        rw [← hid, hlookup] at hfresh
        cases hfresh

theorem processingId_of_deserialize {row : ProcessingRow} {r : ProcessingRecord}
    (h : deserializeProcessing row = .ok r) : r.processingId = row.id := by
  have hfields : ∀ f, deserializeFields row = .ok f → f.processingId = row.id := by
    intro f hf
    simp only [deserializeFields, bind, Except.bind, pure, Except.pure] at hf
    repeat' split at hf
    all_goals cases hf
    all_goals rfl
  cases hf : deserializeFields row with
  | error e => simp [deserializeProcessing, hf, bind, Except.bind] at h
  | ok f =>
    simp only [deserializeProcessing, hf, bind, Except.bind, ProcessingRecord.make_eq_ok_iff] at h
    rw [h]
    exact hfields f hf

theorem exists_of_mem_mapM {α β ε : Type} {f : α → Except ε β} {xs : List α} {ys : List β}
    (h : xs.mapM f = .ok ys) {y : β} (hy : y ∈ ys) : ∃ x ∈ xs, f x = .ok y := by
  induction xs generalizing ys with
  | nil =>
    cases h
    cases hy
  | cons x xs ih =>
    rw [List.mapM_cons] at h
    cases hx : f x with
    | error e => simp [hx, bind, Except.bind] at h
    | ok y' =>
      cases hrest : xs.mapM f with
      | error e => simp [hx, hrest, bind, Except.bind] at h
      | ok ys' =>
        simp only [hx, hrest, bind, Except.bind, pure, Except.pure, Except.ok.injEq] at h
        subst h
        rcases List.mem_cons.mp hy with rfl | hy
        · exact ⟨x, List.mem_cons_self, hx⟩
        · obtain ⟨x', hmem, hx'⟩ := ih hrest hy
          exact ⟨x', List.mem_cons_of_mem _ hmem, hx'⟩

theorem mem_joined {db : Db} {p : ProcessingRow} {a : Option AttemptRow} (h : (p, a) ∈ joined db) :
    p ∈ db.processings.rows := by
  obtain ⟨p', hp', hrow⟩ := List.mem_flatMap.mp h
  have hsame : p = p' := by
    split at hrow
    · cases List.mem_singleton.mp hrow
      rfl
    · obtain ⟨a', -, heq⟩ := List.mem_map.mp hrow
      cases heq
      rfl
  exact hsame ▸ hp'

/-- A completed row is not looked for. -/
theorem findReconcilable_misses {db : Db} {row : ProcessingRow} (hrests : Rests row db)
    (hstate : row.state = "completed") {limit : Int} {cutoff : Datetime}
    {records : List ProcessingRecord} (h : (findReconcilable limit cutoff db).1 = .ok records) :
    ∀ r ∈ records, r.processingId ≠ row.id := by
  intro r hr hid
  have hrows : (reconcilableRows db limit cutoff.instant).mapM deserializeProcessing
      = .ok records := by
    cases hlimit : checks [(decide (1 ≤ limit), "reconciliation limit must be positive")] with
    | error e => simp [findReconcilable, guarded, hlimit] at h
    | ok u =>
        simp only [findReconcilable, guarded, hlimit] at h
        exact h
  obtain ⟨p, hp, hdecoded⟩ := exists_of_mem_mapM hrows hr
  have hp := List.mem_of_mem_take hp
  rw [(List.perm_insertionSort precedes _).mem_iff, List.mem_map] at hp
  obtain ⟨⟨_, a⟩, hfound, rfl⟩ := hp
  obtain ⟨hjoined, hselects⟩ := List.mem_filter.mp hfound
  obtain ⟨k, hk⟩ := Table.mem_rows.mp (mem_joined hjoined)
  have hkey := hrests.keyed _ _ hk
  rw [← hkey, ← processingId_of_deserialize hdecoded, hid, hrests.lookup, Option.some.injEq] at hk
  rw [← hk] at hselects
  simp [isReconcilable, hstate, isIn, Truth.selects] at hselects

/-! ### The table as a whole -/

theorem forM_checkConstraints {db : Db} {rows : List ProcessingRow}
    (h : ∀ row ∈ rows, satisfied (processingConstraints d row) = true) :
    (rows.forM fun row => checkConstraints (processingConstraints d row)) db = .ok ((), db) := by
  induction rows with
  | nil => rfl
  | cons row rows ih =>
    have hrest := ih fun row hrow => h row (List.mem_cons_of_mem _ hrow)
    have hrow : checkConstraints (processingConstraints d row) db = .ok ((), db) :=
      checkConstraints_eq_ok_iff.mpr ⟨h row List.mem_cons_self, rfl⟩
    exact bind_eq_ok_iff.mpr ⟨(), db, hrow, hrest⟩

/-- The migrated table. -/
def migratedTable (snapshots : Table UUID SnapshotRow) : Table UUID ProcessingRow :=
  (snapshots.map fun row => backfill (addColumns row)).filterMap setNotNull

theorem lookup_migratedTable (snapshots : Table UUID SnapshotRow) (k : UUID) :
    (migratedTable snapshots).lookup k = (snapshots.lookup k).bind migrate := by
  rw [migratedTable, Table.lookup_filterMap, Table.lookup_map]
  cases snapshots.lookup k <;> rfl

theorem mem_migratedTable {snapshots : Table UUID SnapshotRow} {row : ProcessingRow}
    (h : row ∈ (migratedTable snapshots).rows) :
    ∃ k r, snapshots.lookup k = some r ∧ migrate r = some row := by
  obtain ⟨k, hk⟩ := Table.mem_rows.mp h
  rw [lookup_migratedTable, Option.bind_eq_some_iff] at hk
  obtain ⟨r, hr, hrow⟩ := hk
  exact ⟨k, r, hr, hrow⟩

theorem upgrade_eq_ok {snapshots : Table UUID SnapshotRow}
    (hsatisfied : ∀ k row, snapshots.lookup k = some row →
      satisfied (snapshotConstraints d row) = true) :
    upgrade d snapshots = .ok { processings := migratedTable snapshots, attempts := ∅ } := by
  have haltered : ∀ row ∈ (snapshots.map fun row => backfill (addColumns row)).rows,
      row.state.isNone = false ∧ row.updatedAt.isNone = false := by
    intro row hrow
    obtain ⟨k, hk⟩ := Table.mem_rows.mp hrow
    rw [Table.lookup_map, Option.map_eq_some_iff] at hk
    obtain ⟨r, -, rfl⟩ := hk
    exact ⟨rfl, rfl⟩
  have hstate : ((snapshots.map fun row => backfill (addColumns row)).rows.any
      fun row => row.state.isNone) = false :=
    List.any_eq_false.mpr fun row hrow => by simp [(haltered row hrow).1]
  have hupdatedAt : ((snapshots.map fun row => backfill (addColumns row)).rows.any
      fun row => row.updatedAt.isNone) = false :=
    List.any_eq_false.mpr fun row hrow => by simp [(haltered row hrow).2]
  have hpairwise : (migratedTable snapshots).rows.Pairwise fun p q => ¬SameIdentity p q := by
    refine List.pairwise_of_forall_mem_list fun p hp q _ hsame => ?_
    obtain ⟨k, r, -, hrow⟩ := mem_migratedTable hp
    cases hrow
    cases hsame.1
  have hchecked : ∀ row ∈ (migratedTable snapshots).rows,
      satisfied (processingConstraints d row) = true := by
    intro row hrow
    obtain ⟨k, r, hr, hmigrated⟩ := mem_migratedTable hrow
    exact satisfied_migrate hmigrated (hsatisfied k r hr)
  have hconstraints : addConstraints d { processings := migratedTable snapshots, attempts := ∅ }
      = .ok ((), { processings := migratedTable snapshots, attempts := ∅ }) := by
    rw [addConstraints, getDb_bind, if_pos hpairwise]
    exact forM_checkConstraints hchecked
  simp only [upgrade, hstate, hupdatedAt, Bool.false_eq_true, if_false]
  rw [← migratedTable, hconstraints]
  rfl

/-- What the record of a snapshot is after the migration, and stays. -/
structure Survives (d : Dialect) (db : Db) (s : Snapshot) : Prop where
  preserved : ∃ row r, db.processings.lookup s.processingId = some row ∧
    deserializeProcessing row = .ok r ∧ Preserves s r ∧
    ∀ db', Later d db db' → db'.processings.lookup s.processingId = some row
  unattempted : ∀ attempt ∈ db.attempts.rows, attempt.processingId ≠ s.processingId
  missed : ∀ db', Later d db db' → ∀ limit cutoff records,
    (findReconcilable limit cutoff db').1 = .ok records →
      ∀ r ∈ records, r.processingId ≠ s.processingId

/-- **The migration preserves history.** A table of any size whose rows satisfy the constraints of
migration 0001, each of them written from a snapshot under its ID, is upgraded. Every row there is
then satisfies the constraints of migration 0002, no row has come or gone, and there are no
attempts; every row decodes to what its snapshot says, and whatever operations follow at whatever
times, it stays as it is and is never looked for. -/
theorem upgrade_preserves_history (d : Dialect) {snapshots : Table UUID SnapshotRow}
    (hsatisfied : ∀ k row, snapshots.lookup k = some row →
      satisfied (snapshotConstraints d row) = true)
    (hwritten : ∀ k row, snapshots.lookup k = some row →
      ∃ s : Snapshot, s.processingId = k ∧ s.row = row) :
    ∃ db, upgrade d snapshots = .ok db ∧
      (∀ row ∈ db.processings.rows, satisfied (processingConstraints d row) = true) ∧
      (∀ k, (db.processings.lookup k).isSome = (snapshots.lookup k).isSome) ∧
      db.attempts = ∅ ∧
      ∀ s : Snapshot, snapshots.lookup s.processingId = some s.row → Survives d db s := by
  refine ⟨_, upgrade_eq_ok hsatisfied, fun row hrow => ?_, fun k => ?_, rfl, fun s hs => ?_⟩
  · obtain ⟨k, r, hr, hmigrated⟩ := mem_migratedTable hrow
    exact satisfied_migrate hmigrated (hsatisfied k r hr)
  · rw [lookup_migratedTable]
    cases snapshots.lookup k <;> rfl
  have hlookup : (migratedTable snapshots).lookup s.processingId = some s.migrated.row := by
    rw [lookup_migratedTable, hs, Option.bind_some, migrate_row]
  have hkeyed : ∀ k p, (migratedTable snapshots).lookup k = some p → p.id = k := by
    intro k p hp
    rw [lookup_migratedTable, Option.bind_eq_some_iff] at hp
    obtain ⟨r, hr, hmigrated⟩ := hp
    obtain ⟨s', rfl, rfl⟩ := hwritten k r hr
    cases hmigrated
    rfl
  have hcompleted : s.migrated.row.completedAt = some s.createdAt := by
    simp [Snapshot.migrated, ProcessingFields.row]
  have hrests : ∀ db', Later d { processings := migratedTable snapshots, attempts := ∅ } db' →
      Rests s.migrated.row db' := fun db' hlater =>
    (rests_invariant rfl hcompleted).later hlater ⟨hkeyed, hlookup⟩
  obtain ⟨r, hdecoded, hpreserves⟩ := deserializeProcessing_migrated s
  refine ⟨⟨s.migrated.row, r, hlookup, hdecoded, hpreserves,
    fun db' hlater => (hrests db' hlater).lookup⟩, ?_, fun db' hlater limit cutoff records h => ?_⟩
  · simp [Table.rows]
  · exact findReconcilable_misses (hrests db' hlater) rfl h

end Migrations

namespace Scenario

open Migrations

/-- A processing that was investigated before executions were durable. -/
def investigated : Snapshot where
  processingId := 1
  createdAt := 5
  alert := alert
  result := ⟨decision, some incident, some (request incident), some result, by decide +kernel⟩
  source_eq := rfl
  alert_eq := by rintro _ ⟨⟩; rfl

/-- A processing that was closed without action. -/
def closed : Snapshot where
  processingId := 2
  createdAt := 7
  alert := alert
  result := ⟨noAction, none, none, none, by decide +kernel⟩
  source_eq := rfl
  alert_eq := by rintro _ ⟨⟩

def snapshots : Table UUID SnapshotRow :=
  ((∅ : Table UUID SnapshotRow).insert 1 investigated.row).insert 2 closed.row

theorem lookup_snapshots {k : UUID} {row : SnapshotRow} (h : snapshots.lookup k = some row) :
    ∃ s, (s = investigated ∨ s = closed) ∧ s.processingId = k ∧ s.row = row := by
  rw [snapshots, Table.lookup_insert, Table.lookup_insert, Table.lookup_empty] at h
  split at h
  · next hk =>
    cases h
    exact ⟨closed, .inr rfl, hk.symm, rfl⟩
  · split at h
    · next hk =>
      cases h
      exact ⟨investigated, .inl rfl, hk.symm, rfl⟩
    · cases h

theorem snapshots_satisfied (k : UUID) (row : SnapshotRow) (h : snapshots.lookup k = some row) :
    satisfied (snapshotConstraints dialect row) = true := by
  obtain ⟨s, rfl | rfl, -, rfl⟩ := lookup_snapshots h <;> decide +kernel

theorem upgrade_preserves_history_snapshots :
    ∃ db, upgrade dialect snapshots = .ok db ∧ Survives dialect db investigated ∧
      Survives dialect db closed := by
  obtain ⟨db, hupgrade, -, -, -, hsurvives⟩ := upgrade_preserves_history dialect
    snapshots_satisfied fun k row h => (lookup_snapshots h).imp fun s hs => hs.2
  refine ⟨db, hupgrade, hsurvives investigated ?_, hsurvives closed ?_⟩
  · rw [snapshots, Table.lookup_insert, if_neg (by decide), Table.lookup_insert]
    rfl
  · rw [snapshots, Table.lookup_insert]
    rfl

end Scenario

end Alert2IR
