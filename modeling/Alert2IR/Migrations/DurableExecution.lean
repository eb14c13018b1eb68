import Alert2IR.Migrations.ProcessingRecords
import Alert2IR.Persistence.Statements

/-!
# Migration 0002

The columns of durable execution are added, filled in for the rows there are, and constrained. The
attempts get a table of their own, which starts empty.
-/

namespace Alert2IR

namespace Migrations

/-- A row after the columns have been added, before any of them is `NOT NULL`. -/
structure AlteredRow extends SnapshotRow where
  idempotencyScope : Option String
  idempotencyKey : Option String
  fingerprintVersion : Option Int
  requestFingerprint : Option (List UInt8)
  state : Option String
  selectedBackend : Option String
  updatedAt : Option Int
  completedAt : Option Int
  failedAt : Option Int
  errorCategory : Option String
  errorDetail : Option String

/-- `ALTER TABLE processing_records … ADD COLUMN …`. -/
def addColumns (r : SnapshotRow) : AlteredRow where
  toSnapshotRow := r
  idempotencyScope := none
  idempotencyKey := none
  fingerprintVersion := none
  requestFingerprint := none
  state := none
  selectedBackend := none
  updatedAt := none
  completedAt := none
  failedAt := none
  errorCategory := none
  errorDetail := none

/-- `UPDATE processing_records SET …`. -/
def backfill (r : AlteredRow) : AlteredRow :=
  { r with
    state := some "completed"
    updatedAt := some r.createdAt
    completedAt := some r.createdAt }

/-- A row of the new table, if the columns that become `NOT NULL` are not. -/
def setNotNull (r : AlteredRow) : Option ProcessingRow :=
  match r.state, r.updatedAt with
  | some state, some updatedAt => some {
      id := r.id
      createdAt := r.createdAt
      updatedAt
      snapshotVersion := r.snapshotVersion
      detectionIdentifier := r.detectionIdentifier
      detectionName := r.detectionName
      detectedAt := r.detectedAt
      source := r.source
      sourceAlertId := r.sourceAlertId
      severity := r.severity
      entities := r.entities
      alertEvidence := r.alertEvidence
      idempotencyScope := r.idempotencyScope
      idempotencyKey := r.idempotencyKey
      fingerprintVersion := r.fingerprintVersion
      requestFingerprint := r.requestFingerprint
      state
      selectedBackend := r.selectedBackend
      decisionOutcome := some r.decisionOutcome
      policyId := some r.policyId
      decisionReasons := some r.decisionReasons
      requestDesiredOutcome := r.requestDesiredOutcome
      requestCapabilities := r.requestCapabilities
      requestTargets := r.requestTargets
      resultBackend := r.resultBackend
      resultCompletedCapabilities := r.resultCompletedCapabilities
      resultEvidence := r.resultEvidence
      completedAt := r.completedAt
      failedAt := r.failedAt
      errorCategory := r.errorCategory
      errorDetail := r.errorDetail }
  | _, _ => none

/-- Two rows that `uq_processing_records_idempotency` does not let stand beside each other. -/
def SameIdentity (p q : ProcessingRow) : Prop :=
  p.idempotencyScope.isSome = true ∧ p.idempotencyKey.isSome = true ∧
    p.idempotencyScope = q.idempotencyScope ∧ p.idempotencyKey = q.idempotencyKey

instance (p q : ProcessingRow) : Decidable (SameIdentity p q) :=
  inferInstanceAs (Decidable (_ ∧ _))

/-- `ADD CONSTRAINT …`: what is added, and what is left of migration 0001, has to hold of every
row. -/
def addConstraints (d : Dialect) : Postgres.Tx Unit := do
  let rows := (← Postgres.getDb).processings.rows
  if rows.Pairwise fun p q => ¬SameIdentity p q then
    rows.forM fun row => Postgres.checkConstraints (Schema.processingConstraints d row)
  else throw (.integrityError "uq_processing_records_idempotency")

/-- `upgrade`. -/
def upgrade (d : Dialect) (snapshots : Table UUID SnapshotRow) : Except PyError Db := do
  let altered := snapshots.map fun row => backfill (addColumns row)
  if altered.rows.any fun row => row.state.isNone then throw (.integrityError "state")
  else if altered.rows.any fun row => row.updatedAt.isNone then throw (.integrityError "updated_at")
  else
    let migrated : Db := { processings := altered.filterMap setNotNull, attempts := ∅ }
    let ((), db) ← addConstraints d migrated
    return db

end Migrations

end Alert2IR
