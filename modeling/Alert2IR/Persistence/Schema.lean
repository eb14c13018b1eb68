import Alert2IR.Core.Errors
import Alert2IR.Json.Value
import Alert2IR.Sql.Table
import Alert2IR.Sql.Truth

/-!
# The PostgreSQL schema after migrations 0001 and 0002

Rows as the two tables hold them, and the constraints a row has to satisfy. A `NOT NULL` constraint
is the absence of `Option` in a column's type.
-/

namespace Alert2IR

open Sql

/-- What the schema leaves to the server's locale: which characters `[[:space:]]` matches. They are
whitespace to Python too. -/
structure Dialect where
  isSpace : Char → Bool
  isPyWhitespace_of_isSpace : ∀ c, isSpace c = true → isPyWhitespace c = true

/-- A row of `processing_records`. -/
structure ProcessingRow where
  id : UUID
  createdAt : Int
  updatedAt : Int
  snapshotVersion : Int
  detectionIdentifier : String
  detectionName : Option String
  detectedAt : Int
  source : String
  sourceAlertId : Option String
  severity : String
  entities : Json
  alertEvidence : Json
  idempotencyScope : Option String
  idempotencyKey : Option String
  fingerprintVersion : Option Int
  requestFingerprint : Option (List UInt8)
  state : String
  selectedBackend : Option String
  decisionOutcome : Option String
  policyId : Option String
  decisionReasons : Option Json
  requestDesiredOutcome : Option String
  requestCapabilities : Option Json
  requestTargets : Option Json
  resultBackend : Option String
  resultCompletedCapabilities : Option Json
  resultEvidence : Option Json
  completedAt : Option Int
  failedAt : Option Int
  errorCategory : Option String
  errorDetail : Option String

/-- A row of `execution_attempts`. -/
structure AttemptRow where
  attemptId : UUID
  processingId : UUID
  attemptNumber : Int
  operationKey : UUID
  backend : String
  state : String
  externalOperationId : Option String
  createdAt : Int
  startedAt : Option Int
  submittedAt : Option Int
  lastPolledAt : Option Int
  completedAt : Option Int
  failedAt : Option Int
  lastRemoteState : Option String
  errorCategory : Option String
  errorDetail : Option String
deriving DecidableEq

namespace Schema

variable (d : Dialect)

/-- `value !~ '^[[:space:]]*$'`. -/
def notBlank (value : String) : Bool := !value.toList.all d.isSpace

/-- `value ~ '^[!-~]+$'`. -/
def visibleAscii (value : String) : Bool :=
  !value.toList.isEmpty && value.toList.all fun c => 0x21 ≤ c.toNat && c.toNat ≤ 0x7E

/-- `value IS NULL OR (value !~ '^[[:space:]]*$')`. -/
def nullOrNotBlank (value : Option String) : Truth :=
  (isNull value).or (test value (notBlank d))

/-- `value IS NULL OR (value !~ '^[[:space:]]*$' AND char_length(value) <= bound)`. -/
def nullOrBounded (value : Option String) (bound : Nat) : Truth :=
  (isNull value).or ((test value (notBlank d)).and (test value (·.length ≤ bound)))

/-- `value IN (values)`. -/
def isIn (value : Option String) (values : List String) : Truth := test value values.contains

/-- `value IS NOT NULL AND jsonb_typeof(value) = 'array'`. -/
def presentArray (value : Option Json) : Truth := (isNotNull value).and (test value Json.isArray)

/-- `presentArray` and `jsonb_array_length(value) > 0`. -/
def presentNonemptyArray (value : Option Json) : Truth :=
  (presentArray value).and (test value fun v => 0 < v.arrayLength)

/-- `(category IS NULL AND detail IS NULL) OR (category IS NOT NULL AND detail IS NOT NULL)`. -/
def errorPair (category detail : Option String) : Truth :=
  ((isNull category).and (isNull detail)).or ((isNotNull category).and (isNotNull detail))

def processingStates : List String :=
  ["accepted", "planned", "submitting", "submitted", "completed", "failed", "recovery_required"]

def attemptStates : List String :=
  ["planned", "submitting", "submitted", "completed", "failed", "recovery_required"]

/-- The states in which `uq_execution_attempts_active_processing` counts an attempt. -/
def activeAttemptStates : List String := ["planned", "submitting", "submitted", "recovery_required"]

/-- `ck_processing_records_lifecycle_coherence`. -/
def lifecycleCoherence (r : ProcessingRow) : Truth :=
  Truth.any [
    Truth.all [
      test (some r.state) (· = "accepted"),
      isNull r.decisionOutcome, isNull r.policyId, isNull r.decisionReasons,
      isNull r.requestDesiredOutcome, isNull r.requestCapabilities, isNull r.requestTargets,
      isNull r.selectedBackend,
      isNull r.resultBackend, isNull r.resultCompletedCapabilities, isNull r.resultEvidence,
      isNull r.completedAt, isNull r.failedAt, isNull r.errorCategory, isNull r.errorDetail],
    Truth.all [
      isIn (some r.state) ["planned", "submitting", "submitted", "recovery_required"],
      test r.decisionOutcome (· = "investigate"),
      isNotNull r.policyId,
      presentNonemptyArray r.decisionReasons,
      isNotNull r.requestDesiredOutcome,
      presentNonemptyArray r.requestCapabilities,
      presentArray r.requestTargets,
      isNotNull r.selectedBackend,
      isNull r.resultBackend, isNull r.resultCompletedCapabilities, isNull r.resultEvidence,
      isNull r.completedAt, isNull r.failedAt,
      (test (some r.state) (· ≠ "recovery_required")).or
        ((isNotNull r.errorCategory).and (isNotNull r.errorDetail))],
    Truth.all [
      test (some r.state) (· = "completed"),
      isIn r.decisionOutcome ["investigate", "no_action"],
      isNotNull r.policyId,
      presentNonemptyArray r.decisionReasons,
      isNotNull r.completedAt,
      isNull r.failedAt,
      (Truth.all [
        test r.decisionOutcome (· = "no_action"),
        isNull r.requestDesiredOutcome, isNull r.requestCapabilities, isNull r.requestTargets,
        isNull r.selectedBackend,
        isNull r.resultBackend, isNull r.resultCompletedCapabilities, isNull r.resultEvidence]).or
      (Truth.all [
        test r.decisionOutcome (· = "investigate"),
        isNotNull r.requestDesiredOutcome,
        presentNonemptyArray r.requestCapabilities,
        presentArray r.requestTargets,
        (isNotNull r.selectedBackend).or (isNull r.idempotencyKey),
        isNotNull r.resultBackend,
        presentArray r.resultCompletedCapabilities,
        presentArray r.resultEvidence])],
    Truth.all [
      test (some r.state) (· = "failed"),
      isNull r.completedAt, isNotNull r.failedAt,
      isNull r.resultBackend, isNull r.resultCompletedCapabilities, isNull r.resultEvidence,
      isNotNull r.errorCategory, isNotNull r.errorDetail]]

/-- The `CHECK` constraints of `processing_records`: those of migration 0001 that migration 0002
keeps, then those it adds. -/
def processingConstraints (r : ProcessingRow) : List (String × Truth) := [
  ("ck_processing_records_snapshot_version", test (some r.snapshotVersion) (· = 1)),
  ("ck_processing_records_severity", isIn (some r.severity) ["low", "medium", "high", "critical"]),
  ("ck_processing_records_decision_outcome", isIn r.decisionOutcome ["investigate", "no_action"]),
  ("ck_processing_records_required_strings", Truth.all [
    test (some r.detectionIdentifier) (notBlank d), test (some r.source) (notBlank d),
    test r.policyId (notBlank d)]),
  ("ck_processing_records_optional_strings", Truth.all [
    nullOrNotBlank d r.detectionName, nullOrNotBlank d r.sourceAlertId,
    nullOrNotBlank d r.requestDesiredOutcome, nullOrNotBlank d r.resultBackend]),
  ("ck_processing_records_required_json_arrays", Truth.all [
    test (some r.entities) Json.isArray, test (some r.alertEvidence) Json.isArray,
    test r.decisionReasons Json.isArray,
    test r.decisionReasons fun v => 0 < v.arrayLength]),
  ("ck_processing_records_state", isIn (some r.state) processingStates),
  ("ck_processing_records_idempotency_coherence", Truth.any [
    Truth.all [
      isNull r.idempotencyScope, isNull r.idempotencyKey,
      isNull r.fingerprintVersion, isNull r.requestFingerprint],
    Truth.all [
      isNotNull r.idempotencyScope, test r.idempotencyScope (· = r.source),
      isNotNull r.idempotencyKey, isNotNull r.fingerprintVersion,
      isNotNull r.requestFingerprint]]),
  ("ck_processing_records_idempotency_key", (isNull r.idempotencyKey).or (Truth.all [
    test r.idempotencyKey fun v => 1 ≤ v.length && v.length ≤ 128,
    test r.idempotencyKey visibleAscii])),
  ("ck_processing_records_fingerprint", (isNull r.requestFingerprint).or (Truth.all [
    test r.fingerprintVersion (· = 1), test r.requestFingerprint (·.length = 32)])),
  ("ck_processing_records_lifecycle_strings", Truth.all [
    nullOrNotBlank d r.selectedBackend,
    nullOrBounded d r.errorCategory 256, nullOrBounded d r.errorDetail 256,
    errorPair r.errorCategory r.errorDetail]),
  ("ck_processing_records_lifecycle_coherence", lifecycleCoherence r)]

/-- `ck_execution_attempts_lifecycle_coherence`. -/
def attemptCoherence (a : AttemptRow) : Truth :=
  Truth.any [
    Truth.all [
      test (some a.state) (· = "planned"),
      isNull a.startedAt, isNull a.submittedAt, isNull a.externalOperationId,
      isNull a.completedAt, isNull a.failedAt],
    Truth.all [
      test (some a.state) (· = "submitting"),
      isNotNull a.startedAt, isNull a.submittedAt, isNull a.externalOperationId,
      isNull a.completedAt, isNull a.failedAt],
    Truth.all [
      test (some a.state) (· = "submitted"),
      isNotNull a.startedAt, isNotNull a.submittedAt, isNotNull a.externalOperationId,
      isNull a.completedAt, isNull a.failedAt],
    Truth.all [
      test (some a.state) (· = "completed"),
      isNotNull a.startedAt, isNotNull a.submittedAt, isNotNull a.externalOperationId,
      isNotNull a.completedAt, isNull a.failedAt],
    Truth.all [
      test (some a.state) (· = "failed"),
      isNull a.completedAt, isNotNull a.failedAt,
      isNotNull a.errorCategory, isNotNull a.errorDetail],
    Truth.all [
      test (some a.state) (· = "recovery_required"),
      isNotNull a.startedAt, isNull a.completedAt, isNull a.failedAt,
      isNotNull a.errorCategory, isNotNull a.errorDetail]]

/-- The `CHECK` constraints of `execution_attempts`. -/
def attemptConstraints (a : AttemptRow) : List (String × Truth) := [
  ("ck_execution_attempts_number", test (some a.attemptNumber) (0 < ·)),
  ("ck_execution_attempts_state", isIn (some a.state) attemptStates),
  ("ck_execution_attempts_strings", Truth.all [
    test (some a.backend) (notBlank d),
    nullOrBounded d a.externalOperationId 512, nullOrBounded d a.lastRemoteState 256,
    nullOrBounded d a.errorCategory 256, nullOrBounded d a.errorDetail 256,
    errorPair a.errorCategory a.errorDetail]),
  ("ck_execution_attempts_lifecycle_coherence", attemptCoherence a)]

end Schema

/-- The two tables, each under its primary key. -/
structure Db where
  processings : Table UUID ProcessingRow
  attempts : Table UUID AttemptRow

end Alert2IR
