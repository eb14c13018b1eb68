import Alert2IR.Persistence.Codec

/-!
# Migration 0001

The table as it was before executions were durable: a row is inserted once, when its processing is
complete, and never changed.
-/

namespace Alert2IR

open Sql Schema

namespace Migrations

/-- A row of `processing_records` after migration 0001. -/
structure SnapshotRow where
  id : UUID
  createdAt : Int
  snapshotVersion : Int
  detectionIdentifier : String
  detectionName : Option String
  detectedAt : Int
  source : String
  sourceAlertId : Option String
  severity : String
  entities : Json
  alertEvidence : Json
  decisionOutcome : String
  policyId : String
  decisionReasons : Json
  requestDesiredOutcome : Option String
  requestCapabilities : Option Json
  requestTargets : Option Json
  resultBackend : Option String
  resultCompletedCapabilities : Option Json
  resultEvidence : Option Json

/-- `ck_processing_records_aggregate_coherence`. -/
def aggregateCoherence (r : SnapshotRow) : Truth :=
  Truth.any [
    Truth.all [
      test (some r.decisionOutcome) (· = "no_action"),
      isNull r.requestDesiredOutcome, isNull r.requestCapabilities, isNull r.requestTargets,
      isNull r.resultBackend, isNull r.resultCompletedCapabilities, isNull r.resultEvidence],
    Truth.all [
      test (some r.decisionOutcome) (· = "investigate"),
      isNotNull r.requestDesiredOutcome,
      presentNonemptyArray r.requestCapabilities,
      presentArray r.requestTargets,
      isNotNull r.resultBackend,
      presentArray r.resultCompletedCapabilities,
      presentArray r.resultEvidence]]

/-- The `CHECK` constraints of migration 0001. -/
def snapshotConstraints (d : Dialect) (r : SnapshotRow) : List (String × Truth) := [
  ("ck_processing_records_snapshot_version", test (some r.snapshotVersion) (· = 1)),
  ("ck_processing_records_severity", isIn (some r.severity) ["low", "medium", "high", "critical"]),
  ("ck_processing_records_decision_outcome",
    isIn (some r.decisionOutcome) ["investigate", "no_action"]),
  ("ck_processing_records_required_strings", Truth.all [
    test (some r.detectionIdentifier) (notBlank d), test (some r.source) (notBlank d),
    test (some r.policyId) (notBlank d)]),
  ("ck_processing_records_optional_strings", Truth.all [
    nullOrNotBlank d r.detectionName, nullOrNotBlank d r.sourceAlertId,
    nullOrNotBlank d r.requestDesiredOutcome, nullOrNotBlank d r.resultBackend]),
  ("ck_processing_records_required_json_arrays", Truth.all [
    test (some r.entities) Json.isArray, test (some r.alertEvidence) Json.isArray,
    test (some r.decisionReasons) Json.isArray,
    test (some r.decisionReasons) fun v => 0 < v.arrayLength]),
  ("ck_processing_records_aggregate_coherence", aggregateCoherence r)]

/-- A processing as it was recorded under migration 0001: an alert, and what came of it. -/
structure Snapshot where
  processingId : UUID
  createdAt : Int
  alert : CanonicalAlert
  result : OrchestrationResult
  source_eq : result.decision.source = alert.source
  alert_eq : ∀ incident, result.incident = some incident → incident.alert.utc = alert.utc

/-- The row a processing was recorded in. The codec of the columns is that of today. -/
def Snapshot.row (s : Snapshot) : SnapshotRow where
  id := s.processingId
  createdAt := s.createdAt
  snapshotVersion := 1
  detectionIdentifier := s.alert.detection.identifier
  detectionName := s.alert.detection.name
  detectedAt := s.alert.detectedAt.instant
  source := s.alert.source.source
  sourceAlertId := s.alert.source.sourceAlertId
  severity := s.alert.severity.value
  entities := Postgres.encodeEntities s.alert.entities
  alertEvidence := Postgres.encodeEvidence s.alert.evidence
  decisionOutcome := s.result.decision.outcome.value
  policyId := s.result.decision.policyId
  decisionReasons := Postgres.encodeStrings s.result.decision.reasons
  requestDesiredOutcome := s.result.investigationRequest.map (·.desiredOutcome)
  requestCapabilities :=
    s.result.investigationRequest.map fun q => Postgres.encodeStrings q.requiredCapabilities
  requestTargets := s.result.investigationRequest.map fun q => Postgres.encodeEntities q.targets
  resultBackend := s.result.investigationResult.map (·.backend)
  resultCompletedCapabilities :=
    s.result.investigationResult.map fun r => Postgres.encodeStrings r.completedCapabilities
  resultEvidence := s.result.investigationResult.map fun r => Postgres.encodeEvidence r.evidence

end Migrations

end Alert2IR
