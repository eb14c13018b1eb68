import Alert2IR.Core.Models
import Alert2IR.Core.Times
import Alert2IR.Json.Text

/-!
# Canonical alert fingerprints

The document a fingerprint is taken of, and the bytes that stand for it. The hash is a parameter.
-/

namespace Alert2IR

def fingerprintVersion : Int := 1

def fingerprintSchema : String := "alert2ir.canonical-alert-fingerprint.v1"

def entityDocument (entity : Entity) : Json :=
  .obj [("kind", .str entity.kind), ("value", .str entity.value)]

def evidenceDocument (evidence : EvidenceReference) : Json :=
  .obj [("reference", .str evidence.reference), ("kind", .optional evidence.kind)]

def detectionDocument (detection : DetectionIdentity) : Json :=
  .obj [("identifier", .str detection.identifier), ("name", .optional detection.name)]

def sourceDocument (source : SourceProvenance) : Json :=
  .obj [("source", .str source.source), ("source_alert_id", .optional source.sourceAlertId)]

/-- The document of an alert whose detection time is written as `detectedAt`. -/
def fingerprintMembers (alert : CanonicalAlert) (detectedAt : String) : List (String × Json) :=
  [("schema", .str fingerprintSchema),
    ("detection", detectionDocument alert.detection),
    ("detected_at", .str detectedAt),
    ("source", sourceDocument alert.source),
    ("entities", .arr (alert.entities.map entityDocument)),
    ("severity", .str alert.severity.value),
    ("evidence", .arr (alert.evidence.map evidenceDocument))]

def canonicalFingerprintDocument (alert : CanonicalAlert) : Except PyError Json := do
  let detectedAt ← alert.detectedAt.astimezone
  .ok (.obj (fingerprintMembers alert detectedAt.isoformat))

/-- `json.dumps` with sorted keys and without whitespace, in UTF-8. -/
def canonicalFingerprintBytes (alert : CanonicalAlert) : Except PyError (List UInt8) := do
  let document ← canonicalFingerprintDocument alert
  .ok document.sortKeys.bytes

def fingerprintCanonicalAlert (sha256 : List UInt8 → List UInt8) (alert : CanonicalAlert) :
    Except PyError (Int × List UInt8) := do
  let bytes ← canonicalFingerprintBytes alert
  .ok (fingerprintVersion, sha256 bytes)

theorem canonicalFingerprintBytes_of_inRange {alert : CanonicalAlert}
    (h : Calendar.InRange alert.detectedAt.instant) :
    canonicalFingerprintBytes alert =
      .ok (Json.obj (fingerprintMembers alert alert.detectedAt.utc.isoformat)).sortKeys.bytes := by
  have hutc := Datetime.astimezone_eq_ok_iff.mpr ⟨h, rfl⟩
  rw [canonicalFingerprintBytes, canonicalFingerprintDocument, hutc]
  rfl

/-- Only a time that has no datetime in UTC keeps an alert from being fingerprinted. -/
theorem canonicalFingerprintBytes_of_not_inRange {alert : CanonicalAlert}
    (h : ¬ Calendar.InRange alert.detectedAt.instant) :
    canonicalFingerprintBytes alert = .error (.other "OverflowError") := by
  rw [canonicalFingerprintBytes, canonicalFingerprintDocument, Datetime.astimezone, if_neg h]
  rfl

/-! ## What the document tells apart -/

theorem Severity.value_injective : Function.Injective Severity.value := by
  intro s t h
  have hok : (Except.ok s : Except PyError Severity) = .ok t := by
    rw [← ofValue_value, h, ofValue_value]
  exact Except.ok.inj hok

theorem entityDocument_injective (x y : Entity)
    (h : (entityDocument x).sortKeys = (entityDocument y).sortKeys) : x = y := by
  have hvalues := Json.values_eq_of_sortKeys_eq h rfl (by simp)
  obtain ⟨kind, value, _⟩ := x
  obtain ⟨kind', value', _⟩ := y
  simpa [Json.sortKeys] using hvalues

theorem evidenceDocument_injective (x y : EvidenceReference)
    (h : (evidenceDocument x).sortKeys = (evidenceDocument y).sortKeys) : x = y := by
  have hvalues := Json.values_eq_of_sortKeys_eq h rfl (by simp)
  obtain ⟨reference, kind, _⟩ := x
  obtain ⟨reference', kind', _⟩ := y
  simpa [Json.sortKeys, Json.optional_inj] using hvalues

theorem detectionDocument_injective (x y : DetectionIdentity)
    (h : (detectionDocument x).sortKeys = (detectionDocument y).sortKeys) : x = y := by
  have hvalues := Json.values_eq_of_sortKeys_eq h rfl (by simp)
  obtain ⟨identifier, name, _⟩ := x
  obtain ⟨identifier', name', _⟩ := y
  simpa [Json.sortKeys, Json.optional_inj] using hvalues

theorem sourceDocument_injective (x y : SourceProvenance)
    (h : (sourceDocument x).sortKeys = (sourceDocument y).sortKeys) : x = y := by
  have hvalues := Json.values_eq_of_sortKeys_eq h rfl (by simp)
  obtain ⟨source, sourceAlertId, _⟩ := x
  obtain ⟨source', sourceAlertId', _⟩ := y
  simpa [Json.sortKeys, Json.optional_inj] using hvalues

/-- What an alert says, whatever the offset its detection time is written with. -/
structure SameMeaning (a b : CanonicalAlert) : Prop where
  detection : a.detection = b.detection
  instant : a.detectedAt.instant = b.detectedAt.instant
  source : a.source = b.source
  severity : a.severity = b.severity
  entities : a.entities = b.entities
  evidence : a.evidence = b.evidence

theorem sameMeaning_of_sorted_eq {a b : CanonicalAlert}
    (ha : Calendar.InRange a.detectedAt.instant) (hb : Calendar.InRange b.detectedAt.instant)
    (h : (Json.obj (fingerprintMembers a a.detectedAt.utc.isoformat)).sortKeys =
      (Json.obj (fingerprintMembers b b.detectedAt.utc.isoformat)).sortKeys) :
    SameMeaning a b := by
  have hvalues := Json.values_eq_of_sortKeys_eq h rfl (by simp [fingerprintMembers])
  simp only [fingerprintMembers, List.map_cons, List.cons.injEq] at hvalues
  obtain ⟨-, hdetection, htime, hsource, hentities, hseverity, hevidence, -⟩ := hvalues
  exact {
    detection := detectionDocument_injective _ _ hdetection
    instant := (Datetime.isoformat_ofInstant_inj ha hb).mp (Json.str_inj.mp htime)
    source := sourceDocument_injective _ _ hsource
    severity := Severity.value_injective (Json.str_inj.mp hseverity)
    entities := Json.map_eq_of_sortItems_eq entityDocument_injective hentities
    evidence := Json.map_eq_of_sortItems_eq evidenceDocument_injective hevidence }

theorem fingerprintMembers_congr {a b : CanonicalAlert} (h : SameMeaning a b) :
    fingerprintMembers a a.detectedAt.utc.isoformat =
      fingerprintMembers b b.detectedAt.utc.isoformat := by
  obtain ⟨hdetection, hinstant, hsource, hseverity, hentities, hevidence⟩ := h
  have hutc : a.detectedAt.utc = b.detectedAt.utc := congrArg Datetime.ofInstant hinstant
  rw [fingerprintMembers, fingerprintMembers, hdetection, hutc, hsource, hseverity, hentities,
    hevidence]

end Alert2IR
