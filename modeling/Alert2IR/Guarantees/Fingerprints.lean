import Alert2IR.Application.Fingerprinting

/-!
# Fingerprints decide semantic equality

The bytes a fingerprint is taken of are the same exactly for alerts that say the same.
-/

namespace Alert2IR

/-- **Fingerprints decide semantic equality.** Two alerts that can be fingerprinted have one
document exactly if they say the same, whatever the offsets of their times. -/
theorem fingerprint_decides_meaning {a b : CanonicalAlert}
    (ha : Calendar.InRange a.detectedAt.instant) (hb : Calendar.InRange b.detectedAt.instant) :
    ∃ x y, canonicalFingerprintBytes a = .ok x ∧ canonicalFingerprintBytes b = .ok y ∧
      (x = y ↔ SameMeaning a b) := by
  refine ⟨_, _, canonicalFingerprintBytes_of_inRange ha, canonicalFingerprintBytes_of_inRange hb,
    ?_, ?_⟩
  · intro h
    exact sameMeaning_of_sorted_eq ha hb (Json.bytes_injective h)
  · intro h
    rw [fingerprintMembers_congr h]

namespace Scenario

/-- An alert about one host, by a clock so many microseconds ahead of UTC. -/
def sighting (utcoffset : Int) : CanonicalAlert where
  detection := ⟨"rule", none, by decide⟩
  detectedAt := ⟨1786970096000000 + utcoffset, some utcoffset⟩
  source := ⟨"splunk", none, by decide⟩
  entities := [⟨"host", "workstation", by decide⟩]
  severity := .high
  evidence := []
  valid := rfl

theorem fingerprint_decides_meaning_sighting :
    ∃ x y, canonicalFingerprintBytes (sighting 0) = .ok x ∧
      canonicalFingerprintBytes (sighting 7200000000) = .ok y ∧
      (x = y ↔ SameMeaning (sighting 0) (sighting 7200000000)) :=
  fingerprint_decides_meaning (by decide) (by decide)

end Scenario

end Alert2IR
