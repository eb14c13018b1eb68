import Alert2IR.Core.Digest
import Alert2IR.Json.Text
import Alert2IR.Splunk.Models

/-!
# Logical identity of normalized Splunk findings
-/

namespace Alert2IR

namespace Splunk

/-- SHA-256 of a message. -/
abbrev Sha256 := List UInt8 → Vector UInt8 32

def findingIdentitySchema : String := "alert2ir.splunk-finding-id.v1"

def idempotencyKeyPrefix : String := "splunk-v1-"

/-- `_utc_timestamp`. -/
def utcTimestamp (finding : NormalizedSplunkFinding) : Except PyError String :=
  if !finding.detectedAt.isAware then
    .error (.valueError "normalized detected_at must be timezone-aware")
  else finding.detectedAt.astimezone.map Datetime.isoformat

/-- The members of the identity document of a finding at a time that is written as `detectedAt`. -/
def identityMembers (finding : NormalizedSplunkFinding) (detectedAt : String) :
    List (String × Json) :=
  [("schema", .str findingIdentitySchema),
    ("detection_id", .str finding.ruleId),
    ("event", .obj [
      ("channel", .str finding.channel),
      ("computer", .str finding.computer),
      ("detected_at", .str detectedAt),
      ("event_code", .num finding.eventCode),
      ("record_id", .num finding.recordId)])]

/-- `finding_identity_document`. -/
def findingIdentityDocument (finding : NormalizedSplunkFinding) : Except PyError Json := do
  let detectedAt ← utcTimestamp finding
  return .obj (identityMembers finding detectedAt)

/-- `finding_identity_bytes`. -/
def findingIdentityBytes (finding : NormalizedSplunkFinding) : Except PyError (List UInt8) := do
  let document ← findingIdentityDocument finding
  return document.sortKeys.bytes

/-- `idempotency_key`. -/
def idempotencyKey (sha256 : Sha256) (finding : NormalizedSplunkFinding) :
    Except PyError String := do
  let bytes ← findingIdentityBytes finding
  return String.ofList (idempotencyKeyPrefix.toList ++ hexdigest (sha256 bytes).toList)

section Identity

variable {a b : NormalizedSplunkFinding} {i j : Int}

theorem findingIdentityBytes_of_instant (ha : a.detectedAt = .ofInstant i)
    (hi : Calendar.InRange i) : findingIdentityBytes a =
      .ok (Json.obj (identityMembers a (Datetime.ofInstant i).isoformat)).sortKeys.bytes := by
  have hutc : (Datetime.ofInstant i).astimezone = .ok (.ofInstant i) :=
    Datetime.astimezone_eq_ok_iff.mpr ⟨by rwa [Datetime.instant_ofInstant],
      (Datetime.utc_ofInstant i).symm⟩
  rw [findingIdentityBytes, findingIdentityDocument, utcTimestamp, ha, hutc]
  rfl

/-- The document tells apart what identifies a finding, and nothing else. -/
theorem identityMembers_sorted_eq_iff (hi : Calendar.InRange i) (hj : Calendar.InRange j) :
    (Json.obj (identityMembers a (Datetime.ofInstant i).isoformat)).sortKeys =
        (Json.obj (identityMembers b (Datetime.ofInstant j).isoformat)).sortKeys ↔
      a.ruleId = b.ruleId ∧ a.channel = b.channel ∧ a.computer = b.computer ∧ i = j ∧
        a.eventCode = b.eventCode ∧ a.recordId = b.recordId := by
  constructor
  · intro h
    have hvalues := Json.values_eq_of_sortKeys_eq h rfl (by simp [identityMembers])
    simp only [identityMembers, List.map_cons, List.cons.injEq] at hvalues
    obtain ⟨-, hrule, hevent, -⟩ := hvalues
    have hfields := Json.values_eq_of_sortKeys_eq hevent rfl (by simp)
    simp only [Json.sortKeys, List.map_cons, List.cons.injEq, Json.str.injEq, Json.num.injEq,
      Datetime.isoformat_ofInstant_inj hi hj] at hrule hfields
    obtain ⟨hchannel, hcomputer, htime, hevent, hrecord, -⟩ := hfields
    exact ⟨hrule, hchannel, hcomputer, htime, hevent, hrecord⟩
  · rintro ⟨hrule, hchannel, hcomputer, rfl, hevent, hrecord⟩
    rw [identityMembers, identityMembers, hrule, hchannel, hcomputer, hevent, hrecord]

end Identity

/-- Where the hash tells apart the bytes, the keys do. -/
theorem idempotencyKey_eq_iff {sha256 : Sha256} {a b : NormalizedSplunkFinding} {x y : List UInt8}
    {key key' : String} (hx : findingIdentityBytes a = .ok x) (hy : findingIdentityBytes b = .ok y)
    (hkey : idempotencyKey sha256 a = .ok key) (hkey' : idempotencyKey sha256 b = .ok key')
    (hcollision : sha256 x = sha256 y → x = y) : key = key' ↔ x = y := by
  rw [idempotencyKey, hx] at hkey
  rw [idempotencyKey, hy] at hkey'
  cases hkey
  cases hkey'
  constructor
  · intro h
    have htexts := List.append_cancel_left (String.ofList_injective h)
    exact hcollision (Vector.toList_inj.mp (hexdigest_injective htexts))
  · rintro rfl
    rfl

/-- A key is one that core accepts. -/
theorem visibleKey_of_idempotencyKey {sha256 : Sha256} {finding : NormalizedSplunkFinding}
    {key : String} (h : idempotencyKey sha256 finding = .ok key) : visibleKey key = true := by
  unfold idempotencyKey at h
  cases hbytes : findingIdentityBytes finding with
  | error e => simp [hbytes, bind, Except.bind] at h
  | ok bytes =>
    simp only [hbytes, bind, Except.bind, pure, Except.pure, Except.ok.injEq] at h
    have hlength : (idempotencyKeyPrefix.toList ++
      hexdigest (sha256 bytes).toList).length = 74 := by
      rw [List.length_append, length_hexdigest, Vector.length_toList]
      rfl
    have hstart : ∀ c ∈ idempotencyKeyPrefix.toList,
        decide (0x21 ≤ c.toNat ∧ c.toNat ≤ 0x7E) = true :=
      List.all_eq_true.mp (by decide)
    have hdigit : ∀ c ∈ hexdigest (sha256 bytes).toList, 0x21 ≤ c.toNat ∧ c.toNat ≤ 0x7E := by
      intro c hc
      have hhex := isHexDigit_of_mem_hexdigest hc
      simp only [isHexDigit, Bool.or_eq_true, Bool.and_eq_true, decide_eq_true_eq] at hhex
      rcases hhex with ⟨hlow, hhigh⟩ | ⟨hlow, hhigh⟩
      · have hlow : 48 ≤ c.toNat := hlow
        have hhigh : c.toNat ≤ 57 := hhigh
        omega
      · have hlow : 97 ≤ c.toNat := hlow
        have hhigh : c.toNat ≤ 102 := hhigh
        omega
    rw [← h, visibleKey]
    simp only [String.length_ofList, String.toList_ofList, hlength, Bool.and_eq_true,
      decide_eq_true_eq, List.all_eq_true]
    refine ⟨⟨by omega, by omega⟩, fun c hc => ?_⟩
    rcases List.mem_append.mp hc with hc | hc
    · exact of_decide_eq_true (hstart c hc)
    · exact hdigit c hc

end Splunk

end Alert2IR
