import Alert2IR.Guarantees.Timestamps
import Alert2IR.Splunk.Canonical

/-!
# The identity of a finding is exact

Two findings have one identity exactly if they agree in what identifies them, however it is spelled.
-/

namespace Alert2IR

open Splunk

namespace Splunk

section Bytes

variable {a b : SplunkFinding} {m n : NormalizedSplunkFinding}

theorem findingIdentityBytes_eq_iff (hm : normalizeSplunkFinding a = .ok m)
    (hn : normalizeSplunkFinding b = .ok n) :
    ∃ x y, findingIdentityBytes m = .ok x ∧ findingIdentityBytes n = .ok y ∧
      (x = y ↔ m.ruleId = n.ruleId ∧ m.channel = n.channel ∧ m.computer = n.computer ∧
        m.detectedAt = n.detectedAt ∧ m.eventCode = n.eventCode ∧ m.recordId = n.recordId) := by
  obtain ⟨i, hi, hirange⟩ := normalizeTimestamp_eq_ok (isNormal_of_normalize hm).detectedAt
  obtain ⟨j, hj, hjrange⟩ := normalizeTimestamp_eq_ok (isNormal_of_normalize hn).detectedAt
  have htimes : m.detectedAt = n.detectedAt ↔ i = j := by
    rw [hi, hj]
    constructor
    · intro h
      have hinstants := congrArg Datetime.instant h
      rwa [Datetime.instant_ofInstant, Datetime.instant_ofInstant] at hinstants
    · rintro rfl
      rfl
  refine ⟨_, _, findingIdentityBytes_of_instant hi hirange,
    findingIdentityBytes_of_instant hj hjrange, ?_⟩
  rw [htimes, ← identityMembers_sorted_eq_iff hirange hjrange]
  exact ⟨fun h => Json.bytes_injective h, fun h => by rw [h]⟩

end Bytes

section Hosts

variable {host value : String}

/-- A host is a spelling of itself. -/
theorem isSpelling_self (h : IsSpelling host value) : IsSpelling host host := by
  obtain ⟨before, name, dot, after, -, -, -, -, hpattern, hlength, hlower⟩ := h
  refine ⟨[], host.toList, [], [], by simp, by simp, by simp, .inl rfl, ?_, ?_, ?_⟩
  · rw [← hlower, hostnamePattern, hostLabels_map_toLower]
    exact hpattern
  · rw [← hlower, List.length_map]
    exact hlength
  · rw [← hlower, List.map_map]
    exact List.map_congr_left fun c _ => toLower_toLower c

/-- Two texts that differ in outer blanks, in one dot at the end, or in the case of letters. -/
inductive Respells : String → String → Prop
  | intro {value value' : String} {before name dot after before' name' dot' after' : List Char}
      (hvalue : value.toList = before ++ (name ++ dot) ++ after)
      (hvalue' : value'.toList = before' ++ (name' ++ dot') ++ after')
      (hblank : ∀ c ∈ before ++ after ++ before' ++ after', isPyWhitespace c = true)
      (hdot : dot = [] ∨ dot = ['.']) (hdot' : dot' = [] ∨ dot' = ['.'])
      (hname : hostnamePattern name = true)
      (hcase : name.map Char.toLower = name'.map Char.toLower) : Respells value value'

/-- What is normalized as a host is what spells it otherwise. -/
theorem normalizeOneHostname_eq_iff {value' : String} (h : normalizeOneHostname value = .ok host) :
    normalizeOneHostname value' = .ok host ↔ Respells value value' := by
  rw [normalizeOneHostname_eq_ok_iff] at h ⊢
  constructor
  · intro h'
    obtain ⟨before, name, dot, after, hvalue, hbefore, hafter, hdot, hpattern, -, hlower⟩ := h
    obtain ⟨before', name', dot', after', hvalue', hbefore', hafter', hdot', -, -, hlower'⟩ := h'
    refine .intro hvalue hvalue' ?_ hdot hdot' hpattern (hlower.trans hlower'.symm)
    simp only [List.forall_mem_append]
    exact ⟨⟨⟨hbefore, hafter⟩, hbefore'⟩, hafter'⟩
  · rintro ⟨hvalue, hvalue', hblank, hdot, hdot', hname, hcase⟩
    simp only [List.forall_mem_append] at hblank
    obtain ⟨⟨⟨hbefore, hafter⟩, hbefore'⟩, hafter'⟩ := hblank
    obtain ⟨_, spelled, dot, _, hspelled, hblank, hblank', hdots, hpattern, hlength, hlower⟩ := h
    -- What is left of a text between its blanks, without a dot, is one name.
    have hsame := congrArg withoutDot (congrArg (stripOf isPyWhitespace)
      (hvalue.symm.trans hspelled))
    rw [stripOf_spelling hname hdot hbefore hafter, withoutDot_append hname hdot,
      stripOf_spelling hpattern hdots hblank hblank', withoutDot_append hpattern hdots] at hsame
    subst hsame
    refine ⟨_, _, _, _, hvalue', hbefore', hafter', hdot', ?_, ?_, hcase.symm.trans hlower⟩
    · rw [hostnamePattern, ← hostLabels_map_toLower, ← hcase, hostLabels_map_toLower]
      exact hname
    · rw [← List.length_map (f := Char.toLower), ← hcase, List.length_map]
      exact hlength

/-- The names that a finding gives its host. -/
def hostsOf (computer host : Option String) : List String := computer.toList ++ host.toList

theorem normalizeHostname_eq_ok_iff_forall {computer given : Option String} :
    normalizeHostname computer given = .ok host ↔
      hostsOf computer given ≠ [] ∧ ∀ value ∈ hostsOf computer given, IsSpelling host value := by
  rw [normalizeHostname_eq_ok_iff]
  cases computer <;> cases given <;> simp [hostsOf]

/-- Findings of one host are those whose names for it respell each other. -/
theorem normalizeHostname_eq_iff {computer given computer' given' : Option String}
    (h : normalizeHostname computer given = .ok host) :
    normalizeHostname computer' given' = .ok host ↔ hostsOf computer' given' ≠ [] ∧
      ∀ value ∈ hostsOf computer given, ∀ value' ∈ hostsOf computer' given',
        Respells value value' := by
  rw [normalizeHostname_eq_ok_iff_forall] at h ⊢
  obtain ⟨hgiven, hspells⟩ := h
  have hrespells : ∀ value ∈ hostsOf computer given, ∀ value',
      IsSpelling host value' ↔ Respells value value' := by
    intro value hvalue value'
    rw [← normalizeOneHostname_eq_ok_iff]
    exact normalizeOneHostname_eq_iff (normalizeOneHostname_eq_ok_iff.mpr (hspells value hvalue))
  refine and_congr_right fun _ => ⟨fun h' value hvalue value' hvalue' => ?_,
    fun h' value' hvalue' => ?_⟩
  · exact (hrespells value hvalue value').mp (h' value' hvalue')
  · obtain ⟨value, hvalue⟩ := List.exists_mem_of_ne_nil _ hgiven
    exact (hrespells value hvalue value').mpr (h' value hvalue value' hvalue')

/-- A host normalizes to itself, under either name and under both. -/
theorem normalizeHostname_self {computer given : Option String}
    (h : normalizeHostname computer given = .ok host) :
    normalizeHostname (some host) none = .ok host ∧ normalizeHostname none (some host) = .ok host ∧
      normalizeHostname (some host) (some host) = .ok host := by
  rw [normalizeHostname_eq_ok_iff_forall] at h
  obtain ⟨value, hvalue⟩ := List.exists_mem_of_ne_nil _ h.1
  have hself := isSpelling_self (h.2 value hvalue)
  simp [normalizeHostname_eq_ok_iff_forall, hostsOf, hself]

example : normalizeHostname (some " WS-01.Example.") (some "ws-01.example") =
    .ok "ws-01.example" := by
  decide +kernel

end Hosts

section Respelled

/-- Leading zeros change no number. -/
theorem number_leadingZeros {zeros : Nat} {digits : String} (hdigits : digits ≠ "")
    (hlength : zeros + digits.length ≤ 4300) :
    (IntegerInput.text (String.ofList (List.replicate zeros '0' ++ digits.toList))).number =
      (IntegerInput.text digits).number := by
  have hzeros : (List.replicate zeros '0').all Char.isDigit = true := by
    simp [List.all_replicate]
  have hvalue : Nat.ofDigitChars 10 (List.replicate zeros '0' ++ digits.toList) 0 =
      Nat.ofDigitChars 10 digits.toList 0 := by
    rw [Nat.ofDigitChars_append, Nat.ofDigitChars_replicate_zero, Nat.mul_zero]
  have hshort : digits.length ≤ 4300 := by omega
  simp [IntegerInput.number, hdigits, hzeros, hvalue, hlength, hshort]

/-- Two times that differ in the offset they are written with. -/
inductive SameInstant : TimestampInput → TimestampInput → Prop
  | refl (time : TimestampInput) : SameInstant time time
  | text {text text' : String} {value : ℚ} (hpattern : rfc3339Pattern text.toList = true)
      (hpattern' : rfc3339Pattern text'.toList = true)
      (hvalue : Calendar.exactInstant text.toList = some value)
      (hvalue' : Calendar.exactInstant text'.toList = some value) :
      SameInstant (.text text) (.text text')
  | datetime {time time' : Datetime} (haware : time'.isAware = true)
      (hinstant : time.instant = time'.instant) : SameInstant (.datetime time) (.datetime time')

/-- Two findings that differ in how their host, rule, numbers and time are spelled. -/
structure Respelled (unicode : Unicode) (a b : FindingInput) : Prop where
  ruleTitle : a.ruleTitle = b.ruleTitle
  sigmaLevel : a.sigmaLevel = b.sigmaLevel
  channel : a.channel = b.channel
  processGuid : a.processGuid = b.processGuid
  image : a.image = b.image
  parentImage : a.parentImage = b.parentImage
  targetFilename : a.targetFilename = b.targetFilename
  ruleId : uuidOfText unicode a.ruleId = uuidOfText unicode b.ruleId
  host : ∀ value ∈ hostsOf a.computer a.host, ∀ value' ∈ hostsOf b.computer b.host,
    Respells value value'
  eventCode : a.eventCode.number = b.eventCode.number
  recordId : a.recordId.number = b.recordId.number
  detectedAt : SameInstant a.detectedAt b.detectedAt

variable {time time' : TimestampInput} {instant : Datetime}

theorem normalizeTimestamp_of_sameInstant (h : SameInstant time time')
    (hok : normalizeTimestamp time = .ok instant) : normalizeTimestamp time' = .ok instant := by
  cases h with
  | refl => exact hok
  | @text text text' value hpattern hpattern' hvalue hvalue' =>
    obtain ⟨stem, digits, zone, hparts⟩ := isRfc3339_of_pattern hpattern
    obtain ⟨micros, offset, hread, hinstant⟩ := hparts.read hvalue
    have hutc : (⟨micros, some offset⟩ : Datetime).instant = ⌊value * 1000000⌋ := hinstant
    have hstrip := strip_eq_self hparts.notBlank
    have hempty : text ≠ "" := by
      rintro rfl
      cases hpattern
    simp only [normalizeTimestamp, hempty, hstrip, ne_eq, not_true_eq_false, or_self, reduceIte,
      hparts.notNumeric, hpattern, Bool.not_true, Bool.false_eq_true, hread] at hok
    obtain ⟨hrange, rfl⟩ := Datetime.astimezone_eq_ok_iff.mp hok
    rw [Datetime.utc, hutc]
    exact normalizeTimestamp_of_rfc3339 hpattern' hvalue' (hutc ▸ hrange)
  | @datetime time time' haware hinstant =>
    simp only [normalizeTimestamp, haware, Bool.not_true, Bool.false_eq_true, reduceIte]
    simp only [normalizeTimestamp] at hok
    split at hok
    · cases hok
    · obtain ⟨hrange, rfl⟩ := Datetime.astimezone_eq_ok_iff.mp hok
      rw [Datetime.astimezone_eq_ok_iff, ← hinstant, Datetime.utc, Datetime.utc, hinstant]
      exact ⟨hinstant ▸ hrange, rfl⟩

variable {unicode : Unicode} {x y : FindingInput} {a b : SplunkFinding}
    {m : NormalizedSplunkFinding}

/-- Respelled findings are normalized to one, but for where they come from. -/
theorem normalize_of_respelled (hx : SplunkFinding.validate unicode x = .ok a)
    (hy : SplunkFinding.validate unicode y = .ok b) (h : Respelled unicode x y)
    (hm : normalizeSplunkFinding a = .ok m) :
    normalizeSplunkFinding b = .ok { m with source := b.source, sourcetype := b.sourcetype } := by
  obtain ⟨hatexts, ⟨ida, hida, harule⟩, halevel, haevent, harecord⟩ := SplunkFinding.of_validate hx
  obtain ⟨hbtexts, ⟨idb, hidb, hbrule⟩, hblevel, hbevent, hbrecord⟩ := SplunkFinding.of_validate hy
  have hnormal := isNormal_of_normalize hm
  have hid : ida = idb := Option.some.inj (hida.symm.trans (h.ruleId.trans hidb))
  have hlevel : a.sigmaLevel = b.sigmaLevel :=
    Except.ok.inj (halevel.symm.trans (h.sigmaLevel ▸ hblevel))
  have hevent : a.eventCode = b.eventCode :=
    Option.some.inj (haevent.symm.trans (h.eventCode.trans hbevent))
  have hrecord : a.recordId = b.recordId :=
    Option.some.inj (harecord.symm.trans (h.recordId.trans hbrecord))
  have htime : normalizeTimestamp b.detectedAt = .ok m.detectedAt := by
    have hsame := h.detectedAt
    rw [← hatexts, ← hbtexts] at hsame
    exact normalizeTimestamp_of_sameInstant hsame hnormal.detectedAt
  have hhost : normalizeHostname b.computer b.host = .ok m.computer := by
    have hrespells := h.host
    rw [← hatexts, ← hbtexts] at hrespells
    have hpresent := (FindingTexts.postInit_eq_ok_iff.mp b.valid).hostnamePresent
    refine (normalizeHostname_eq_iff hnormal.computer).mpr ⟨?_, hrespells⟩
    cases hcomputer : b.computer <;> cases hgiven : b.host <;>
      simp [hcomputer, hgiven, hostsOf] at hpresent ⊢
  have hfields : ∀ {α : Type} (field : FindingTexts → α),
      field x.toFindingTexts = field y.toFindingTexts →
        field b.toFindingTexts = field a.toFindingTexts := by
    intro α field hfield
    rw [hatexts, hbtexts, hfield]
  rw [normalizeSplunkFinding, htime, hhost]
  simp only [bind, Except.bind, pure, Except.pure, Except.ok.injEq,
    NormalizedSplunkFinding.mk.injEq, true_and]
  refine ⟨?_, ?_, ?_, ?_, ?_, ?_, ?_, ?_, ?_, ?_⟩
  · rw [hnormal.ruleId, harule, hbrule, hid]
  · rw [hnormal.ruleTitle]
    exact hfields _ h.ruleTitle
  · rw [hnormal.sigmaLevel, hlevel]
  · rw [hnormal.channel]
    exact hfields _ h.channel
  · rw [hnormal.eventCode, hevent]
  · rw [hnormal.recordId, hrecord]
  · rw [hnormal.processGuid]
    exact hfields _ h.processGuid
  · rw [hnormal.image]
    exact hfields _ h.image
  · rw [hnormal.parentImage]
    exact hfields _ h.parentImage
  · rw [hnormal.targetFilename]
    exact hfields _ h.targetFilename

/-- Where a finding comes from is no part of the alert, nor of the key. -/
theorem canonicalize_of_respelled (sha256 : Sha256)
    (hx : SplunkFinding.validate unicode x = .ok a)
    (hy : SplunkFinding.validate unicode y = .ok b) (h : Respelled unicode x y)
    (hm : normalizeSplunkFinding a = .ok m) : canonicalize sha256 a = canonicalize sha256 b := by
  rw [canonicalize, canonicalize, hm, normalize_of_respelled hx hy h hm]
  rfl

end Respelled

end Splunk

/-- **The identity of a finding is exact.** The identity document tells apart the rule, host,
channel, instant, event code and record ID, and nothing else, and so does the key that a finding is
canonicalized under, unless the hash of two documents collides. A host is told by the names that
differ in blanks around, one dot at the end and the case of letters, and a number by its digits
without the zeros before. And however the host, the rule, the numbers and the time of a finding are
spelled, it is one alert, under one key that core accepts. -/
theorem finding_identity_exact (sha256 : Sha256) (unicode : Unicode) :
    (∀ zeros digits, digits ≠ "" → zeros + digits.length ≤ 4300 →
      (IntegerInput.text (String.ofList (List.replicate zeros '0' ++ digits.toList))).number =
        (IntegerInput.text digits).number) ∧
    (∀ a b m n, normalizeSplunkFinding a = .ok m → normalizeSplunkFinding b = .ok n →
      ∃ x y, findingIdentityBytes m = .ok x ∧ findingIdentityBytes n = .ok y ∧
        (x = y ↔ a.ruleId = b.ruleId ∧ a.channel = b.channel ∧ m.computer = n.computer ∧
          m.detectedAt = n.detectedAt ∧ a.eventCode = b.eventCode ∧ a.recordId = b.recordId) ∧
        ∃ alert alert' key key', canonicalize sha256 a = .ok ⟨alert, key⟩ ∧
          canonicalize sha256 b = .ok ⟨alert', key'⟩ ∧
          ((sha256 x = sha256 y → x = y) → (key = key' ↔ a.ruleId = b.ruleId ∧
            a.channel = b.channel ∧ m.computer = n.computer ∧ m.detectedAt = n.detectedAt ∧
            a.eventCode = b.eventCode ∧ a.recordId = b.recordId))) ∧
    (∀ computer given host, normalizeHostname computer given = .ok host →
      (normalizeHostname (some host) none = .ok host ∧
        normalizeHostname none (some host) = .ok host ∧
        normalizeHostname (some host) (some host) = .ok host) ∧
      ∀ computer' given', normalizeHostname computer' given' = .ok host ↔
        hostsOf computer' given' ≠ [] ∧ ∀ value ∈ hostsOf computer given,
          ∀ value' ∈ hostsOf computer' given', Respells value value') ∧
    ∀ x y a b, SplunkFinding.validate unicode x = .ok a → SplunkFinding.validate unicode y = .ok b →
      Respelled unicode x y → ∀ m, normalizeSplunkFinding a = .ok m →
        ∃ alert key, canonicalize sha256 a = .ok ⟨alert, key⟩ ∧
          canonicalize sha256 b = .ok ⟨alert, key⟩ ∧ visibleKey key = true ∧
          alert.source.sourceAlertId = some key := by
  refine ⟨fun zeros digits => number_leadingZeros, fun a b m n hm hn => ?_,
    fun computer given host h => ?_, ?_⟩
  · have ha := isNormal_of_normalize hm
    have hb := isNormal_of_normalize hn
    rw [← ha.ruleId, ← hb.ruleId, ← ha.channel, ← hb.channel, ← ha.eventCode, ← hb.eventCode,
      ← ha.recordId, ← hb.recordId]
    obtain ⟨x, y, hx, hy, hiff⟩ := findingIdentityBytes_eq_iff hm hn
    obtain ⟨key, alert, hkey, hcanonicalize, -⟩ := exists_canonicalize sha256 hm
    obtain ⟨key', alert', hkey', hcanonicalize', -⟩ := exists_canonicalize sha256 hn
    refine ⟨x, y, hx, hy, hiff, alert, alert', key, key', hcanonicalize, hcanonicalize',
      fun hcollision => ?_⟩
    rw [← hiff]
    exact idempotencyKey_eq_iff hx hy hkey hkey' hcollision
  · exact ⟨normalizeHostname_self h, fun _ _ => normalizeHostname_eq_iff h⟩
  · intro x y a b hx hy h m hm
    obtain ⟨key, alert, hkey, hcanonicalize, halert⟩ := exists_canonicalize sha256 hm
    have hsame := canonicalize_of_respelled sha256 hx hy h hm
    exact ⟨alert, key, hcanonicalize, hsame ▸ hcanonicalize, visibleKey_of_idempotencyKey hkey,
      halert.sourceAlertId⟩

end Alert2IR
