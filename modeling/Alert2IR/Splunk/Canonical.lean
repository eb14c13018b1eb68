import Alert2IR.Splunk.Hostnames

/-!
# Every normalized finding becomes an alert

What normalization leaves of a finding fits every bound of the canonical alert and its evidence.
-/

namespace Alert2IR

namespace Splunk

/-! ## Times -/

theorem normalizeEpoch_eq_ok {value : Option ℚ} {time : Datetime}
    (h : normalizeEpoch value = .ok time) :
    ∃ instant, time = .ofInstant instant ∧ Calendar.InRange instant := by
  unfold normalizeEpoch at h
  split at h
  · cases h
  split at h
  · cases h
  dsimp only at h
  split at h
  · next hrange =>
    cases h
    exact ⟨_, rfl, hrange⟩
  · cases h

theorem astimezone_eq_ok {value time : Datetime} (h : value.astimezone = .ok time) :
    ∃ instant, time = .ofInstant instant ∧ Calendar.InRange instant := by
  obtain ⟨hrange, rfl⟩ := Datetime.astimezone_eq_ok_iff.mp h
  exact ⟨_, rfl, hrange⟩

/-- A normalized timestamp is a time in UTC. -/
theorem normalizeTimestamp_eq_ok {value : TimestampInput} {time : Datetime}
    (h : normalizeTimestamp value = .ok time) :
    ∃ instant, time = .ofInstant instant ∧ Calendar.InRange instant := by
  cases value with
  | datetime value =>
    simp only [normalizeTimestamp] at h
    split at h
    · cases h
    · exact astimezone_eq_ok h
  | int value =>
    simp only [normalizeTimestamp] at h
    exact normalizeEpoch_eq_ok h
  | float repr =>
    simp only [normalizeTimestamp] at h
    exact normalizeEpoch_eq_ok h
  | text value =>
    simp only [normalizeTimestamp] at h
    split at h
    · cases h
    split at h
    · exact normalizeEpoch_eq_ok h
    split at h
    · cases h
    split at h
    · cases h
    · exact astimezone_eq_ok h

/-! ## Texts -/

theorem not_isBlank_of_mem {value : String} {c : Char} (hc : c ∈ value.toList)
    (h : isPyWhitespace c = false) : isBlank value = false := by
  rw [isBlank, List.all_eq_false]
  exact ⟨c, hc, by simp [h]⟩

/-- A host has a short name that no quotation changes. -/
theorem quote_of_hostnamePattern {name : List Char} (h : hostnamePattern name = true) :
    quote (String.ofList name) = name := by
  have hself : ∀ c ∈ name, isUnreserved c = true := by
    intro c hc
    rcases mem_of_hostLabels h c hc with hchar | rfl
    · simp only [isHostChar, Bool.or_eq_true] at hchar
      simp only [isUnreserved, Bool.or_eq_true]
      tauto
    · decide
  rw [quote, String.toList_ofList]
  have hsingle : ∀ c ∈ name, (if isUnreserved c then [c]
      else (String.utf8EncodeChar c).flatMap fun byte =>
        ['%', upperHexDigit (byte.toNat / 16), upperHexDigit (byte.toNat % 16)]) = [c] :=
    fun c hc => if_pos (hself c hc)
  rw [List.flatMap_congr hsingle]
  exact List.flatMap_singleton' name

/-- Quoting ASCII text makes it at most three times as long. -/
theorem length_quote_le {text : String} (h : ∀ c ∈ text.toList, c.toNat < 128) :
    (quote text).length ≤ 3 * text.length := by
  rw [quote, ← String.length_toList]
  generalize text.toList = chars at h
  induction chars with
  | nil => simp
  | cons c rest ih =>
    have hrest := ih fun d hd => h d (.tail _ hd)
    have hc : (if isUnreserved c then [c]
        else (String.utf8EncodeChar c).flatMap fun byte =>
          ['%', upperHexDigit (byte.toNat / 16), upperHexDigit (byte.toNat % 16)]).length ≤ 3 := by
      split
      · exact Nat.le_of_ble_eq_true rfl
      · have hsmall : c.val ≤ 127 := Nat.le_of_lt_succ (h c (.head _))
        have hsize := Char.utf8Size_eq_one_iff.mpr hsmall
        simp [List.length_flatMap, hsize]
    rw [List.flatMap_cons, List.length_append, List.length_cons]
    omega

theorem length_toString_le {n : Int} {digits : Nat} (hn : 0 ≤ n) (hlt : n < 10 ^ digits)
    (hdigits : 0 < digits) : (toString n).length ≤ digits := by
  obtain ⟨m, rfl⟩ := Int.eq_ofNat_of_zero_le hn
  have hm : m < 10 ^ digits := by exact_mod_cast hlt
  have htext : toString (m : Int) = String.ofList (Nat.toDigits 10 m) := rfl
  rw [htext, String.length_ofList]
  exact (Nat.length_toDigits_le_iff (by decide) hdigits).mpr hm

/-! ## The parts of an alert -/

theorem isBlank_of_boundedText {maximum : Nat} {value : String}
    (h : boundedText maximum value = true) : value.length ≤ maximum ∧ isBlank value = false := by
  simp only [boundedText, Bool.and_eq_true, decide_eq_true_eq, Bool.not_eq_true'] at h
  exact ⟨h.1.2, h.2⟩

theorem channel_bounds (finding : SplunkFinding) :
    finding.channel.length ≤ 128 ∧ ∀ c ∈ finding.channel.toList, c.toNat < 128 := by
  have hvalid := FindingTexts.postInit_eq_ok_iff.mp finding.valid
  have hchannel := hvalid.isChannel
  simp only [isChannel, Bool.and_eq_true, List.all_eq_true, decide_eq_true_eq] at hchannel
  refine ⟨(isBlank_of_boundedText hvalid.channel).1, fun c hc => ?_⟩
  have hc := (hchannel.2 c hc).2
  omega

theorem exists_detection {identifier name : String} (hidentifier : isBlank identifier = false)
    (hname : isBlank name = false) :
    ∃ detection, DetectionIdentity.make identifier (some name) = .ok detection ∧
      detection.identifier = identifier ∧ detection.name = some name := by
  have hvalid : DetectionIdentity.postInit identifier (some name) = .ok () := by
    simp [DetectionIdentity.postInit, checks_eq_ok_iff, hidentifier, hname]
  exact ⟨⟨identifier, some name, hvalid⟩, DetectionIdentity.make_self ⟨_, _, hvalid⟩, rfl, rfl⟩

theorem exists_source {source id : String} (hsource : isBlank source = false)
    (hid : isBlank id = false) :
    ∃ provenance, SourceProvenance.make source (some id) = .ok provenance ∧
      provenance.source = source ∧ provenance.sourceAlertId = some id := by
  have hvalid : SourceProvenance.postInit source (some id) = .ok () := by
    simp [SourceProvenance.postInit, checks_eq_ok_iff, hsource, hid]
  exact ⟨⟨source, some id, hvalid⟩, SourceProvenance.make_self ⟨_, _, hvalid⟩, rfl, rfl⟩

theorem exists_entity {kind value : String} (hkind : isBlank kind = false)
    (hvalue : isBlank value = false) :
    ∃ entity, Entity.make kind value = .ok entity ∧ entity.kind = kind ∧ entity.value = value := by
  have hvalid : Entity.postInit kind value = .ok () := by
    simp [Entity.postInit, checks_eq_ok_iff, hkind, hvalue]
  exact ⟨⟨kind, value, hvalid⟩, Entity.make_self ⟨_, _, hvalid⟩, rfl, rfl⟩

theorem exists_evidence {reference kind : String} (hlength : reference.length ≤ 1024)
    (hreference : isBlank reference = false) (hkind : isBlank kind = false) :
    ∃ item, evidence reference kind = .ok item ∧ item.reference = reference ∧
      item.kind = some kind := by
  have hvalid : EvidenceReference.postInit reference (some kind) = .ok () := by
    simp [EvidenceReference.postInit, checks_eq_ok_iff, hreference, hkind]
  refine ⟨⟨reference, some kind, hvalid⟩, ?_, rfl, rfl⟩
  rw [evidence, if_neg (by rw [evidenceReferenceMaxLength]; omega)]
  exact EvidenceReference.make_self ⟨_, _, hvalid⟩

/-- Where every item succeeds, the list does. -/
theorem exists_mapM {α β : Type} {f : α → Except PyError β} {P : α → β → Prop} {items : List α}
    (h : ∀ x ∈ items, ∃ y, f x = .ok y ∧ P x y) :
    ∃ ys, items.mapM f = .ok ys ∧ List.Forall₂ P items ys := by
  induction items with
  | nil => exact ⟨[], rfl, .nil⟩
  | cons x items ih =>
    obtain ⟨y, hy, hxy⟩ := h x (.head _)
    obtain ⟨ys, hys, hrest⟩ := ih fun x hx => h x (.tail _ hx)
    refine ⟨y :: ys, ?_, .cons hxy hrest⟩
    rw [List.mapM_cons, hy, hys]
    rfl

/-! ## The alert -/

section Normalized

variable {finding : SplunkFinding} {normalized : NormalizedSplunkFinding}

/-- What a normalized finding takes from its source, and what it makes of it. -/
structure IsNormal (finding : SplunkFinding) (normalized : NormalizedSplunkFinding) : Prop where
  detectedAt : normalizeTimestamp finding.detectedAt = .ok normalized.detectedAt
  computer : normalizeHostname finding.computer finding.host = .ok normalized.computer
  ruleId : normalized.ruleId = finding.ruleId
  ruleTitle : normalized.ruleTitle = finding.ruleTitle
  sigmaLevel : normalized.sigmaLevel = finding.sigmaLevel
  channel : normalized.channel = finding.channel
  eventCode : normalized.eventCode = finding.eventCode
  recordId : normalized.recordId = finding.recordId
  processGuid : normalized.processGuid = finding.processGuid
  image : normalized.image = finding.image
  parentImage : normalized.parentImage = finding.parentImage
  targetFilename : normalized.targetFilename = finding.targetFilename

theorem isNormal_of_normalize (h : normalizeSplunkFinding finding = .ok normalized) :
    IsNormal finding normalized := by
  unfold normalizeSplunkFinding at h
  cases htime : normalizeTimestamp finding.detectedAt with
  | error e => simp [htime, bind, Except.bind] at h
  | ok detectedAt =>
    cases hhost : normalizeHostname finding.computer finding.host with
    | error e => simp [htime, hhost, bind, Except.bind] at h
    | ok computer =>
      simp only [htime, hhost, bind, Except.bind, pure, Except.pure, Except.ok.injEq] at h
      subst h
      exact ⟨htime, hhost, rfl, rfl, rfl, rfl, rfl, rfl, rfl, rfl, rfl, rfl⟩

/-- A host and at least one spelling of it. -/
theorem normalizeHostname_eq_ok_iff {computer host : Option String} {name : String} :
    normalizeHostname computer host = .ok name ↔ (computer ≠ none ∨ host ≠ none) ∧
      (∀ value ∈ computer, IsSpelling name value) ∧ ∀ value ∈ host, IsSpelling name value := by
  simp only [← normalizeOneHostname_eq_ok_iff]
  unfold normalizeHostname
  cases computer with
  | none =>
    cases host with
    | none => simp [bind, Except.bind, pure, Except.pure, throw, throwThe, MonadExceptOf.throw]
    | some host =>
      cases hhost : normalizeOneHostname host with
      | error e => simp [hhost, bind, Except.bind, pure, Except.pure, Functor.map, Except.map]
      | ok given => simp [hhost, bind, Except.bind, pure, Except.pure, Functor.map, Except.map]
  | some computer =>
    cases hcomputer : normalizeOneHostname computer with
    | error e => simp [hcomputer, bind, Except.bind, Functor.map, Except.map]
    | ok given =>
      cases host with
      | none => simp [hcomputer, bind, Except.bind, pure, Except.pure, Functor.map, Except.map]
      | some host =>
        cases hhost : normalizeOneHostname host with
        | error e => simp [hcomputer, hhost, bind, Except.bind, Functor.map, Except.map]
        | ok given' =>
          simp only [hcomputer, hhost, bind, Except.bind, pure, Except.pure, Option.mapM_some,
            Functor.map, Except.map]
          by_cases heq : given = given'
          · subst heq
            simp [hcomputer, hhost]
          · simp only [ne_eq, heq, not_false_eq_true, reduceIte, throw, throwThe,
              MonadExceptOf.throw, reduceCtorEq, false_iff, Option.mem_some_iff, forall_eq',
              hcomputer, hhost, Except.ok.injEq, not_and]
            rintro - rfl hgiven
            exact heq hgiven.symm

theorem isBlank_of_isSpelling {name value : String} (h : IsSpelling name value) :
    name.length ≤ 255 ∧ hostnamePattern name.toList = true ∧ isBlank name = false := by
  obtain ⟨before, spelled, dot, after, -, -, -, -, hpattern, hlength, hlower⟩ := h
  have hname : hostnamePattern name.toList = true := by
    rw [← hlower, hostnamePattern, hostLabels_map_toLower]
    exact hpattern
  refine ⟨?_, hname, ?_⟩
  · rw [← String.length_toList, ← hlower, List.length_map]
    exact hlength
  · cases hchars : name.toList with
    | nil => exact absurd hchars (ne_nil_of_hostnamePattern hname)
    | cons c rest =>
      have hc := head_of_hostnamePattern hname c (by rw [hchars]; rfl)
      exact not_isBlank_of_mem (hchars ▸ List.mem_cons_self) (isPyWhitespace_of_isHostChar hc)

theorem isSpelling_of_isNormal (h : IsNormal finding normalized) :
    ∃ value, IsSpelling normalized.computer value := by
  obtain ⟨hpresent, hcomputer, hhost⟩ := normalizeHostname_eq_ok_iff.mp h.computer
  rcases hpresent with hpresent | hpresent
  · obtain ⟨value, hvalue⟩ := Option.ne_none_iff_exists'.mp hpresent
    exact ⟨value, hcomputer value hvalue⟩
  · obtain ⟨value, hvalue⟩ := Option.ne_none_iff_exists'.mp hpresent
    exact ⟨value, hhost value hvalue⟩

theorem policyReference_fits (normalized : NormalizedSplunkFinding) (severity : Severity) :
    (policyReference normalized severity).length ≤ 1024 ∧
      isBlank (policyReference normalized severity) = false := by
  unfold policyReference
  cases normalized.sigmaLevel <;> cases severity <;> decide +kernel

theorem length_numbers_le (h : IsNormal finding normalized) :
    (toString normalized.eventCode).length ≤ 19 ∧ (toString normalized.recordId).length ≤ 19 := by
  have hevent := finding.eventCode_bounds
  have hrecord := finding.recordId_bounds
  rw [← h.eventCode, eventCodeMaximum] at hevent
  rw [← h.recordId, recordIdMaximum] at hrecord
  exact ⟨length_toString_le (by omega) (by omega) (by decide),
    length_toString_le (by omega) (by omega) (by decide)⟩

theorem length_eventReference (normalized : NormalizedSplunkFinding) :
    (eventReference normalized).length = 30 + (quote normalized.computer).length +
      (quote normalized.channel).length + (toString normalized.recordId).length +
      (toString normalized.eventCode).length := by
  have hscheme : "windows-event://".length = 16 := rfl
  have hslash : "/".length = 1 := rfl
  have hquery : "?event_code=".length = 12 := rfl
  unfold eventReference
  simp only [String.length_append, String.length_ofList, hscheme, hslash, hquery]
  generalize (toString normalized.recordId).length = x
  generalize (toString normalized.eventCode).length = y
  omega

theorem eventReference_fits (h : IsNormal finding normalized) :
    (eventReference normalized).length ≤ 1024 ∧ isBlank (eventReference normalized) = false := by
  obtain ⟨value, hspelling⟩ := isSpelling_of_isNormal h
  obtain ⟨hcomputer, hpattern, -⟩ := isBlank_of_isSpelling hspelling
  obtain ⟨hchannel, hascii⟩ := channel_bounds finding
  rw [← h.channel] at hchannel hascii
  have hquoted := quote_of_hostnamePattern hpattern
  rw [String.ofList_toList] at hquoted
  have hchannelQuoted := length_quote_le hascii
  obtain ⟨hevent, hrecord⟩ := length_numbers_le h
  have hlength := length_eventReference normalized
  rw [hquoted, String.length_toList] at hlength
  generalize (toString normalized.recordId).length = x at hlength hrecord
  generalize (toString normalized.eventCode).length = y at hlength hevent
  have hmem : 'w' ∈ (eventReference normalized).toList := by
    have hscheme : 'w' ∈ "windows-event://".toList := by decide
    unfold eventReference
    simp only [String.toList_append, List.mem_append, hscheme, true_or]
  exact ⟨by omega, not_isBlank_of_mem hmem (by decide)⟩

/-- Everything evidence is built of has room in it. -/
theorem evidenceItems_fit (h : IsNormal finding normalized) (severity : Severity) :
    ∀ item ∈ evidenceItems normalized severity,
      item.1.length ≤ 1024 ∧ isBlank item.1 = false ∧ isBlank item.2 = false := by
  have hvalid := FindingTexts.postInit_eq_ok_iff.mp finding.valid
  have hpolicy := policyReference_fits normalized severity
  have hevent := eventReference_fits h
  have hoptional : ∀ {value : Option String} {maximum : Nat}, maximum ≤ 1024 →
      ifPresent value (boundedText maximum) = true → ∀ reference, value = some reference →
        reference.length ≤ 1024 ∧ isBlank reference = false := by
    rintro _ maximum hmaximum hfits reference rfl
    obtain ⟨hlength, hblank⟩ := isBlank_of_boundedText hfits
    exact ⟨hlength.trans hmaximum, hblank⟩
  have hguid := hoptional (by decide) hvalid.processGuid
  have himage := hoptional (by decide) hvalid.image
  have hparent := hoptional (by decide) hvalid.parentImage
  have htarget := hoptional (by decide) hvalid.targetFilename
  rw [← h.processGuid] at hguid
  rw [← h.image] at himage
  rw [← h.parentImage] at hparent
  rw [← h.targetFilename] at htarget
  intro item hitem
  simp only [evidenceItems, List.mem_cons, List.mem_filterMap, Option.map_eq_some_iff,
    List.not_mem_nil, or_false] at hitem
  rcases hitem with rfl | rfl | ⟨_, rfl | rfl | rfl | rfl, reference, hreference, rfl⟩
  · exact ⟨hpolicy.1, hpolicy.2, (by decide : isBlank "normalization-policy" = false)⟩
  · exact ⟨hevent.1, hevent.2, (by decide : isBlank "source-event" = false)⟩
  · obtain ⟨hlength, hblank⟩ := hguid reference hreference
    exact ⟨hlength, hblank, (by decide : isBlank "process-guid" = false)⟩
  · obtain ⟨hlength, hblank⟩ := himage reference hreference
    exact ⟨hlength, hblank, (by decide : isBlank "process-image" = false)⟩
  · obtain ⟨hlength, hblank⟩ := hparent reference hreference
    exact ⟨hlength, hblank, (by decide : isBlank "parent-process-image" = false)⟩
  · obtain ⟨hlength, hblank⟩ := htarget reference hreference
    exact ⟨hlength, hblank, (by decide : isBlank "target-file" = false)⟩

/-- **Evidence is always built.** -/
theorem exists_buildEvidence (h : IsNormal finding normalized) (severity : Severity) :
    ∃ items, buildEvidence normalized severity = .ok items ∧
      List.Forall₂ (fun item evidence => evidence.reference = item.1 ∧ evidence.kind = some item.2)
        (evidenceItems normalized severity) items := by
  refine exists_mapM (f := fun item : String × String => evidence item.1 item.2) fun item
    hitem => ?_
  obtain ⟨hlength, hreference, hkind⟩ := evidenceItems_fit h severity item hitem
  exact exists_evidence hlength hreference hkind

theorem isBlank_uuidText (id : UUID) : isBlank (uuidText id) = false := by
  have hdigit := digitChar_mem_lowerHex (id.toNat / 16 ^ 31 % 16) (Nat.mod_lt _ (by decide))
  have hvisible : ∀ c ∈ lowerHex, (!isPyWhitespace c) = true := List.all_eq_true.mp (by decide)
  apply not_isBlank_of_mem _ (by simpa using hvisible _ hdigit)
  rw [uuidText, String.toList_ofList, uuidString, uuidDigits]
  simp

theorem isBlank_of_visibleKey {key : String} (h : visibleKey key = true) :
    isBlank key = false := by
  simp only [visibleKey, Bool.and_eq_true, decide_eq_true_eq, List.all_eq_true] at h
  obtain ⟨⟨hlength, -⟩, hvisible⟩ := h
  cases hchars : key.toList with
  | nil =>
    rw [← String.length_toList, hchars] at hlength
    exact absurd hlength (by decide)
  | cons c rest =>
    have hmem : c ∈ key.toList := hchars ▸ List.mem_cons_self
    obtain ⟨hlow, hhigh⟩ := hvisible c hmem
    apply not_isBlank_of_mem hmem
    simp only [isPyWhitespace, Bool.or_eq_false_iff, Bool.and_eq_false_iff,
      decide_eq_false_iff_not, beq_eq_false_iff_ne]
    omega

/-- An alert that says what a normalized finding does, under its key. -/
structure IsAlertOf (normalized : NormalizedSplunkFinding) (key : String) (alert : CanonicalAlert) :
    Prop where
  identifier : alert.detection.identifier = normalized.ruleId
  name : alert.detection.name = some normalized.ruleTitle
  detectedAt : alert.detectedAt = normalized.detectedAt
  source : alert.source.source = canonicalSource
  sourceAlertId : alert.source.sourceAlertId = some key
  entities : alert.entities.map (fun entity => (entity.kind, entity.value)) =
    [("host", normalized.computer)]
  severity : alert.severity = normalizeSigmaSeverity normalized.sigmaLevel
  evidence : List.Forall₂ (fun item evidence => evidence.reference = item.1 ∧
    evidence.kind = some item.2) (evidenceItems normalized alert.severity) alert.evidence

/-- **A finding that is normalized is canonicalized.** -/
theorem exists_canonicalize (sha256 : Sha256)
    (h : normalizeSplunkFinding finding = .ok normalized) :
    ∃ key alert, idempotencyKey sha256 normalized = .ok key ∧
      canonicalize sha256 finding = .ok ⟨alert, key⟩ ∧ IsAlertOf normalized key alert := by
  have hnormal := isNormal_of_normalize h
  have hvalid := FindingTexts.postInit_eq_ok_iff.mp finding.valid
  obtain ⟨instant, htime, hrange⟩ := normalizeTimestamp_eq_ok hnormal.detectedAt
  have hbytes := findingIdentityBytes_of_instant htime hrange
  obtain ⟨key, hkey⟩ : ∃ key, idempotencyKey sha256 normalized = .ok key := by
    rw [idempotencyKey, hbytes]
    exact ⟨_, rfl⟩
  have hvisible := visibleKey_of_idempotencyKey hkey
  obtain ⟨value, hspelling⟩ := isSpelling_of_isNormal hnormal
  obtain ⟨-, -, hcomputer⟩ := isBlank_of_isSpelling hspelling
  have hrule : isBlank normalized.ruleId = false := by
    obtain ⟨id, hid⟩ := finding.ruleId_uuid
    rw [hnormal.ruleId, hid]
    exact isBlank_uuidText id
  have htitle : isBlank normalized.ruleTitle = false := by
    rw [hnormal.ruleTitle]
    exact (isBlank_of_boundedText hvalid.ruleTitle).2
  have hkeyBlank := isBlank_of_visibleKey hvisible
  obtain ⟨detection, hdetection, hidentifier, hname⟩ := exists_detection hrule htitle
  obtain ⟨source, hsource, hsourceName, hsourceId⟩ :=
    exists_source (by decide : isBlank canonicalSource = false) hkeyBlank
  obtain ⟨entity, hentity, hkind, hvalue⟩ :=
    exists_entity (by decide : isBlank "host" = false) hcomputer
  obtain ⟨items, hbuild, hevidence⟩ :=
    exists_buildEvidence hnormal (normalizeSigmaSeverity normalized.sigmaLevel)
  have haware : CanonicalAlert.postInit normalized.detectedAt = .ok () := by
    rw [htime]
    rfl
  let alert : CanonicalAlert := ⟨detection, normalized.detectedAt, source, [entity],
    normalizeSigmaSeverity normalized.sigmaLevel, items, haware⟩
  refine ⟨key, alert, hkey, ?_, hidentifier, hname, rfl, hsourceName, hsourceId, ?_, rfl,
    hevidence⟩
  · have hmake := CanonicalAlert.make_self alert
    have halert : toCanonicalAlert normalized key = .ok alert := by
      rw [toCanonicalAlert, hdetection, hsource, hentity, hbuild]
      exact hmake
    simp only [canonicalize, h, hkey, halert, bind, Except.bind, pure, Except.pure]
  · simp [alert, hkind, hvalue]

end Normalized

end Splunk

end Alert2IR
