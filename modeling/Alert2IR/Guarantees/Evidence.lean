import Alert2IR.Splunk.Canonical

/-!
# Evidence is always built, and its event locator is unambiguous

A reference to a source event is read back part by part. The host needs no quotation, a quoted
channel has no separator in it, and of a code in which no word begins another there is one reading.
-/

namespace Alert2IR

namespace Splunk

/-! ### Quotation -/

/-- How `quote(text, safe="-._~")` writes one ASCII character. -/
def quoteAscii (c : Char) : List Char :=
  if isUnreserved c then [c]
  else ['%', upperHexDigit (c.toNat / 16), upperHexDigit (c.toNat % 16)]

theorem quote_of_ascii {text : String} (h : ∀ c ∈ text.toList, c.toNat < 128) :
    quote text = text.toList.flatMap quoteAscii := by
  refine List.flatMap_congr fun c hc => ?_
  have hascii := h c hc
  have hbyte : String.utf8EncodeChar c = [UInt8.ofNat c.toNat] := by
    simp [String.utf8EncodeChar]
    omega
  have hvalue : (UInt8.ofNat c.toNat).toNat = c.toNat := by
    rw [UInt8.toNat_ofNat']
    omega
  rw [hbyte, List.flatMap_cons, List.flatMap_nil, List.append_nil, hvalue]
  rfl

theorem upperHexDigit_inj {m n : Nat} (hm : m < 16) (hn : n < 16)
    (h : upperHexDigit m = upperHexDigit n) : m = n := by
  have hall : ∀ m n : Fin 16, upperHexDigit m = upperHexDigit n → m = n := by decide
  exact congrArg Fin.val (hall ⟨m, hm⟩ ⟨n, hn⟩ h)

/-- No character is quoted as the beginning of another. -/
theorem quoteAscii_code {c d : Char} {x y : List Char} (hc : c.toNat < 128) (hd : d.toNat < 128)
    (h : quoteAscii c ++ x = quoteAscii d ++ y) : c = d := by
  have hpercent : isUnreserved '%' = false := by decide
  unfold quoteAscii at h
  by_cases hcself : isUnreserved c = true
  · rw [if_pos hcself] at h
    by_cases hdself : isUnreserved d = true
    · rw [if_pos hdself] at h
      exact (List.cons.inj h).1
    · rw [if_neg hdself] at h
      rw [(List.cons.inj h).1, hpercent] at hcself
      cases hcself
  · rw [if_neg hcself] at h
    by_cases hdself : isUnreserved d = true
    · rw [if_pos hdself] at h
      rw [← (List.cons.inj h).1, hpercent] at hdself
      cases hdself
    · rw [if_neg hdself] at h
      obtain ⟨-, hdigits⟩ := List.cons.inj h
      obtain ⟨hhigh, hrest⟩ := List.cons.inj hdigits
      obtain ⟨hlow, -⟩ := List.cons.inj hrest
      have hhigh := upperHexDigit_inj (by omega) (by omega) hhigh
      have hlow := upperHexDigit_inj (by omega) (by omega) hlow
      apply Char.toNat_inj.mp
      omega

/-- **Quoted ASCII text can be read in one way.** -/
theorem quote_inj {a b : String} (ha : ∀ c ∈ a.toList, c.toNat < 128)
    (hb : ∀ c ∈ b.toList, c.toNat < 128) (h : quote a = quote b) : a = b := by
  rw [quote_of_ascii ha, quote_of_ascii hb] at h
  apply String.toList_injective
  refine flatMap_inj_of_code (P := fun c : Char => c.toNat < 128) (fun c _ => ?_)
    (fun c d x y hc hd heq => quoteAscii_code hc hd heq) ha hb h
  unfold quoteAscii
  split <;> exact List.cons_ne_nil _ _

/-- Nothing that is quoted has a separator in it. -/
theorem separator_notMem_quote {text : String} (h : ∀ c ∈ text.toList, c.toNat < 128) :
    '/' ∉ quote text := by
  rw [quote_of_ascii h]
  intro hmem
  obtain ⟨c, hc, hslash⟩ := List.mem_flatMap.mp hmem
  have hascii := h c hc
  unfold quoteAscii at hslash
  split at hslash
  · next hself =>
    rw [← List.mem_singleton.mp hslash] at hself
    exact absurd hself (by decide)
  · have hdigit : ∀ n : Fin 16, '/' ≠ upperHexDigit n := by decide
    simp only [List.mem_cons, List.not_mem_nil, or_false] at hslash
    rcases hslash with hslash | hslash | hslash
    · exact absurd hslash (by decide)
    · exact hdigit ⟨c.toNat / 16, by omega⟩ hslash
    · exact hdigit ⟨c.toNat % 16, by omega⟩ hslash

/-! ### The event locator -/

section Locator

variable {a b finding : SplunkFinding} {m n normalized : NormalizedSplunkFinding}

/-- The characters of a reference to a source event, with the host as it is. -/
theorem toList_eventReference (h : IsNormal finding normalized) :
    (eventReference normalized).toList = "windows-event://".toList ++
      (normalized.computer.toList ++ '/' :: (quote normalized.channel ++
        '/' :: ((toString normalized.recordId).toList ++
          '?' :: ("event_code=".toList ++ (toString normalized.eventCode).toList)))) := by
  obtain ⟨value, hspelling⟩ := isSpelling_of_isNormal h
  obtain ⟨-, hpattern, -⟩ := isBlank_of_isSpelling hspelling
  have hquoted := quote_of_hostnamePattern hpattern
  rw [String.ofList_toList] at hquoted
  have hslash : "/".toList = ['/'] := by decide
  have hquery : "?event_code=".toList = '?' :: "event_code=".toList := by decide
  unfold eventReference
  rw [hquoted]
  generalize toString normalized.recordId = record
  generalize toString normalized.eventCode = event
  simp only [String.toList_append, String.toList_ofList, hslash, hquery, List.append_assoc,
    List.cons_append, List.nil_append]

theorem separator_notMem_computer (h : IsNormal finding normalized) :
    '/' ∉ normalized.computer.toList := by
  obtain ⟨value, hspelling⟩ := isSpelling_of_isNormal h
  obtain ⟨-, hpattern, -⟩ := isBlank_of_isSpelling hspelling
  intro hmem
  rcases mem_of_hostLabels hpattern _ hmem with hchar | heq
  · exact absurd hchar (by decide)
  · exact absurd heq (by decide)

/-- The digits of a number there is no sign before. -/
theorem toList_toString {n : Int} (hn : 0 ≤ n) : (toString n).toList = Nat.toDigits 10 n.toNat := by
  obtain ⟨k, rfl⟩ := Int.eq_ofNat_of_zero_le hn
  exact String.toList_ofList

theorem query_notMem_toString {n : Int} (hn : 0 ≤ n) : '?' ∉ (toString n).toList := by
  rw [toList_toString hn]
  intro hmem
  exact absurd (Nat.isDigit_of_mem_toDigits (by decide) (by decide) hmem) (by decide)

theorem toString_inj_of_nonneg {i j : Int} (hi : 0 ≤ i) (hj : 0 ≤ j)
    (h : (toString i).toList = (toString j).toList) : i = j := by
  rw [toList_toString hi, toList_toString hj] at h
  have hvalue : i.toNat = j.toNat := by
    rw [← Nat.ofDigitChars_ten_toDigits (n := i.toNat), h, Nat.ofDigitChars_ten_toDigits]
  omega

/-- **A reference to a source event says which event it is**, and nothing else. -/
theorem eventReference_eq_iff (hm : IsNormal a m) (hn : IsNormal b n) :
    eventReference m = eventReference n ↔ m.computer = n.computer ∧ m.channel = n.channel ∧
      m.recordId = n.recordId ∧ m.eventCode = n.eventCode := by
  constructor
  · intro h
    have hchars := congrArg String.toList h
    rw [toList_eventReference hm, toList_eventReference hn] at hchars
    have hascii := (channel_bounds a).2
    have hascii' := (channel_bounds b).2
    rw [← hm.channel] at hascii
    rw [← hn.channel] at hascii'
    have hrecord := a.recordId_bounds.1
    have hrecord' := b.recordId_bounds.1
    have hevent := a.eventCode_bounds.1
    have hevent' := b.eventCode_bounds.1
    rw [← hm.recordId] at hrecord
    rw [← hn.recordId] at hrecord'
    rw [← hm.eventCode] at hevent
    rw [← hn.eventCode] at hevent'
    generalize "windows-event://".toList = scheme at hchars
    generalize "event_code=".toList = query at hchars
    obtain ⟨hcomputer, hpath⟩ := append_separator_inj (separator_notMem_computer hm)
      (separator_notMem_computer hn) (List.append_cancel_left hchars)
    obtain ⟨hchannel, hnumbers⟩ := append_separator_inj (separator_notMem_quote hascii)
      (separator_notMem_quote hascii') hpath
    obtain ⟨hrecordId, hquery⟩ := append_separator_inj (query_notMem_toString (by omega))
      (query_notMem_toString (by omega)) hnumbers
    exact ⟨String.toList_injective hcomputer, quote_inj hascii hascii' hchannel,
      toString_inj_of_nonneg (by omega) (by omega) hrecordId,
      toString_inj_of_nonneg (by omega) (by omega) (List.append_cancel_left hquery)⟩
  · rintro ⟨hcomputer, hchannel, hrecordId, heventCode⟩
    unfold eventReference
    simp only [hcomputer, hchannel, hrecordId, heventCode]

end Locator

/-! ### The evidence that is built -/

/-- The kinds of evidence, in order. -/
def evidenceKinds : List String :=
  ["normalization-policy", "source-event", "process-guid", "process-image", "parent-process-image",
    "target-file"]

/-- The references to source events in the evidence. -/
def sourceEvents (items : List EvidenceReference) : List String :=
  (items.filter fun item => item.kind = some "source-event").map (·.reference)

section Built

variable {finding : SplunkFinding} {normalized : NormalizedSplunkFinding} {severity : Severity}
  {items : List EvidenceReference}

/-- Of optional evidence there is what has a reference. -/
theorem present_sublist (optional : List (Option String × String)) :
    ((optional.filterMap fun item => item.1.map fun reference =>
      (reference, item.2)).map Prod.snd).Sublist (optional.map Prod.snd) := by
  induction optional with
  | nil => exact .slnil
  | cons item optional ih =>
      obtain ⟨reference, kind⟩ := item
      cases reference with
      | none => exact ih.cons kind
      | some reference => exact ih.cons_cons kind

theorem evidenceItems_kinds (normalized : NormalizedSplunkFinding) (severity : Severity) :
    ((evidenceItems normalized severity).map Prod.snd).Sublist evidenceKinds ∧
      evidenceKinds.take 2 <+: (evidenceItems normalized severity).map Prod.snd := by
  have hpresent := present_sublist [(normalized.processGuid, "process-guid"),
    (normalized.image, "process-image"), (normalized.parentImage, "parent-process-image"),
    (normalized.targetFilename, "target-file")]
  exact ⟨(hpresent.cons_cons _).cons_cons _, ⟨_, rfl⟩⟩

/-- References that say what the texts say. -/
theorem map_evidence_of_texts {texts : List (String × String)}
    (htexts : List.Forall₂ (fun item evidence => evidence.reference = item.1 ∧
      evidence.kind = some item.2) texts items) :
    items.map (fun item => (item.reference, item.kind)) =
      texts.map fun item => (item.1, some item.2) := by
  induction htexts with
  | nil => rfl
  | @cons text item _ _ hitem _ ih =>
      obtain ⟨hreference, hkind⟩ := hitem
      rw [List.map_cons, List.map_cons, hreference, hkind, ih]

/-- What is built says what the items say. -/
theorem map_evidence (hbuilt : buildEvidence normalized severity = .ok items)
    (h : IsNormal finding normalized) :
    items.map (fun item => (item.reference, item.kind)) =
      (evidenceItems normalized severity).map fun item => (item.1, some item.2) := by
  obtain ⟨items', hbuilt', htexts⟩ := exists_buildEvidence h severity
  obtain rfl := Except.ok.inj (hbuilt.symm.trans hbuilt')
  exact map_evidence_of_texts htexts

theorem map_kind (hbuilt : buildEvidence normalized severity = .ok items)
    (h : IsNormal finding normalized) :
    items.map (·.kind) = ((evidenceItems normalized severity).map Prod.snd).map some := by
  have hpairs := congrArg (List.map Prod.snd) (map_evidence hbuilt h)
  simpa only [List.map_map, Function.comp_def] using hpairs

theorem sourceEvents_eq (hbuilt : buildEvidence normalized severity = .ok items)
    (h : IsNormal finding normalized) : sourceEvents items = [eventReference normalized] := by
  have hone : (evidenceItems normalized severity).filter (fun text => text.2 = "source-event") =
      [(eventReference normalized, "source-event")] := by
    unfold evidenceItems
    rw [List.filter_cons_of_neg (by simp), List.filter_cons_of_pos (by simp)]
    refine congrArg _ (List.filter_eq_nil_iff.mpr fun text htext => ?_)
    simp only [List.mem_filterMap, List.mem_cons, List.not_mem_nil, or_false,
      Option.map_eq_some_iff] at htext
    obtain ⟨_, rfl | rfl | rfl | rfl, reference, -, rfl⟩ := htext <;> simp
  have hpairs : sourceEvents items = ((items.map fun item => (item.reference, item.kind)).filter
      fun text => text.2 = some "source-event").map Prod.fst := by
    rw [List.filter_map, List.map_map]
    rfl
  have hkind : (fun text : String × Option String => decide (text.2 = some "source-event")) ∘
      (fun item : String × String => (item.1, some item.2)) =
        fun text : String × String => decide (text.2 = "source-event") := by
    funext text
    simp
  rw [hpairs, map_evidence hbuilt h, List.filter_map, hkind, hone]
  rfl

end Built

end Splunk

open Splunk

/-- **Evidence is always built, in bounds and in one order, and its event locator is
unambiguous.** -/
theorem evidence_unambiguous :
    (∀ finding normalized severity, normalizeSplunkFinding finding = .ok normalized →
      ∃ items, buildEvidence normalized severity = .ok items ∧
        (∀ item ∈ items, isBlank item.reference = false ∧ item.reference.length ≤ 1024) ∧
        (items.map (·.kind)).Sublist (evidenceKinds.map some) ∧
        (evidenceKinds.take 2).map some <+: items.map (·.kind)) ∧
    ∀ a b m n s t x y, normalizeSplunkFinding a = .ok m → normalizeSplunkFinding b = .ok n →
      buildEvidence m s = .ok x → buildEvidence n t = .ok y →
      (sourceEvents x = sourceEvents y ↔ m.computer = n.computer ∧ m.channel = n.channel ∧
        m.recordId = n.recordId ∧ m.eventCode = n.eventCode) := by
  constructor
  · intro finding normalized severity h
    have hnormal := isNormal_of_normalize h
    obtain ⟨items, hbuilt, -⟩ := exists_buildEvidence hnormal severity
    obtain ⟨hkinds, hfirst⟩ := evidenceItems_kinds normalized severity
    refine ⟨items, hbuilt, fun item hitem => ?_, ?_, ?_⟩
    · have hpair : (item.reference, item.kind) ∈ items.map fun item =>
        (item.reference, item.kind) :=
        List.mem_map_of_mem hitem
      rw [map_evidence hbuilt hnormal] at hpair
      obtain ⟨text, htext, heq⟩ := List.mem_map.mp hpair
      obtain ⟨hlength, hblank, -⟩ := evidenceItems_fit hnormal severity text htext
      rw [← (Prod.mk.inj heq).1]
      exact ⟨hblank, hlength⟩
    · rw [map_kind hbuilt hnormal]
      exact hkinds.map some
    · rw [map_kind hbuilt hnormal]
      exact hfirst.map some
  · intro a b m n s t x y hm hn hx hy
    have hm := isNormal_of_normalize hm
    have hn := isNormal_of_normalize hn
    rw [sourceEvents_eq hx hm, sourceEvents_eq hy hn, List.cons.injEq, eventReference_eq_iff hm hn]
    simp only [and_true]

end Alert2IR
