import Alert2IR.Splunk.Mapping

/-!
# What a hostname may be spelled as

A spelling of a host is a name in any case of letters, with a dot behind it or not, and blanks
around it. These are the texts that are normalized to the
host. -/

namespace Alert2IR

namespace Splunk

section Characters

variable {c : Char}

theorem upper_cases (h : 65 ≤ c.toNat ∧ c.toNat ≤ 90) :
    ∃ n ∈ List.range 26, c = Char.ofNat (65 + n) := by
  refine ⟨c.toNat - 65, List.mem_range.mpr (by omega), ?_⟩
  rw [show 65 + (c.toNat - 65) = c.toNat by omega, Char.ofNat_toNat]

theorem toLower_of_not_upper (h : ¬(65 ≤ c.toNat ∧ c.toNat ≤ 90)) : c.toLower = c := by
  unfold Char.toLower
  split
  · next hupper => exact absurd hupper h
  · rfl

@[simp]
theorem isHostChar_toLower (c : Char) : isHostChar c.toLower = isHostChar c := by
  by_cases hupper : 65 ≤ c.toNat ∧ c.toNat ≤ 90
  · obtain ⟨n, hn, rfl⟩ := upper_cases hupper
    revert n
    decide
  · rw [toLower_of_not_upper hupper]

theorem toLower_eq_dot_iff : c.toLower = '.' ↔ c = '.' := by
  by_cases hupper : 65 ≤ c.toNat ∧ c.toNat ≤ 90
  · obtain ⟨n, hn, rfl⟩ := upper_cases hupper
    revert n
    decide
  · rw [toLower_of_not_upper hupper]

@[simp]
theorem toLower_toLower (c : Char) : c.toLower.toLower = c.toLower := by
  by_cases hupper : 65 ≤ c.toNat ∧ c.toNat ≤ 90
  · obtain ⟨n, hn, rfl⟩ := upper_cases hupper
    revert n
    decide
  · rw [toLower_of_not_upper hupper, toLower_of_not_upper hupper]

@[simp]
theorem isPyWhitespace_toLower (c : Char) : isPyWhitespace c.toLower = isPyWhitespace c := by
  by_cases hupper : 65 ≤ c.toNat ∧ c.toNat ≤ 90
  · obtain ⟨n, hn, rfl⟩ := upper_cases hupper
    revert n
    decide
  · rw [toLower_of_not_upper hupper]

theorem toNat_of_isHostChar (h : isHostChar c = true) :
    45 ≤ c.toNat ∧ c.toNat ≤ 122 ∧ c.toNat ≠ 46 := by
  have h : ((((decide (c.val ≥ 65 ∧ c.val ≤ 90)) ||
      (decide (c.val ≥ 97) && decide (c.val ≤ 122))) ||
      (decide (c.val ≥ 48) && decide (c.val ≤ 57))) || decide (c = '_') || decide
        (c = '-')) = true :=
    h
  simp only [Bool.or_eq_true, Bool.and_eq_true, decide_eq_true_eq] at h
  rcases h with (((⟨hlow, hhigh⟩ | ⟨hlow, hhigh⟩) | ⟨hlow, hhigh⟩) | rfl) | rfl
  · have hlow : 65 ≤ c.toNat := hlow
    have hhigh : c.toNat ≤ 90 := hhigh
    omega
  · have hlow : 97 ≤ c.toNat := hlow
    have hhigh : c.toNat ≤ 122 := hhigh
    omega
  · have hlow : 48 ≤ c.toNat := hlow
    have hhigh : c.toNat ≤ 57 := hhigh
    omega
  · decide
  · decide

theorem isPyWhitespace_of_isHostChar (h : isHostChar c = true) : isPyWhitespace c = false := by
  obtain ⟨hlow, hhigh, -⟩ := toNat_of_isHostChar h
  simp only [isPyWhitespace, Bool.or_eq_false_iff, Bool.and_eq_false_iff, decide_eq_false_iff_not,
    beq_eq_false_iff_ne]
  omega

theorem ne_dot_of_isHostChar (h : isHostChar c = true) : c ≠ '.' := by
  rintro rfl
  cases h

end Characters

section Names

variable {begun : Bool} {name : List Char}

theorem mem_of_hostLabels (h : hostLabels begun name = true) :
    ∀ c ∈ name, isHostChar c = true ∨ c = '.' := by
  induction name generalizing begun with
  | nil => simp
  | cons d name ih =>
    rw [hostLabels] at h
    rintro c (_ | ⟨_, hc⟩)
    · by_cases hdot : d = '.'
      · exact .inr hdot
      · rw [if_neg hdot, Bool.and_eq_true] at h
        exact .inl h.1
    · by_cases hdot : d = '.'
      · rw [if_pos hdot, Bool.and_eq_true] at h
        exact ih h.2 c hc
      · rw [if_neg hdot, Bool.and_eq_true] at h
        exact ih h.2 c hc

/-- No label is left empty at the end. -/
theorem getLast_of_hostLabels (h : hostLabels begun name = true) :
    ∀ c ∈ name.getLast?, isHostChar c = true := by
  induction name generalizing begun with
  | nil => simp
  | cons d name ih =>
    rw [hostLabels] at h
    intro c hc
    by_cases hdot : d = '.'
    · rw [if_pos hdot, Bool.and_eq_true] at h
      cases name with
      | nil => cases h.2
      | cons e name =>
        rw [List.getLast?_cons_cons] at hc
        exact ih h.2 c hc
    · rw [if_neg hdot, Bool.and_eq_true] at h
      cases name with
      | nil =>
        rw [List.getLast?_singleton, Option.mem_some_iff] at hc
        exact hc ▸ h.1
      | cons e name =>
        rw [List.getLast?_cons_cons] at hc
        exact ih h.2 c hc

theorem head_of_hostnamePattern (h : hostnamePattern name = true) :
    ∀ c ∈ name.head?, isHostChar c = true := by
  cases name with
  | nil => simp
  | cons c name =>
    rw [hostnamePattern, hostLabels] at h
    by_cases hdot : c = '.'
    · simp [hdot] at h
    · rw [if_neg hdot, Bool.and_eq_true] at h
      simpa using h.1

theorem ne_nil_of_hostnamePattern (h : hostnamePattern name = true) : name ≠ [] := by
  rintro rfl
  cases h

/-- A name matches in any case of letters. -/
theorem hostLabels_map_toLower (begun : Bool) (name : List Char) :
    hostLabels begun (name.map Char.toLower) = hostLabels begun name := by
  induction name generalizing begun with
  | nil => rfl
  | cons c name ih =>
    rw [List.map_cons, hostLabels, hostLabels, ih, ih, isHostChar_toLower]
    by_cases hdot : c = '.'
    · rw [if_pos hdot, if_pos (toLower_eq_dot_iff.mpr hdot)]
    · rw [if_neg hdot, if_neg (toLower_eq_dot_iff.not.mpr hdot)]

end Names

/-- A text that spells a host: one of its names, a dot behind it or not, and blanks around. -/
structure IsSpelling (host value : String) : Prop where
  parts : ∃ before name dot after, value.toList = before ++ (name ++ dot) ++ after ∧
    (∀ c ∈ before, isPyWhitespace c = true) ∧ (∀ c ∈ after, isPyWhitespace c = true) ∧
    (dot = [] ∨ dot = ['.']) ∧ hostnamePattern name = true ∧ name.length ≤ hostnameMaxLength ∧
    name.map Char.toLower = host.toList

theorem isPyWhitespace_dot : isPyWhitespace '.' = false := by decide

/-- A name that ends with a dot or not, without it. -/
theorem withoutDot_append {name dot : List Char} (h : hostnamePattern name = true)
    (hdot : dot = [] ∨ dot = ['.']) : withoutDot (name ++ dot) = name := by
  rcases hdot with rfl | rfl
  · rw [List.append_nil, withoutDot, if_neg]
    intro hlast
    exact ne_dot_of_isHostChar (getLast_of_hostLabels h '.' hlast) rfl
  · rw [withoutDot, List.getLast?_concat, if_pos rfl, List.dropLast_concat]

theorem exists_withoutDot (name : List Char) :
    ∃ dot, (dot = [] ∨ dot = ['.']) ∧ name = withoutDot name ++ dot := by
  by_cases hlast : name.getLast? = some '.'
  · refine ⟨['.'], .inr rfl, ?_⟩
    rw [withoutDot, if_pos hlast]
    exact (List.dropLast_append_getLast? _ hlast).symm
  · refine ⟨[], .inl rfl, ?_⟩
    rw [withoutDot, if_neg hlast, List.append_nil]

/-- Around a name there is nothing to strip but blanks. -/
theorem stripOf_spelling {before name dot after : List Char} (h : hostnamePattern name = true)
    (hdot : dot = [] ∨ dot = ['.']) (hbefore : ∀ c ∈ before, isPyWhitespace c = true)
    (hafter : ∀ c ∈ after, isPyWhitespace c = true) :
    stripOf isPyWhitespace (before ++ (name ++ dot) ++ after) = name ++ dot := by
  have hnil := ne_nil_of_hostnamePattern h
  apply stripOf_append (by simp [hnil]) hbefore hafter
  · intro c hc
    rw [List.head?_append_of_ne_nil _ hnil] at hc
    exact isPyWhitespace_of_isHostChar (head_of_hostnamePattern h c hc)
  · intro c hc
    rcases hdot with rfl | rfl
    · rw [List.append_nil] at hc
      exact isPyWhitespace_of_isHostChar (getLast_of_hostLabels h c hc)
    · rw [List.getLast?_concat, Option.mem_some_iff] at hc
      exact hc ▸ isPyWhitespace_dot

/-- **The spellings of a host are the texts normalized to it.** -/
theorem normalizeOneHostname_eq_ok_iff {value host : String} :
    normalizeOneHostname value = .ok host ↔ IsSpelling host value := by
  constructor
  · intro h
    obtain ⟨before, after, htext, hbefore, hafter⟩ := exists_stripOf isPyWhitespace value.toList
    obtain ⟨dot, hdot, hname⟩ := exists_withoutDot (stripOf isPyWhitespace value.toList)
    unfold normalizeOneHostname at h
    dsimp only at h
    split at h
    · cases h
    split at h
    · cases h
    next hlength =>
    split at h
    · cases h
    split at h
    · cases h
    next hpattern =>
    rw [Except.ok.injEq] at h
    rw [Bool.not_eq_true', Bool.not_eq_false] at hpattern
    refine ⟨before, _, dot, after, ?_, hbefore, hafter, hdot, hpattern, not_lt.mp hlength, ?_⟩
    · rwa [← hname]
    · rw [← h, String.toList_ofList]
  · rintro ⟨before, name, dot, after, htext, hbefore, hafter, hdot, hpattern, hlength, hlower⟩
    have hnil := ne_nil_of_hostnamePattern hpattern
    have hascii : name.all (fun c => c.toNat < 128) = true := by
      rw [List.all_eq_true]
      intro c hc
      rw [decide_eq_true_eq]
      rcases mem_of_hostLabels hpattern c hc with hchar | rfl
      · have hbound := toNat_of_isHostChar hchar
        omega
      · decide
    rw [normalizeOneHostname, htext, stripOf_spelling hpattern hdot hbefore hafter,
      withoutDot_append hpattern hdot]
    simp [hnil, not_lt.mpr hlength, hascii, hpattern, hlower]

example : normalizeOneHostname " WS-01.Example. " = .ok "ws-01.example" := by decide +kernel

end Splunk

end Alert2IR
