import Alert2IR.Splunk.Timestamps
import Mathlib.Data.List.TakeWhile

/-!
# Timestamps are floored

A numeric timestamp passes through a product of 28 digits before it is floored. The result is the
floor of what the text spells, unless the product is rounded up to the next microsecond.
-/

namespace Alert2IR

namespace Splunk

/-- The years a datetime has, in seconds since the epoch. -/
def InEpoch (value : ℚ) : Prop := -62135596800 ≤ value ∧ value < 253402300800

/-- More than half a unit of its 28th digit lies between the microseconds of a number and the next
whole microsecond. -/
def Resolved (value : ℚ) : Prop :=
  Numeric.unitInLastPlace 10 28 (value * 1000000) <
    2 * (⌊value * 1000000⌋ + 1 - value * 1000000)

section Epochs

variable {value : ℚ}

theorem InEpoch.bounded (h : InEpoch value) : |value * 1000000| < ((10 : ℕ) : ℚ) ^ 18 := by
  obtain ⟨hmin, hmax⟩ := h
  rw [abs_lt]
  constructor <;> push_cast <;> linarith

theorem InEpoch.inRange (h : InEpoch value) : Calendar.InRange ⌊value * 1000000⌋ := by
  obtain ⟨hmin, hmax⟩ := h
  constructor
  · rw [Calendar.minMicros, Int.le_floor]
    push_cast
    linarith
  · rw [Calendar.maxMicros, Int.floor_lt]
    push_cast
    linarith

/-- **When an epoch is floored.** -/
theorem normalizeEpoch_iff (h : InEpoch value) :
    normalizeEpoch (some value) = .ok (.ofInstant ⌊value * 1000000⌋) ↔ Resolved value := by
  have hfloor := Numeric.floor_toPrecision_iff (b := 10) (p := 28) (by decide) (by decide)
    (by decide) h.bounded (by decide)
  have hinRange := h.inRange
  obtain ⟨hmin, hmax⟩ := h
  rw [Resolved, ← hfloor, normalizeEpoch]
  simp only [hmin, hmax, and_self, not_true_eq_false, reduceIte]
  by_cases heq : ⌊Numeric.toPrecision 10 28 (value * 1000000)⌋ = ⌊value * 1000000⌋
  · rw [heq, if_pos hinRange]
    exact iff_of_true rfl rfl
  · refine iff_of_false (fun hok => heq ?_) heq
    split at hok
    · have hinstant := congrArg Datetime.instant (Except.ok.inj hok)
      rwa [Datetime.instant_ofInstant, Datetime.instant_ofInstant] at hinstant
    · cases hok

/-- A whole number of seconds is one of microseconds. -/
theorem resolved_intCast {n : ℤ} (h : InEpoch n) : Resolved n := by
  have hunit := Numeric.unitInLastPlace_le_one (b := 10) (p := 28) (by decide) (by decide)
    h.bounded (by decide)
  have hfloor : ⌊(n : ℚ) * 1000000⌋ = n * 1000000 := by
    rw [Int.floor_eq_iff]
    push_cast
    constructor <;> linarith
  rw [Resolved, hfloor]
  push_cast at hunit ⊢
  linarith

end Epochs

section Texts

/-- No blank is read as a part of a number. -/
theorem notBlank_of_readUnsigned {text : List Char} {value : ℚ}
    (h : readUnsigned text = some value) :
    ∀ c ∈ text, c.isDigit = true ∨ c = '.' := by
  intro c hc
  rw [← List.takeWhile_append_dropWhile (p := Char.isDigit) (l := text)] at hc
  unfold readUnsigned at h
  dsimp only at h
  rcases List.mem_append.mp hc with hwhole | hrest
  · exact .inl (List.mem_takeWhile_imp hwhole)
  · split at h
    · next hnil =>
      rw [hnil] at hrest
      cases hrest
    · next point fraction hcons =>
      rw [hcons] at hrest
      rw [Option.ite_none_right_eq_some] at h
      obtain ⟨⟨hpoint, hfraction, -⟩, -⟩ := h
      rcases List.mem_cons.mp hrest with rfl | hrest
      · exact .inr hpoint
      · exact .inl (List.all_eq_true.mp hfraction c hrest)

theorem isPyWhitespace_of_isDigit {c : Char} (h : c.isDigit = true) : isPyWhitespace c = false := by
  rw [Char.isDigit, Bool.and_eq_true, decide_eq_true_eq, decide_eq_true_eq] at h
  have hlow : 48 ≤ c.toNat := h.1
  have hhigh : c.toNat ≤ 57 := h.2
  simp only [isPyWhitespace, Bool.or_eq_false_iff, Bool.and_eq_false_iff, decide_eq_false_iff_not,
    beq_eq_false_iff_ne]
  omega

theorem notBlank_of_readNumeric {text : List Char} {value : ℚ} (h : readNumeric text = some value) :
    ∀ c ∈ text, isPyWhitespace c = false := by
  have hunsigned : ∀ {rest : List Char} {value : ℚ}, readUnsigned rest = some value →
      ∀ c ∈ rest, isPyWhitespace c = false := by
    intro rest value hread c hc
    rcases notBlank_of_readUnsigned hread c hc with hdigit | rfl
    · exact isPyWhitespace_of_isDigit hdigit
    · decide
  unfold readNumeric at h
  split at h
  · rintro c (_ | ⟨_, hc⟩)
    · decide
    · exact hunsigned h c hc
  · obtain ⟨magnitude, hread, -⟩ := Option.map_eq_some_iff.mp h
    rintro c (_ | ⟨_, hc⟩)
    · decide
    · exact hunsigned hread c hc
  · exact hunsigned h

/-- A text without blanks is its own strip. -/
theorem strip_eq_self {value : String} (h : ∀ c ∈ value.toList, isPyWhitespace c = false) :
    strip value = value := by
  rw [strip, stripOf_eq_self_of_forall h, String.ofList_toList]

theorem normalizeTimestamp_of_numeric {text : String} {value : ℚ}
    (h : readNumeric text.toList = some value) :
    normalizeTimestamp (.text text) = normalizeEpoch (some value) := by
  have hstrip := strip_eq_self (notBlank_of_readNumeric h)
  have hempty : text ≠ "" := by
    rintro rfl
    cases h
  simp only [normalizeTimestamp, hempty, hstrip, ne_eq, not_true_eq_false, or_self, reduceIte, h]

/-- What the pattern says of the text up to the seconds. -/
theorem isStem_of_pattern {stem : List Char} (hlength : stem.length = 19)
    (hchars : (stem.zip "0000-00-00T00:00:00".toList).all (fun c =>
      if c.2 = '0' then c.1.isDigit else c.1 = c.2) = true) :
    ∃ date time, Calendar.IsStem stem date time := by
  have htemplate : "0000-00-00T00:00:00".toList = ['0', '0', '0', '0', '-', '0', '0', '-', '0',
      '0', 'T', '0', '0', ':', '0', '0', ':', '0', '0'] := rfl
  rw [htemplate] at hchars
  match stem, hlength with
  | [y₁, y₂, y₃, y₄, c₁, m₁, m₂, c₂, d₁, d₂, c₃, h₁, h₂, c₄, n₁, n₂, c₅, s₁, s₂], _ =>
    simp [-Bool.forall_bool] at hchars
    obtain ⟨hy₁, hy₂, hy₃, hy₄, rfl, hm₁, hm₂, rfl, hd₁, hd₂, rfl, hh₁, hh₂, rfl, hn₁, hn₂, rfl,
      hs₁, hs₂⟩ := hchars
    exact ⟨([y₁, y₂, y₃, y₄], [m₁, m₂], [d₁, d₂]), ([h₁, h₂], [n₁, n₂], [s₁, s₂]), {
      eq := rfl
      year := ⟨rfl, by simp [hy₁, hy₂, hy₃, hy₄]⟩
      month := ⟨rfl, by simp [hm₁, hm₂]⟩
      day := ⟨rfl, by simp [hd₁, hd₂]⟩
      hour := ⟨rfl, by simp [hh₁, hh₂]⟩
      minute := ⟨rfl, by simp [hn₁, hn₂]⟩
      second := ⟨rfl, by simp [hs₁, hs₂]⟩ }⟩

/-- What the pattern says of the zone. -/
theorem zone_of_pattern {zone : List Char} (h : zonePattern zone = true) :
    Calendar.readFraction zone = (0, zone) ∧ (∀ c ∈ zone.head?, c.isDigit = false) ∧
      ∀ c ∈ zone, isPyWhitespace c = false := by
  unfold zonePattern at h
  split at h
  · exact ⟨rfl, by simp, List.forall_mem_singleton.mpr (by decide)⟩
  · next sign h₁ h₂ colon m₁ m₂ =>
    simp only [Bool.and_eq_true, Bool.or_eq_true, decide_eq_true_eq] at h
    obtain ⟨⟨⟨⟨⟨hsign, hh₁⟩, hh₂⟩, rfl⟩, hm₁⟩, hm₂⟩ := h
    have hcolon : isPyWhitespace ':' = false := by decide
    rcases hsign with rfl | rfl
    · refine ⟨rfl, by simp, ?_⟩
      simp [isPyWhitespace_of_isDigit, hh₁, hh₂, hm₁, hm₂, hcolon]
      decide
    · refine ⟨rfl, by simp, ?_⟩
      simp [isPyWhitespace_of_isDigit, hh₁, hh₂, hm₁, hm₂, hcolon]
      decide
  · cases h

/-- A text the pattern matches, in its parts. -/
structure IsRfc3339 (text stem digits zone : List Char) : Prop where
  isStem : ∃ date time, Calendar.IsStem stem date time
  isDigit : ∀ c ∈ digits, c.isDigit = true
  isZone : zonePattern zone = true
  split : Calendar.splitFraction (text.drop 19) = (digits, zone) ∧ text.take 19 = stem
  eq : text = stem ++ zone ∧ digits = [] ∨ text = stem ++ '.' :: (digits ++ zone)

theorem isRfc3339_of_pattern {text : List Char} (h : rfc3339Pattern text = true) :
    ∃ stem digits zone, IsRfc3339 text stem digits zone := by
  have htext := (List.take_append_drop 19 text).symm
  simp only [rfc3339Pattern, Bool.and_eq_true, decide_eq_true_eq] at h
  obtain ⟨⟨⟨hlength, hchars⟩, -⟩, hzone⟩ := h
  have hstem := isStem_of_pattern hlength hchars
  refine ⟨text.take 19, (Calendar.splitFraction (text.drop 19)).1,
    (Calendar.splitFraction (text.drop 19)).2, ⟨hstem, ?_, hzone, ⟨rfl, rfl⟩, ?_⟩⟩
  · rcases Calendar.splitFraction_cases (text.drop 19) with ⟨rest, -, hsplit⟩ | hsplit
    · rw [hsplit]
      exact fun c hc => List.mem_takeWhile_imp hc
    · rw [hsplit]
      rintro c ⟨⟩
  · rcases Calendar.splitFraction_cases (text.drop 19) with ⟨rest, hrest, hsplit⟩ | hsplit
    · refine .inr ?_
      rw [hsplit, List.takeWhile_append_dropWhile, ← hrest]
      exact htext
    · rw [hsplit]
      exact .inl ⟨htext, rfl⟩

section Rfc3339

variable {text stem digits zone : List Char}

theorem isPyWhitespace_stem {date time : List Char × List Char × List Char}
    (h : Calendar.IsStem stem date time) : ∀ c ∈ stem, isPyWhitespace c = false := by
  have hall : ∀ {part : List Char}, part.all Char.isDigit = true →
      ∀ c ∈ part, isPyWhitespace c = false :=
    fun hpart c hc => isPyWhitespace_of_isDigit (List.all_eq_true.mp hpart c hc)
  have hhyphen : isPyWhitespace '-' = false := by decide
  have hT : isPyWhitespace 'T' = false := by decide
  have hcolon : isPyWhitespace ':' = false := by decide
  rw [h.eq]
  simp only [List.forall_mem_append, List.forall_mem_cons]
  exact ⟨⟨⟨⟨⟨hall h.year.2, hhyphen, hall h.month.2⟩, hhyphen, hall h.day.2⟩, hT, hall h.hour.2⟩,
    hcolon, hall h.minute.2⟩, hcolon, hall h.second.2⟩

/-- A text of the pattern starts with the digits of a year, and no number goes on with a hyphen. -/
theorem IsRfc3339.notNumeric (h : IsRfc3339 text stem digits zone) : readNumeric text = none := by
  obtain ⟨date, time, hstem⟩ := h.isStem
  obtain ⟨hyear, hdigits⟩ := hstem.year
  obtain ⟨rest, hrest⟩ : ∃ rest, text = date.1 ++ '-' :: rest := by
    have hassoc : ∀ after : List Char, ∃ rest, stem ++ after = date.1 ++ '-' :: rest := by
      intro after
      rw [hstem.eq]
      simp only [List.append_assoc, List.cons_append]
      exact ⟨_, rfl⟩
    rcases h.eq with ⟨heq, -⟩ | heq
    · exact heq ▸ hassoc zone
    · exact heq ▸ hassoc ('.' :: (digits ++ zone))
  have hunsigned : readUnsigned text = none := by
    have hdrop : text.dropWhile Char.isDigit = '-' :: rest := by
      rw [hrest, List.dropWhile_append_of_pos (List.all_eq_true.mp hdigits),
        List.dropWhile_cons_of_neg (by decide)]
    simp [readUnsigned, hdrop]
  have hhead : ∀ c rest', text = c :: rest' → c.isDigit = true := by
    intro c rest' htext
    cases hdate : date.1 with
    | nil => simp [hdate] at hyear
    | cons d date' =>
      rw [htext, hdate, List.cons_append, List.cons.injEq] at hrest
      rw [hrest.1]
      exact List.all_eq_true.mp hdigits d (hdate ▸ List.mem_cons_self)
  unfold readNumeric
  split
  · next hplus => cases hhead _ _ rfl
  · next hminus => cases hhead _ _ rfl
  · exact hunsigned

theorem IsRfc3339.notBlank (h : IsRfc3339 text stem digits zone) :
    ∀ c ∈ text, isPyWhitespace c = false := by
  obtain ⟨date, time, hstem⟩ := h.isStem
  have hzone := (zone_of_pattern h.isZone).2.2
  have hpoint : isPyWhitespace '.' = false := by decide
  have hdigits : ∀ c ∈ digits, isPyWhitespace c = false :=
    fun c hc => isPyWhitespace_of_isDigit (h.isDigit c hc)
  rcases h.eq with ⟨heq, -⟩ | heq
  · rw [heq, List.forall_mem_append]
    exact ⟨isPyWhitespace_stem hstem, hzone⟩
  · rw [heq, List.forall_mem_append, List.forall_mem_cons, List.forall_mem_append]
    exact ⟨isPyWhitespace_stem hstem, hpoint, hdigits, hzone⟩

/-- What is read is the floor of what the text names. -/
theorem IsRfc3339.read (h : IsRfc3339 text stem digits zone) {value : ℚ}
    (hvalue : Calendar.exactInstant text = some value) :
    ∃ micros offset, Calendar.fromisoformat text = some (micros, offset) ∧
      micros - offset = ⌊value * 1000000⌋ := by
  obtain ⟨date, time, hstem⟩ := h.isStem
  obtain ⟨hread, hstop, -⟩ := zone_of_pattern h.isZone
  simp only [Calendar.exactInstant, h.split, Option.map_eq_some_iff, Prod.exists] at hvalue
  obtain ⟨micros, offset, hwhole, rfl⟩ := hvalue
  have hfloor : ⌊(((micros - offset : ℤ) : ℚ) / 1000000 + Calendar.fractionValue digits)
    * 1000000⌋ =
      micros - offset + ⌊Calendar.fractionValue digits * 1000000⌋ := by
    rw [add_mul, div_mul_cancel₀ _ (by norm_num), Int.floor_intCast_add]
  rcases h.eq with ⟨heq, hnil⟩ | heq
  · refine ⟨micros, offset, heq ▸ hwhole, ?_⟩
    subst hnil
    rw [hfloor]
    simp [Calendar.fractionValue]
  · refine ⟨micros + ⌊Calendar.fractionValue digits * 1000000⌋, offset, ?_, ?_⟩
    · rw [heq]
      exact Calendar.fromisoformat_fraction hstem hread hstop h.isDigit hwhole
    · rw [hfloor]
      omega

end Rfc3339

/-- **An RFC 3339 text is floored**, whatever its offset and its digits. -/
theorem normalizeTimestamp_of_rfc3339 {text : String} {value : ℚ}
    (h : rfc3339Pattern text.toList = true)
    (hvalue : Calendar.exactInstant text.toList = some value)
    (hrange : Calendar.InRange ⌊value * 1000000⌋) :
    normalizeTimestamp (.text text) = .ok (.ofInstant ⌊value * 1000000⌋) := by
  obtain ⟨stem, digits, zone, hparts⟩ := isRfc3339_of_pattern h
  obtain ⟨micros, offset, hread, hinstant⟩ := hparts.read hvalue
  have hstrip := strip_eq_self hparts.notBlank
  have hempty : text ≠ "" := by
    rintro rfl
    cases h
  have hutc : (⟨micros, some offset⟩ : Datetime).instant = ⌊value * 1000000⌋ := hinstant
  simp only [normalizeTimestamp, hempty, hstrip, ne_eq, not_true_eq_false, or_self, reduceIte,
    hparts.notNumeric, h, Bool.not_true, Bool.false_eq_true, hread]
  rw [Datetime.astimezone_eq_ok_iff, hutc, Datetime.utc, hutc]
  exact ⟨hrange, rfl⟩

end Texts

/-- A numeric text of at most 64 characters, and the number in range that it spells. -/
structure Spells (text : String) (value : ℚ) : Prop where
  reads : readNumeric text.toList = some value
  length : text.length ≤ 64
  inEpoch : InEpoch value

/-- An RFC 3339 text, and the instant within the years 1 to 9999 that it names. -/
structure Names (text : String) (value : ℚ) : Prop where
  pattern : rfc3339Pattern text.toList = true
  instant : Calendar.exactInstant text.toList = some value
  inRange : Calendar.InRange ⌊value * 1000000⌋

end Splunk

open Splunk

/-- **When normalization is exact flooring.** Integers and RFC 3339 texts are always floored, and a
numeric text is exactly if it is resolved. That is also when it normalizes as an RFC 3339 text of
the same instant does. -/
theorem timestamps_floored_iff (value : ℚ) :
    (∀ text, Spells text value →
      (normalizeTimestamp (.text text) = .ok (.ofInstant ⌊value * 1000000⌋) ↔ Resolved value)) ∧
    (∀ n : ℤ, value = n → InEpoch value →
      normalizeTimestamp (.int n) = .ok (.ofInstant ⌊value * 1000000⌋)) ∧
    (∀ text, Names text value →
      normalizeTimestamp (.text text) = .ok (.ofInstant ⌊value * 1000000⌋)) ∧
    ∀ text text', Spells text value → Names text' value →
      (normalizeTimestamp (.text text) = normalizeTimestamp (.text text') ↔ Resolved value) := by
  have hnumeric : ∀ text, Spells text value →
      (normalizeTimestamp (.text text) = .ok (.ofInstant ⌊value * 1000000⌋) ↔ Resolved value) := by
    intro text h
    rw [normalizeTimestamp_of_numeric h.reads, normalizeEpoch_iff h.inEpoch]
  have hrfc3339 : ∀ text, Names text value →
      normalizeTimestamp (.text text) = .ok (.ofInstant ⌊value * 1000000⌋) :=
    fun text h => normalizeTimestamp_of_rfc3339 h.pattern h.instant h.inRange
  refine ⟨hnumeric, ?_, hrfc3339, ?_⟩
  · rintro n rfl h
    exact (normalizeEpoch_iff h).mpr (resolved_intCast h)
  · intro text text' h h'
    rw [hrfc3339 text' h', hnumeric text h]

namespace Scenario

/-- One microsecond short of a second, but for digits that a product of 28 digits rounds away. -/
def nines : String := "0.9999999999999999999999999999999999"

theorem nines_spelled : Spells nines (9999999999999999999999999999999999 / 10 ^ 34) where
  reads := by decide +kernel
  length := by decide +kernel
  inEpoch := by constructor <;> norm_num

/-- A numeric text that is not floored, and differs from an RFC 3339 text of the same instant. -/
theorem nines_not_floored : Spells nines (9999999999999999999999999999999999 / 10 ^ 34) ∧
    normalizeTimestamp (.text nines) ≠ .ok (.ofInstant
      ⌊(9999999999999999999999999999999999 / 10 ^ 34 : ℚ) * 1000000⌋) ∧
    Names "1970-01-01T00:00:00.9999999999999999999999999999999999Z"
      (9999999999999999999999999999999999 / 10 ^ 34) ∧
    normalizeTimestamp (.text nines) ≠
      normalizeTimestamp (.text "1970-01-01T00:00:00.9999999999999999999999999999999999Z") := by
  refine ⟨nines_spelled, ?_, ⟨?_, ?_, ?_⟩, ?_⟩
  all_goals decide +kernel

end Scenario

end Alert2IR
