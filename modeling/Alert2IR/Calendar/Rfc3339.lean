import Alert2IR.Calendar.Iso
import Mathlib.Data.Rat.Floor
import Mathlib.Tactic.FieldSimp
import Mathlib.Tactic.Positivity
import Mathlib.Tactic.Ring

/-!
# Instants with any number of digits

An RFC 3339 text names an instant with as many digits behind the point as it likes. Reading it as a
datetime takes the floor, in microseconds.
-/

namespace Calendar

/-- The value of digits behind a point. -/
def fractionValue (digits : List Char) : ℚ := Nat.ofDigitChars 10 digits 0 / 10 ^ digits.length

/-- The digits behind the point of a text that goes on with a fraction, and what follows. -/
def splitFraction : List Char → List Char × List Char
  | '.' :: text => (text.takeWhile Char.isDigit, text.dropWhile Char.isDigit)
  | text => ([], text)

theorem splitFraction_cases (text : List Char) :
    (∃ rest, text = '.' :: rest ∧
        splitFraction text = (rest.takeWhile Char.isDigit, rest.dropWhile Char.isDigit)) ∨
      splitFraction text = ([], text) := by
  cases text with
  | nil => exact .inr rfl
  | cons c rest =>
    by_cases hpoint : c = '.'
    · subst hpoint
      exact .inl ⟨rest, rfl, rfl⟩
    · refine .inr ?_
      unfold splitFraction
      split
      · next heq => exact absurd (List.cons.inj heq).1 hpoint
      · rfl

/-- The instant in seconds that a text names. All digits behind the point count. -/
def exactInstant (text : List Char) : Option ℚ :=
  let (digits, zone) := splitFraction (text.drop 19)
  (fromisoformat (text.take 19 ++ zone)).map fun time =>
    ((time.1 - time.2 : Int) : ℚ) / 1000000 + fractionValue digits

/-! ## Digits -/

theorem digit_lt {c : Char} (h : c.isDigit = true) : c.toNat - '0'.toNat < 10 := by
  rw [Char.isDigit, Bool.and_eq_true, decide_eq_true_eq, decide_eq_true_eq] at h
  obtain ⟨-, hhigh⟩ := h
  have hhigh : c.toNat ≤ 57 := hhigh
  have hzero : '0'.toNat = 48 := rfl
  omega

theorem ofDigitChars_lt {digits : List Char} (h : ∀ c ∈ digits, c.isDigit = true) :
    Nat.ofDigitChars 10 digits 0 < 10 ^ digits.length := by
  induction digits with
  | nil => decide
  | cons c digits ih =>
    have hc := digit_lt (h c (.head _))
    have hrest := ih fun d hd => h d (.tail _ hd)
    rw [Nat.ofDigitChars_cons, Nat.ofDigitChars_eq_ofDigitChars_zero, List.length_cons, pow_succ]
    calc 10 ^ digits.length * (10 * 0 + (c.toNat - '0'.toNat)) + Nat.ofDigitChars 10 digits 0
        < 10 ^ digits.length * (10 * 0 + (c.toNat - '0'.toNat)) + 10 ^ digits.length := by omega
      _ = 10 ^ digits.length * (c.toNat - '0'.toNat + 1) := by ring
      _ ≤ 10 ^ digits.length * 10 := Nat.mul_le_mul_left _ (by omega)

/-- The first six digits behind the point, filled up with zeros. -/
def microDigits (digits : List Char) : List Char := (digits ++ List.replicate 6 '0').take 6

section Fractions

variable {digits : List Char}

theorem isDigit_filled (h : ∀ c ∈ digits, c.isDigit = true) :
    ∀ c ∈ digits ++ List.replicate 6 '0', c.isDigit = true := by
  intro c hc
  rcases List.mem_append.mp hc with hc | hc
  · exact h c hc
  · rw [List.eq_of_mem_replicate hc]
    rfl

theorem ofDigitChars_microDigits_lt (h : ∀ c ∈ digits, c.isDigit = true) :
    Nat.ofDigitChars 10 (microDigits digits) 0 < 1000000 := by
  have hdigits : ∀ c ∈ microDigits digits, c.isDigit = true :=
    fun c hc => isDigit_filled h c (List.mem_of_mem_take hc)
  have hlt := ofDigitChars_lt hdigits
  have hlength : (microDigits digits).length = 6 := by simp [microDigits]
  rw [hlength] at hlt
  exact hlt.trans_eq (by norm_num)

/-- The microseconds read off a fraction are the floor of those it has. -/
theorem floor_fractionValue (h : ∀ c ∈ digits, c.isDigit = true) :
    ⌊fractionValue digits * 1000000⌋ = (Nat.ofDigitChars 10 (microDigits digits) 0 : ℕ) := by
  let dropped := (digits ++ List.replicate 6 '0').drop 6
  have hlength : dropped.length = digits.length := by simp [dropped]
  have hdropped : Nat.ofDigitChars 10 dropped 0 < 10 ^ digits.length := by
    rw [← hlength]
    exact ofDigitChars_lt fun c hc => isDigit_filled h c (List.mem_of_mem_drop hc)
  have hsplit : 10 ^ digits.length * Nat.ofDigitChars 10 (microDigits digits) 0 +
      Nat.ofDigitChars 10 dropped 0 = 10 ^ 6 * Nat.ofDigitChars 10 digits 0 := by
    rw [← hlength, ← Nat.ofDigitChars_eq_ofDigitChars_zero, ← Nat.ofDigitChars_append, microDigits,
      List.take_append_drop, Nat.ofDigitChars_append, Nat.ofDigitChars_replicate_zero]
  have hpos : (0 : ℚ) < 10 ^ digits.length := by positivity
  rw [fractionValue]
  generalize Nat.ofDigitChars 10 dropped 0 = rest at hsplit hdropped
  generalize Nat.ofDigitChars 10 (microDigits digits) 0 = micros at hsplit ⊢
  have hvalue : (Nat.ofDigitChars 10 digits 0 / 10 ^ digits.length * 1000000 : ℚ) =
      micros + rest / 10 ^ digits.length := by
    have hcast : ((10 ^ digits.length * micros + rest : ℕ) : ℚ) =
        (10 ^ 6 * Nat.ofDigitChars 10 digits 0 : ℕ) := by rw [hsplit]
    push_cast at hcast
    field_simp
    linarith
  have hnonneg : (0 : ℚ) ≤ rest / 10 ^ digits.length := by positivity
  have hlt : (rest : ℚ) / 10 ^ digits.length < 1 := by
    rw [div_lt_one hpos]
    exact_mod_cast hdropped
  rw [hvalue, Int.floor_eq_iff, Int.cast_natCast]
  constructor <;> linarith

end Fractions

/-! ## The text up to the seconds -/

/-- A date and a time of day up to the seconds. -/
structure IsStem (stem : List Char) (date time : List Char × List Char × List Char) : Prop where
  eq : stem = date.1 ++ '-' :: date.2.1 ++ '-' :: date.2.2 ++
    'T' :: time.1 ++ ':' :: time.2.1 ++ ':' :: time.2.2
  year : date.1.length = 4 ∧ date.1.all Char.isDigit
  month : date.2.1.length = 2 ∧ date.2.1.all Char.isDigit
  day : date.2.2.length = 2 ∧ date.2.2.all Char.isDigit
  hour : time.1.length = 2 ∧ time.1.all Char.isDigit
  minute : time.2.1.length = 2 ∧ time.2.1.all Char.isDigit
  second : time.2.2.length = 2 ∧ time.2.2.all Char.isDigit

theorem readPadded_digits {width : Nat} {digits : List Char}
    (h : digits.length = width ∧ digits.all Char.isDigit) (rest : List Char) :
    readPadded width (digits ++ rest) = some (Nat.ofDigitChars 10 digits 0, rest) := by
  have htake : (digits ++ rest).take width = digits := List.take_left' h.1
  have hdrop : (digits ++ rest).drop width = rest := List.drop_left' h.1
  rw [readPadded, htake, hdrop, if_pos h]

/-- What is read of a text whose first part is known. -/
theorem fromisoformat_stem {stem : List Char} {date time : List Char × List Char × List Char}
    (h : IsStem stem date time) (rest : List Char) :
    fromisoformat (stem ++ rest) = (readOffset (readFraction rest).2).bind fun offset =>
      let fields : Fields :=
        ⟨⟨Nat.ofDigitChars 10 date.1 0, Nat.ofDigitChars 10 date.2.1 0,
            Nat.ofDigitChars 10 date.2.2 0⟩,
          Nat.ofDigitChars 10 time.1 0, Nat.ofDigitChars 10 time.2.1 0,
          Nat.ofDigitChars 10 time.2.2 0, (readFraction rest).1⟩
      if fields.Valid then some (fields.micros, offset) else none := by
  rw [h.eq]
  simp only [fromisoformat, readDate, readTime, List.append_assoc, List.cons_append,
    readPadded_digits h.year, readPadded_digits h.month, readPadded_digits h.day,
    readPadded_digits h.hour, readPadded_digits h.minute, readPadded_digits h.second, readChar_cons,
    Option.bind_eq_bind, Option.bind_some]
  congr
  funext offset
  simp only [guard]
  split <;> rfl

theorem Fields.micros_mk (date : Date) (hour minute second microsecond : Nat) :
    (⟨date, hour, minute, second, microsecond⟩ : Fields).micros =
      (⟨date, hour, minute, second, 0⟩ : Fields).micros + microsecond := by
  simp only [Fields.micros]
  omega

/-- A fraction of a second is added to the time that is read without it. -/
theorem fromisoformat_fraction {stem zone digits : List Char}
    {date time : List Char × List Char × List Char} (h : IsStem stem date time)
    (hzone : readFraction zone = (0, zone)) (hstop : ∀ c ∈ zone.head?, c.isDigit = false)
    (hdigits : ∀ c ∈ digits, c.isDigit = true) {micros offset : Int}
    (hread : fromisoformat (stem ++ zone) = some (micros, offset)) :
    fromisoformat (stem ++ '.' :: (digits ++ zone)) =
      some (micros + ⌊fractionValue digits * 1000000⌋, offset) := by
  have hsplit : readFraction ('.' :: (digits ++ zone)) =
      (Nat.ofDigitChars 10 (microDigits digits) 0, zone) := by
    have htake : zone.takeWhile Char.isDigit = [] := by
      cases zone with
      | nil => rfl
      | cons c zone => rw [List.takeWhile_cons_of_neg (by simp [hstop c rfl])]
    have hdrop : zone.dropWhile Char.isDigit = zone := by
      cases zone with
      | nil => rfl
      | cons c zone => rw [List.dropWhile_cons_of_neg (by simp [hstop c rfl])]
    rw [readFraction, List.takeWhile_append_of_pos hdigits, List.dropWhile_append_of_pos hdigits,
      htake, hdrop, List.append_nil, microDigits]
  rw [fromisoformat_stem h, hzone] at hread
  rw [fromisoformat_stem h, hsplit]
  cases hoffset : readOffset zone with
  | none => simp [hoffset] at hread
  | some read =>
    simp only [hoffset, Option.bind_some, Option.ite_none_right_eq_some, Option.some.injEq,
      Prod.mk.injEq] at hread ⊢
    obtain ⟨hvalid, rfl, rfl⟩ := hread
    refine ⟨⟨hvalid.date, hvalid.year, hvalid.hour, hvalid.minute, hvalid.second,
      ofDigitChars_microDigits_lt hdigits⟩, ?_, rfl⟩
    rw [floor_fractionValue hdigits]
    exact Fields.micros_mk ..

end Calendar
