import Alert2IR.Calendar.Gregorian
import Mathlib.Data.List.TakeDrop

/-!
# Times as text

A clock shows a number of microseconds since 1970-01-01T00:00:00, written as a date and a time of
day. The text of a time between the years 1 and 9999 has every field at its place, and is read back
field by field.
-/

namespace Calendar

/-- `datetime.min` and the microsecond after `datetime.max`. -/
def minMicros : Int := -62135596800000000
def maxMicros : Int := 253402300800000000

/-- A clock shows a year from 1 to 9999. -/
def InRange (micros : Int) : Prop := minMicros ≤ micros ∧ micros < maxMicros

instance (micros : Int) : Decidable (InRange micros) := instDecidableAnd

/-! ## Fixed-width numbers -/

/-- The digits of a number with zeros put in front, as `%0wd` writes them. -/
def padded (width n : Nat) : List Char :=
  List.replicate (width - (Nat.toDigits 10 n).length) '0' ++ Nat.toDigits 10 n

/-- Reads a number of exactly so many digits. -/
def readPadded (width : Nat) (text : List Char) : Option (Nat × List Char) :=
  let digits := text.take width
  if digits.length = width ∧ digits.all Char.isDigit then
    some (Nat.ofDigitChars 10 digits 0, text.drop width)
  else none

theorem length_padded {width n : Nat} (hwidth : 0 < width) (hn : n < 10 ^ width) :
    (padded width n).length = width := by
  have h := (Nat.length_toDigits_le_iff (n := n) (b := 10) (by decide) hwidth).mpr hn
  rw [padded, List.length_append, List.length_replicate]
  omega

theorem isDigit_of_mem_padded {width n : Nat} {c : Char} (h : c ∈ padded width n) :
    c.isDigit = true := by
  rcases List.mem_append.mp h with h | h
  · rw [List.eq_of_mem_replicate h]
    decide
  · exact Nat.isDigit_of_mem_toDigits (by decide) (by decide) h

theorem ofDigitChars_padded (width n : Nat) : Nat.ofDigitChars 10 (padded width n) 0 = n := by
  rw [padded, Nat.ofDigitChars_append, Nat.ofDigitChars_replicate_zero, Nat.mul_zero,
    Nat.ofDigitChars_ten_toDigits]

theorem readPadded_padded {width n : Nat} (hwidth : 0 < width) (hn : n < 10 ^ width)
    (rest : List Char) : readPadded width (padded width n ++ rest) = some (n, rest) := by
  have hlength := length_padded hwidth hn
  have htake : (padded width n ++ rest).take width = padded width n := List.take_left' hlength
  have hdrop : (padded width n ++ rest).drop width = rest := List.drop_left' hlength
  have hdigits : (padded width n).all Char.isDigit = true :=
    List.all_eq_true.mpr fun c hc => isDigit_of_mem_padded hc
  rw [readPadded, htake, hdrop, if_pos ⟨hlength, hdigits⟩, ofDigitChars_padded]

/-! ## The fields of a clock -/

structure Fields where
  date : Date
  hour : Nat
  minute : Nat
  second : Nat
  microsecond : Nat

/-- What `datetime` checks of its arguments. -/
structure Fields.Valid (f : Fields) : Prop where
  date : f.date.Valid
  year : f.date.year ≤ 9999
  hour : f.hour < 24
  minute : f.minute < 60
  second : f.second < 60
  microsecond : f.microsecond < 1000000

instance (f : Fields) : Decidable f.Valid :=
  decidable_of_iff (f.date.Valid ∧ f.date.year ≤ 9999 ∧ f.hour < 24 ∧ f.minute < 60 ∧
    f.second < 60 ∧ f.microsecond < 1000000)
    ⟨fun ⟨h₁, h₂, h₃, h₄, h₅, h₆⟩ => ⟨h₁, h₂, h₃, h₄, h₅, h₆⟩,
      fun ⟨h₁, h₂, h₃, h₄, h₅, h₆⟩ => ⟨h₁, h₂, h₃, h₄, h₅, h₆⟩⟩

def Fields.micros (f : Fields) : Int :=
  ((((ymd2ord f.date - 1) * 24 + f.hour) * 60 + f.minute) * 60 + f.second : Nat) * 1000000 +
    f.microsecond + minMicros

def fields (micros : Int) : Fields :=
  let passed := (micros - minMicros).toNat
  { date := ord2ymd (passed / 86400000000 + 1)
    hour := passed / 3600000000 % 24
    minute := passed / 60000000 % 60
    second := passed / 1000000 % 60
    microsecond := passed % 1000000 }

theorem micros_fields {micros : Int} (h : minMicros ≤ micros) :
    (fields micros).micros = micros := by
  have hpassed : ((micros - minMicros).toNat : Int) = micros - minMicros :=
    Int.toNat_of_nonneg (by omega)
  have hord := (ord2ymd_spec (show 1 ≤ (micros - minMicros).toNat / 86400000000 + 1 by omega)).2
  simp only [Fields.micros, fields, hord]
  omega

theorem year_le_of_ord2ymd {ordinal : Nat} (h : 1 ≤ ordinal) (hmax : ordinal ≤ 3652059) :
    (ord2ymd ordinal).year ≤ 9999 := by
  obtain ⟨hvalid, hord⟩ := ord2ymd_spec h
  have hday := hvalid.day.1
  by_contra hyear
  rw [ymd2ord, daysBeforeYear] at hord
  omega

theorem fields_valid {micros : Int} (h : InRange micros) : (fields micros).Valid := by
  obtain ⟨hmin, hmax⟩ := h
  have hday : (micros - minMicros).toNat / 86400000000 + 1 ≤ 3652059 := by
    simp only [minMicros, maxMicros] at hmin hmax ⊢
    omega
  have hone : 1 ≤ (micros - minMicros).toNat / 86400000000 + 1 := Nat.le_add_left ..
  exact {
    date := (ord2ymd_spec hone).1
    year := year_le_of_ord2ymd hone hday
    hour := Nat.mod_lt _ (by decide)
    minute := Nat.mod_lt _ (by decide)
    second := Nat.mod_lt _ (by decide)
    microsecond := Nat.mod_lt _ (by decide) }

/-! ## Writing and reading -/

def writeDate (d : Date) : List Char :=
  padded 4 d.year ++ '-' :: padded 2 d.month ++ '-' :: padded 2 d.day

def writeTime (f : Fields) : List Char :=
  padded 2 f.hour ++ ':' :: padded 2 f.minute ++ ':' :: padded 2 f.second ++
    '.' :: padded 6 f.microsecond

/-- `isoformat(timespec="microseconds")` without the offset. -/
def isoformat (micros : Int) : List Char :=
  writeDate (fields micros).date ++ 'T' :: writeTime (fields micros)

def readChar (c : Char) : List Char → Option (List Char)
  | [] => none
  | d :: text => if d = c then some text else none

/-- The microseconds of a fraction of a second, if there is one; further digits are dropped. -/
def readFraction : List Char → Nat × List Char
  | '.' :: text =>
    (Nat.ofDigitChars 10 ((text.takeWhile Char.isDigit ++ List.replicate 6 '0').take 6) 0,
      text.dropWhile Char.isDigit)
  | text => (0, text)

/-- The offset from UTC, of less than a day, in microseconds. -/
def readOffset : List Char → Option Int
  | ['Z'] => some 0
  | sign :: text => do
    let (hours, text) ← readPadded 2 text
    let text ← readChar ':' text
    let (minutes, text) ← readPadded 2 text
    guard (text = [] ∧ (sign = '+' ∨ sign = '-') ∧ hours * 60 + minutes < 1440)
    let offset : Int := ((hours * 60 + minutes) * 60000000 : Nat)
    some (if sign = '-' then -offset else offset)
  | [] => none

def readDate (text : List Char) : Option (Date × List Char) := do
  let (year, text) ← readPadded 4 text
  let text ← readChar '-' text
  let (month, text) ← readPadded 2 text
  let text ← readChar '-' text
  let (day, text) ← readPadded 2 text
  some (⟨year, month, day⟩, text)

def readTime (date : Date) (text : List Char) : Option (Fields × List Char) := do
  let (hour, text) ← readPadded 2 text
  let text ← readChar ':' text
  let (minute, text) ← readPadded 2 text
  let text ← readChar ':' text
  let (second, text) ← readPadded 2 text
  let (microsecond, text) := readFraction text
  some (⟨date, hour, minute, second, microsecond⟩, text)

/-- `datetime.fromisoformat` on the extended format of a date, a time of day and an offset: the time
on the clock and its offset. -/
def fromisoformat (text : List Char) : Option (Int × Int) := do
  let (date, text) ← readDate text
  let text ← readChar 'T' text
  let (fields, text) ← readTime date text
  let offset ← readOffset text
  guard fields.Valid
  some (fields.micros, offset)

@[simp]
theorem readChar_cons (c : Char) (text : List Char) : readChar c (c :: text) = some text :=
  if_pos rfl

theorem readFraction_padded {n : Nat} (hn : n < 10 ^ 6) {c : Char} (hc : c.isDigit = false)
    (rest : List Char) : readFraction ('.' :: padded 6 n ++ c :: rest) = (n, c :: rest) := by
  have hdigits : ∀ d ∈ padded 6 n, d.isDigit = true := fun d hd => isDigit_of_mem_padded hd
  have hlength := length_padded (by decide : 0 < 6) hn
  have htake : (padded 6 n ++ List.replicate 6 '0').take 6 = padded 6 n := List.take_left' hlength
  rw [List.cons_append, readFraction, List.takeWhile_append_of_pos hdigits,
    List.dropWhile_append_of_pos hdigits, List.takeWhile_cons_of_neg (by simp [hc]),
    List.dropWhile_cons_of_neg (by simp [hc]), List.append_nil, htake, ofDigitChars_padded]

theorem readDate_writeDate {d : Date} (hvalid : d.Valid) (hyear : d.year ≤ 9999)
    (rest : List Char) : readDate (writeDate d ++ rest) = some (d, rest) := by
  have hdays := daysInMonth_le (isLeap d.year) d.month hvalid.month.2
  obtain ⟨-, hmonth, hday⟩ := hvalid
  have hyear := readPadded_padded (by decide) (show d.year < 10 ^ 4 by omega)
  have hmonth := readPadded_padded (by decide) (show d.month < 10 ^ 2 by omega)
  have hday := readPadded_padded (by decide) (show d.day < 10 ^ 2 by omega)
  simp only [readDate, writeDate, List.append_assoc, List.cons_append, hyear, hmonth, hday,
    readChar_cons, Option.bind_eq_bind, Option.bind_some]

theorem readTime_writeTime {f : Fields} (hvalid : f.Valid) {c : Char} (hc : c.isDigit = false)
    (rest : List Char) : readTime f.date (writeTime f ++ c :: rest) = some (f, c :: rest) := by
  obtain ⟨-, -, hhour, hminute, hsecond, hmicrosecond⟩ := hvalid
  have hhour := readPadded_padded (by decide) (show f.hour < 10 ^ 2 by omega)
  have hminute := readPadded_padded (by decide) (show f.minute < 10 ^ 2 by omega)
  have hsecond := readPadded_padded (by decide) (show f.second < 10 ^ 2 by omega)
  have hfraction := readFraction_padded (show f.microsecond < 10 ^ 6 by omega) hc rest
  rw [List.cons_append] at hfraction
  simp only [readTime, writeTime, List.append_assoc, List.cons_append, hhour, hminute, hsecond,
    hfraction, readChar_cons, Option.bind_eq_bind, Option.bind_some]

/-- **Round trip.** A time that a calendar year from 1 to 9999 holds is read back from its text. -/
theorem fromisoformat_isoformat {micros : Int} (h : InRange micros) :
    fromisoformat (isoformat micros ++ ['Z']) = some (micros, 0) := by
  have hvalid := fields_valid h
  have hdate := readDate_writeDate hvalid.date hvalid.year
  have htime := readTime_writeTime hvalid (show 'Z'.isDigit = false by decide) []
  rw [fromisoformat, isoformat, List.append_assoc, hdate, List.cons_append, Option.bind_eq_bind,
    Option.bind_some]
  simp only [readChar_cons, htime, readOffset, Option.bind_eq_bind, Option.bind_some, guard,
    if_pos hvalid, micros_fields h.1]
  rfl

theorem isoformat_injective {m n : Int} (hm : InRange m) (hn : InRange n)
    (h : isoformat m = isoformat n) : m = n := by
  have hread := fromisoformat_isoformat hm
  rw [h, fromisoformat_isoformat hn] at hread
  exact (Prod.mk.inj (Option.some.inj hread)).1.symm

end Calendar
