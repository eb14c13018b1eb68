import Mathlib.Tactic.Common
import Mathlib.Tactic.IntervalCases

/-!
# The proleptic Gregorian calendar

Days are counted from 0001-01-01, which is day one. A day has exactly one year, month and day of
the month, and these give the day back.
-/

namespace Calendar

def isLeap (year : Nat) : Bool := year % 4 == 0 && (year % 100 != 0 || year % 400 == 0)

def daysInMonth (leap : Bool) (month : Nat) : Nat :=
  if month = 2 ∧ leap then 29 else [0, 31, 28, 31, 30, 31, 30, 31, 31, 30, 31, 30, 31].getD month 0

theorem daysInMonth_le (leap : Bool) : ∀ month ≤ 12, daysInMonth leap month ≤ 31 := by
  cases leap <;> decide

/-- Days of the year before its given month. -/
def daysBeforeMonth (leap : Bool) (month : Nat) : Nat :=
  [0, 0, 31, 59, 90, 120, 151, 181, 212, 243, 273, 304, 334].getD month 0 +
    if 2 < month ∧ leap then 1 else 0

/-- Days before 1 January of the year. -/
def daysBeforeYear (year : Nat) : Nat :=
  (year - 1) * 365 + (year - 1) / 4 - (year - 1) / 100 + (year - 1) / 400

structure Date where
  year : Nat
  month : Nat
  day : Nat
deriving DecidableEq, Repr

/-- What the calendar has a day for. -/
structure Date.Valid (d : Date) : Prop where
  year : 1 ≤ d.year
  month : 1 ≤ d.month ∧ d.month ≤ 12
  day : 1 ≤ d.day ∧ d.day ≤ daysInMonth (isLeap d.year) d.month

instance (d : Date) : Decidable d.Valid :=
  decidable_of_iff (1 ≤ d.year ∧ (1 ≤ d.month ∧ d.month ≤ 12) ∧
    1 ≤ d.day ∧ d.day ≤ daysInMonth (isLeap d.year) d.month)
    ⟨fun ⟨h₁, h₂, h₃⟩ => ⟨h₁, h₂, h₃⟩, fun ⟨h₁, h₂, h₃⟩ => ⟨h₁, h₂, h₃⟩⟩

def ymd2ord (d : Date) : Nat :=
  daysBeforeYear d.year + daysBeforeMonth (isLeap d.year) d.month + d.day

/-- The month and the day of the month, by the number of days of the year that have passed. -/
def monthAndDay (leap : Bool) (passed : Nat) : Nat × Nat :=
  let month := (passed + 50) / 32
  let preceding := daysBeforeMonth leap month
  if passed < preceding then (month - 1, passed - (preceding - daysInMonth leap (month - 1)) + 1)
  else (month, passed - preceding + 1)

/-- Splits the days that have passed into cycles of 400, 100, 4 and one years. The last day of a
cycle that ends in a leap year falls out of the count of its shorter cycles. -/
def ord2ymd (ordinal : Nat) : Date :=
  let n := ordinal - 1
  let n400 := n / 146097
  let n := n % 146097
  let n100 := n / 36524
  let n := n % 36524
  let n4 := n / 1461
  let n := n % 1461
  let n1 := n / 365
  let n := n % 365
  let year := n400 * 400 + n100 * 100 + n4 * 4 + n1 + 1
  if n1 = 4 ∨ n100 = 4 then ⟨year - 1, 12, 31⟩
  else
    let leap := n1 == 3 && (n4 != 24 || n100 == 3)
    ⟨year, (monthAndDay leap n).1, (monthAndDay leap n).2⟩

/-- The days of one year, month by month. -/
theorem monthAndDay_spec (leap : Bool) : ∀ passed < 365 + leap.toNat,
    (1 ≤ (monthAndDay leap passed).1 ∧ (monthAndDay leap passed).1 ≤ 12) ∧
      (1 ≤ (monthAndDay leap passed).2 ∧
        (monthAndDay leap passed).2 ≤ daysInMonth leap (monthAndDay leap passed).1) ∧
      daysBeforeMonth leap (monthAndDay leap passed).1 + (monthAndDay leap passed).2 =
        passed + 1 := by
  cases leap <;> decide +kernel

/-- A year by its place in the cycles of the calendar. -/
theorem daysBeforeYear_cycles (n400 : Nat) {n100 n4 n1 : Nat} (h100 : n100 ≤ 3) (h4 : n4 ≤ 24)
    (h1 : n1 ≤ 3) : daysBeforeYear (n400 * 400 + n100 * 100 + n4 * 4 + n1 + 1) =
      n400 * 146097 + n100 * 36524 + n4 * 1461 + n1 * 365 := by
  unfold daysBeforeYear
  omega

theorem isLeap_cycles (n400 : Nat) {n100 n4 n1 : Nat} (h100 : n100 ≤ 3) (h4 : n4 ≤ 24)
    (h1 : n1 ≤ 3) :
    isLeap (n400 * 400 + n100 * 100 + n4 * 4 + n1 + 1) =
      (n1 == 3 && (n4 != 24 || n100 == 3)) := by
  rw [Bool.eq_iff_iff]
  simp only [isLeap, Bool.and_eq_true, Bool.or_eq_true, beq_iff_eq, bne_iff_ne]
  omega

/-- The last day of a leap year, by its place in the cycles. -/
theorem last_of_leap (n400 : Nat) {n100 n4 : Nat} (h100 : n100 ≤ 3) (h4 : n4 ≤ 24)
    (hleap : n4 ≠ 24 ∨ n100 = 3) :
    let year := n400 * 400 + n100 * 100 + n4 * 4 + 3 + 1
    (Date.mk year 12 31).Valid ∧ ymd2ord ⟨year, 12, 31⟩ =
      n400 * 146097 + n100 * 36524 + n4 * 1461 + 3 * 365 + 366 := by
  intro year
  have hyear : isLeap year = true := by
    have h := isLeap_cycles n400 h100 h4 (le_refl 3)
    rw [h]
    simpa using hleap
  constructor
  · exact ⟨Nat.le_add_left .., by simp, by simp [daysInMonth, hyear]⟩
  · have hbefore := daysBeforeYear_cycles n400 h100 h4 (le_refl 3)
    have hmonth : daysBeforeMonth true 12 = 335 := by decide
    rw [ymd2ord, hyear, hbefore, hmonth]
    show _ + 335 + 31 = _
    omega

/-- Every day has a date, and the date gives the day back. -/
theorem ord2ymd_spec {ordinal : Nat} (h : 1 ≤ ordinal) :
    (ord2ymd ordinal).Valid ∧ ymd2ord (ord2ymd ordinal) = ordinal := by
  unfold ord2ymd
  extract_lets n n400 m n100 m' n4 m'' n1 passed year leap
  have h4 : n4 ≤ 24 := by omega
  by_cases h100 : n100 = 4
  · -- the last day of 400 years
    have hyear : year - 1 = n400 * 400 + 3 * 100 + 24 * 4 + 3 + 1 := by omega
    obtain ⟨hvalid, hord⟩ := last_of_leap n400 (le_refl 3) (le_refl 24) (.inr rfl)
    rw [if_pos (.inr h100), hyear]
    exact ⟨hvalid, by rw [hord]; omega⟩
  by_cases h1 : n1 = 4
  · -- the last day of four years
    have hyear : year - 1 = n400 * 400 + n100 * 100 + n4 * 4 + 3 + 1 := by omega
    obtain ⟨hvalid, hord⟩ := last_of_leap n400 (show n100 ≤ 3 by omega) h4 (by omega)
    rw [if_pos (.inl h1), hyear]
    exact ⟨hvalid, by rw [hord]; omega⟩
  have hleap : isLeap year = leap := isLeap_cycles n400 (by omega) h4 (by omega)
  have hpassed : passed < 365 + leap.toNat := by omega
  obtain ⟨hmonth, hday, hord⟩ := monthAndDay_spec leap passed hpassed
  rw [if_neg (not_or.mpr ⟨h1, h100⟩)]
  constructor
  · exact ⟨Nat.le_add_left .., hmonth, by rw [hleap]; exact hday⟩
  · have hbefore := daysBeforeYear_cycles n400 (show n100 ≤ 3 by omega) h4 (show n1 ≤ 3 by omega)
    simp only [ymd2ord, hleap]
    rw [Nat.add_assoc, hord, hbefore]
    omega

end Calendar
