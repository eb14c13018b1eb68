import Mathlib.Algebra.Order.Round
import Mathlib.Data.Int.Log
import Mathlib.Data.Rat.Floor
import Mathlib.Tactic.Linarith
import Mathlib.Tactic.Positivity

/-!
# Rounding to a number of significant digits

A number with `p` digits in base `b` is a whole number of units in its last place. Rounding takes
the nearest of them, and of two that are equally near the even one. A floor taken after rounding
differs from the floor of the number itself exactly if the number is so close to the next integer
that it is rounded up to it.
-/

namespace Numeric

/-- The nearest integer, and of two the even one. -/
def nearestEven (q : ℚ) : ℤ :=
  if 2 * (q - ⌊q⌋) < 1 ∨ 2 * (q - ⌊q⌋) = 1 ∧ ⌊q⌋ % 2 = 0 then ⌊q⌋ else ⌊q⌋ + 1

/-- The unit in the last of `p` significant digits. -/
def unitInLastPlace (b p : ℕ) (q : ℚ) : ℚ := (b : ℚ) ^ (Int.log b |q| - (p - 1))

/-- The number with `p` significant digits in base `b` that is nearest. -/
def toPrecision (b p : ℕ) (q : ℚ) : ℚ :=
  nearestEven (q / unitInLastPlace b p q) * unitInLastPlace b p q

section Nearest

variable {q : ℚ} {n : ℤ}

theorem floor_le_nearestEven (q : ℚ) : ⌊q⌋ ≤ nearestEven q := by
  unfold nearestEven
  split <;> omega

theorem nearestEven_le_floor_add_one (q : ℚ) : nearestEven q ≤ ⌊q⌋ + 1 := by
  unfold nearestEven
  split <;> omega

/-- Rounding does not pass an integer from below. -/
theorem le_nearestEven (h : (n : ℚ) ≤ q) : n ≤ nearestEven q :=
  (Int.le_floor.mpr h).trans (floor_le_nearestEven q)

@[simp]
theorem nearestEven_intCast (n : ℤ) : nearestEven n = n := by
  rw [nearestEven, Int.floor_intCast, sub_self, mul_zero, if_pos (.inl one_pos)]

/-- Rounding passes no integer above. -/
theorem nearestEven_le (h : q ≤ n) : nearestEven q ≤ n := by
  rcases h.eq_or_lt with rfl | hlt
  · exact (nearestEven_intCast n).le
  · have hfloor : ⌊q⌋ < n := Int.floor_lt.mpr hlt
    have hnext := nearestEven_le_floor_add_one q
    omega

/-- A number is rounded up to an even integer if it is within one half of it. -/
theorem nearestEven_eq_iff_of_even (heven : n % 2 = 0) (h : q < n) :
    nearestEven q = n ↔ 2 * (n - q) ≤ 1 := by
  have hfloor : ⌊q⌋ + 1 ≤ n := Int.floor_lt.mpr h
  rcases hfloor.eq_or_lt with heq | hlt
  · have hodd : ¬ ⌊q⌋ % 2 = 0 := by omega
    have hcast : (n : ℚ) = ⌊q⌋ + 1 := by exact_mod_cast heq.symm
    have hhalf : 2 * ((n : ℚ) - q) ≤ 1 ↔ ¬ 2 * (q - ⌊q⌋) < 1 := by
      rw [hcast, not_lt]
      constructor <;> intro hle <;> linarith
    rw [nearestEven, hhalf]
    by_cases hbelow : 2 * (q - ⌊q⌋) < 1
    · rw [if_pos (.inl hbelow)]
      exact iff_of_false (by omega) (not_not.mpr hbelow)
    · rw [if_neg (not_or.mpr ⟨hbelow, fun htie => hodd htie.2⟩)]
      exact iff_of_true heq hbelow
  · have hnext := nearestEven_le_floor_add_one q
    have hcast : (⌊q⌋ : ℚ) + 1 + 1 ≤ n := by exact_mod_cast hlt
    have hq := Int.lt_floor_add_one q
    refine iff_of_false (by omega) ?_
    rw [not_le]
    linarith

end Nearest

section Precision

variable {b p : ℕ} {q : ℚ}

theorem unitInLastPlace_pos (hb : 1 < b) (p : ℕ) (q : ℚ) : 0 < unitInLastPlace b p q := by
  have hpos : (0 : ℚ) < b := by exact_mod_cast (by omega : 0 < b)
  exact zpow_pos hpos _

/-- The last of `p` digits of a small number stands behind the point, where a whole number of units
makes one. -/
theorem exists_units {m : ℕ} (hb : 1 < b) (hp : 1 < p) (hq : |q| < (b : ℚ) ^ m) (hm : m < p) :
    ∃ k, 0 < k ∧ ((b ^ k : ℕ) : ℚ) * unitInLastPlace b p q = 1 := by
  have hpos : (b : ℚ) ≠ 0 := by exact_mod_cast (by omega : b ≠ 0)
  have hlog : Int.log b |q| < p - 1 := by
    by_cases hzero : q = 0
    · subst hzero
      rw [abs_zero, Int.log_zero_right]
      omega
    · have hlt : Int.log b |q| < m := by
        rw [← Int.lt_zpow_iff_log_lt hb (abs_pos.mpr hzero)]
        exact_mod_cast hq
      omega
  obtain ⟨k, hk⟩ := Int.eq_ofNat_of_zero_le (by omega : 0 ≤ p - 1 - Int.log b |q|)
  have hexponent : Int.log b |q| - (p - 1) = -k := by omega
  refine ⟨k, by omega, ?_⟩
  rw [unitInLastPlace, hexponent, zpow_neg, zpow_natCast, Nat.cast_pow]
  exact mul_inv_cancel₀ (pow_ne_zero k hpos)

theorem unitInLastPlace_le_one {m : ℕ} (hb : 1 < b) (hp : 1 < p) (hq : |q| < (b : ℚ) ^ m)
    (hm : m < p) : unitInLastPlace b p q ≤ 1 := by
  obtain ⟨k, -, hunits⟩ := exists_units hb hp hq hm
  have hunit := unitInLastPlace_pos hb p q
  have hone : (1 : ℚ) ≤ (b ^ k : ℕ) := by exact_mod_cast Nat.one_le_pow _ _ (by omega)
  calc unitInLastPlace b p q = 1 * unitInLastPlace b p q := (one_mul _).symm
    _ ≤ (b ^ k : ℕ) * unitInLastPlace b p q := by gcongr
    _ = 1 := hunits

/-- **Flooring after rounding.** In an even base, the floor of a rounded number is that of the
number itself exactly if the next integer is more than half a unit away. -/
theorem floor_toPrecision_iff {m : ℕ} (hb : 1 < b) (heven : b % 2 = 0) (hp : 1 < p)
    (hq : |q| < (b : ℚ) ^ m) (hm : m < p) :
    ⌊toPrecision b p q⌋ = ⌊q⌋ ↔ unitInLastPlace b p q < 2 * (⌊q⌋ + 1 - q) := by
  obtain ⟨k, hk, hunits⟩ := exists_units hb hp hq hm
  have hunit := unitInLastPlace_pos hb p q
  rw [toPrecision]
  generalize unitInLastPlace b p q = u at hunits hunit
  have hpos : (0 : ℚ) < (b ^ k : ℕ) := by exact_mod_cast Nat.pow_pos (by omega : 0 < b)
  have hscale : q / u = q * (b ^ k : ℕ) := by
    rw [div_eq_iff hunit.ne', mul_assoc, hunits, mul_one]
  have hback : ∀ n : ℤ, (n : ℚ) = n * u * (b ^ k : ℕ) := by
    intro n
    rw [mul_assoc, mul_comm u, hunits, mul_one]
  have hmultiple : ((⌊q⌋ + 1) * (b ^ k : ℕ)) % 2 = 0 := by
    have hdvd : 2 ∣ b ^ k := dvd_pow (Nat.dvd_of_mod_eq_zero heven) hk.ne'
    exact Int.emod_eq_zero_of_dvd ((Int.natCast_dvd_natCast.mpr hdvd).mul_left _)
  have habove : q / u < ((⌊q⌋ + 1) * (b ^ k : ℕ) : ℤ) := by
    rw [hscale]
    push_cast
    have hfloor := Int.lt_floor_add_one q
    push_cast at hpos
    gcongr
  have hbelow : ((⌊q⌋ * (b ^ k : ℕ) : ℤ) : ℚ) ≤ q / u := by
    rw [hscale]
    push_cast
    have hfloor := Int.floor_le q
    gcongr
  have hle := nearestEven_le habove.le
  have hge := le_nearestEven hbelow
  have hmeets := nearestEven_eq_iff_of_even hmultiple habove
  generalize nearestEven (q / u) = n at hle hge hmeets
  have hlower : (⌊q⌋ : ℚ) ≤ n * u := by
    rw [← mul_le_mul_iff_left₀ hpos, ← hback]
    exact_mod_cast hge
  have hupper : n * u < ⌊q⌋ + 1 ↔ n < (⌊q⌋ + 1) * (b ^ k : ℕ) := by
    rw [← mul_lt_mul_iff_left₀ hpos, ← hback]
    exact_mod_cast Iff.rfl
  have hdistance : 2 * ((((⌊q⌋ + 1) * (b ^ k : ℕ) : ℤ) : ℚ) - q / u) ≤ 1 ↔
      2 * (⌊q⌋ + 1 - q) ≤ u := by
    have hright : 2 * (⌊q⌋ + 1 - q) ≤ u ↔ 2 * (⌊q⌋ + 1 - q) * (b ^ k : ℕ) ≤ 1 := by
      rw [← mul_le_mul_iff_left₀ hpos, mul_comm u, hunits]
    rw [hright, hscale, Int.cast_mul, Int.cast_add, Int.cast_one, Int.cast_natCast]
    constructor <;> intro hle <;> linarith
  rw [Int.floor_eq_iff, and_iff_right hlower, hupper, lt_iff_not_ge, lt_iff_not_ge, ← hdistance,
    ← hmeets]
  omega

end Precision

end Numeric
