import Mathlib.Data.List.Basic

/-!
# Digests as text
-/

namespace Alert2IR

/-- `hexdigest()`. -/
def hexdigest (digest : List UInt8) : List Char :=
  digest.flatMap fun byte => [Nat.digitChar (byte.toNat / 16), Nat.digitChar (byte.toNat % 16)]

/-- `[0-9a-f]`. -/
def isHexDigit (c : Char) : Bool := ('0' ≤ c && c ≤ '9') || ('a' ≤ c && c ≤ 'f')

theorem isHexDigit_digitChar {n : Nat} (h : n < 16) : isHexDigit (Nat.digitChar n) = true := by
  revert h
  revert n
  decide

theorem length_hexdigest (digest : List UInt8) :
    (hexdigest digest).length = 2 * digest.length := by
  induction digest with
  | nil => rfl
  | cons byte digest ih =>
    rw [hexdigest, List.flatMap_cons, List.length_append, ← hexdigest, ih, List.length_cons]
    simp only [List.length_cons, List.length_nil]
    omega

theorem isHexDigit_of_mem_hexdigest {digest : List UInt8} {c : Char} (h : c ∈ hexdigest digest) :
    isHexDigit c = true := by
  obtain ⟨byte, -, hc⟩ := List.mem_flatMap.mp h
  have hbyte := byte.toNat_lt
  simp only [List.mem_cons, List.not_mem_nil, or_false] at hc
  rcases hc with rfl | rfl
  · apply isHexDigit_digitChar
    omega
  · apply isHexDigit_digitChar
    omega

theorem digitChar_inj {m n : Nat} (hm : m < 16) (hn : n < 16)
    (h : Nat.digitChar m = Nat.digitChar n) : m = n := by
  have hall : ∀ m < 16, ∀ n < 16, Nat.digitChar m = Nat.digitChar n → m = n := by decide
  exact hall m hm n hn h

/-- A digest is told by its text. -/
theorem hexdigest_injective : Function.Injective hexdigest := by
  intro digest
  induction digest with
  | nil =>
    intro digest' h
    cases digest' with
    | nil => rfl
    | cons byte' digest' => cases h
  | cons byte digest ih =>
    intro digest' h
    cases digest' with
    | nil => cases h
    | cons byte' digest' =>
      simp only [hexdigest, List.flatMap_cons, List.cons_append, List.nil_append,
        List.cons.injEq] at h
      obtain ⟨hhigh, hlow, htail⟩ := h
      have hbyte := byte.toNat_lt
      have hbyte' := byte'.toNat_lt
      have hdiv := digitChar_inj (by omega) (by omega) hhigh
      have hmod := digitChar_inj (by omega) (by omega) hlow
      have hsame : byte = byte' := UInt8.toNat_inj.mp (by omega)
      rw [hsame, ih htail]

end Alert2IR
