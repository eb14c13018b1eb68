import Alert2IR.Core.Text
import Mathlib.Data.Char
import Mathlib.Data.List.Lex
import Mathlib.Tactic.Ring

/-!
# UUIDs as text

`str(uuid)` writes one text for a UUID, `UUID(text)` reads many.
-/

namespace Alert2IR

/-- The hexadecimal digits of the last `n` half-bytes, with the hyphens between them. -/
def uuidDigits : Nat → Nat → List Char
  | 0, _ => []
  | n + 1, value =>
      (if n + 1 = 24 ∨ n + 1 = 20 ∨ n + 1 = 16 ∨ n + 1 = 12 then ['-'] else [])
        ++ Nat.digitChar (value / 16 ^ n % 16) :: uuidDigits n value

/-- `str(uuid)`. -/
def uuidString (id : UUID) : List Char := uuidDigits 32 id.toNat

/-- `str(uuid)`, as a string. -/
def uuidText (id : UUID) : String := String.ofList (uuidString id)

def hexDigitValue (c : Char) : Option Nat :=
  if '0' ≤ c ∧ c ≤ '9' then some (c.toNat - 48)
  else if 'a' ≤ c ∧ c ≤ 'f' then some (c.toNat - 87)
  else if 'A' ≤ c ∧ c ≤ 'F' then some (c.toNat - 55)
  else none

/-- Digits up to the end, after digits of value `acc`. A single underscore may stand before each. -/
def readHexDigits : (acc : Nat) → List Char → Option Nat
  | acc, [] => some acc
  | acc, '_' :: c :: rest => hexDigitValue c >>= fun d => readHexDigits (16 * acc + d) rest
  | acc, c :: rest => hexDigitValue c >>= fun d => readHexDigits (16 * acc + d) rest

def readHex : List Char → Option Nat
  | [] => none
  | c :: rest => hexDigitValue c >>= fun d => readHexDigits d rest

/-- A number without a sign: a base prefix may precede the digits, and an underscore follow it. -/
def readUnsignedHex : List Char → Option Nat
  | '0' :: x :: rest =>
    if x = 'x' ∨ x = 'X' then
      match rest with
      | '_' :: rest => readHex rest
      | rest => readHex rest
    else readHex ('0' :: x :: rest)
  | text => readHex text

/-- The ASCII character `int` reads a character as; it reads no number out of `?`. -/
def toAscii (unicode : Unicode) (c : Char) : Char :=
  if c.toNat < 127 then c
  else if isPyWhitespace c then ' '
  else match unicode.decimal c with
    | some d => Nat.digitChar d.val
    | none => '?'

/-- The blanks `int` skips around a number. -/
def isAsciiBlank (c : Char) : Bool := (9 ≤ c.toNat && c.toNat ≤ 13) || c.toNat == 32

/-- `int(text, 16)`. -/
def intBase16 (unicode : Unicode) (text : List Char) : Option Int :=
  match stripOf isAsciiBlank (text.map (toAscii unicode)) with
  | '+' :: rest => (readUnsignedHex rest).map Int.ofNat
  | '-' :: rest => (readUnsignedHex rest).map fun n => -Int.ofNat n
  | rest => (readUnsignedHex rest).map Int.ofNat

/-- `UUID(text)`, or nothing where it raises `ValueError`. -/
def uuidOfText (unicode : Unicode) (text : String) : Option UUID :=
  let named := remove "uuid:".toList 0 (remove "urn:".toList 0 text.toList)
  let hex := (stripOf (fun c => c = '\x7b' || c = '\x7d') named).filter (· ≠ '-')
  if hex.length = 32 then
    match intBase16 unicode hex with
    | some n => if 0 ≤ n ∧ n < 2 ^ 128 then some (BitVec.ofInt 128 n) else none
    | none => none
  else none

/-! ## The text of a UUID is read back -/

/-- The digits without the hyphens. -/
def hexDigits : Nat → Nat → List Char
  | 0, _ => []
  | n + 1, value => Nat.digitChar (value / 16 ^ n % 16) :: hexDigits n value

theorem length_hexDigits (n value : Nat) : (hexDigits n value).length = n := by
  induction n with
  | zero => rfl
  | succ n ih => rw [hexDigits, List.length_cons, ih]

/-- The digits of a UUID are all of these. -/
def lowerHex : List Char := "0123456789abcdef".toList

theorem digitChar_mem_lowerHex : ∀ d < 16, Nat.digitChar d ∈ lowerHex := by decide

theorem hexDigitValue_digitChar : ∀ d < 16, hexDigitValue (Nat.digitChar d) = some d := by decide

theorem mem_hexDigits {n value : Nat} {c : Char} (h : c ∈ hexDigits n value) : c ∈ lowerHex := by
  induction n with
  | zero => cases h
  | succ n ih =>
    rcases List.mem_cons.mp h with rfl | h
    · exact digitChar_mem_lowerHex _ (Nat.mod_lt _ (by decide))
    · exact ih h

theorem mem_uuidDigits {n value : Nat} {c : Char} (h : c ∈ uuidDigits n value) :
    c = '-' ∨ c ∈ lowerHex := by
  induction n with
  | zero => cases h
  | succ n ih =>
    rw [uuidDigits, List.mem_append, List.mem_cons] at h
    rcases h with h | rfl | h
    · left
      split at h
      · exact List.mem_singleton.mp h
      · cases h
    · exact .inr (digitChar_mem_lowerHex _ (Nat.mod_lt _ (by decide)))
    · exact ih h

theorem filter_uuidDigits (n value : Nat) :
    (uuidDigits n value).filter (· ≠ '-') = hexDigits n value := by
  induction n with
  | zero => rfl
  | succ n ih =>
    have hdigit : Nat.digitChar (value / 16 ^ n % 16) ≠ '-' := by
      have hmem := digitChar_mem_lowerHex _ (Nat.mod_lt (value / 16 ^ n) (show 16 > 0 by decide))
      rintro heq
      rw [heq] at hmem
      exact absurd hmem (by decide)
    rw [uuidDigits, List.filter_append, List.filter_cons_of_pos (by simp [hdigit]), ih,
      hexDigits]
    split <;> rfl

theorem readHexDigits_hexDigits (acc n value : Nat) :
    readHexDigits acc (hexDigits n value) = some (16 ^ n * acc + value % 16 ^ n) := by
  induction n generalizing acc with
  | zero =>
    rw [hexDigits, readHexDigits, Nat.pow_zero, Nat.one_mul, Nat.mod_one, Nat.add_zero]
  | succ n ih =>
    have hlt : value / 16 ^ n % 16 < 16 := Nat.mod_lt _ (by decide)
    have hvalue := hexDigitValue_digitChar _ hlt
    have hunderscore : Nat.digitChar (value / 16 ^ n % 16) ≠ '_' := by
      intro heq
      rw [heq] at hvalue
      cases hvalue
    have hsplit : value % 16 ^ (n + 1) =
        16 ^ n * (value / 16 ^ n % 16) + value % 16 ^ n := by
      rw [Nat.pow_succ, Nat.mod_mul, Nat.add_comm]
    rw [hexDigits, readHexDigits, hvalue, Option.bind_eq_bind, Option.bind_some, ih, hsplit,
      Nat.pow_succ]
    · congr 1
      ring
    · intro c rest heq
      exact absurd heq hunderscore

theorem readHex_hexDigits {n value : Nat} (hn : 0 < n) :
    readHex (hexDigits n value) = some (value % 16 ^ n) := by
  obtain ⟨n, rfl⟩ := Nat.exists_eq_succ_of_ne_zero hn.ne'
  have hvalue := hexDigitValue_digitChar _ (Nat.mod_lt (value / 16 ^ n) (show 16 > 0 by decide))
  rw [hexDigits, readHex, hvalue, Option.bind_eq_bind, Option.bind_some, readHexDigits_hexDigits,
    Nat.succ_eq_add_one, Nat.pow_succ, Nat.mod_mul, Nat.add_comm]

theorem readUnsignedHex_of_lowerHex {text : List Char} (h : ∀ c ∈ text, c ∈ lowerHex) :
    readUnsignedHex text = readHex text := by
  unfold readUnsignedHex
  split
  · next x rest =>
    have hx := h x (by simp)
    have hne : ¬(x = 'x' ∨ x = 'X') := by
      rintro (rfl | rfl) <;> exact absurd hx (by decide)
    rw [if_neg hne]
  · rfl

theorem intBase16_of_lowerHex (unicode : Unicode) {text : List Char}
    (h : ∀ c ∈ text, c ∈ lowerHex) : intBase16 unicode text = (readHex text).map Int.ofNat := by
  have hascii : text.map (toAscii unicode) = text := by
    have hsmall : ∀ c ∈ lowerHex, decide (c.toNat < 127) = true := List.all_eq_true.mp (by decide)
    have hself : ∀ c ∈ text, toAscii unicode c = id c :=
      fun c hc => if_pos (of_decide_eq_true (hsmall c (h c hc)))
    rw [List.map_congr_left hself, List.map_id]
  have hstrip : stripOf isAsciiBlank text = text := by
    apply stripOf_eq_self_of_forall
    intro c hc
    have hvisible : ∀ c ∈ lowerHex, (!isAsciiBlank c) = true := List.all_eq_true.mp (by decide)
    simpa using hvisible c (h c hc)
  rw [intBase16, hascii, hstrip]
  split
  · exact absurd (h '+' (by simp)) (by decide)
  · exact absurd (h '-' (by simp)) (by decide)
  · rw [readUnsignedHex_of_lowerHex h]

@[simp]
theorem uuidOfText_uuidText (unicode : Unicode) (id : UUID) :
    uuidOfText unicode (uuidText id) = some id := by
  have hmem : ∀ c ∈ uuidString id, c = '-' ∨ c ∈ lowerHex := fun c hc => mem_uuidDigits hc
  have hnotMem : ∀ c, c ≠ '-' → c ∉ lowerHex → c ∉ uuidString id := by
    intro c hhyphen hdigit hc
    rcases hmem c hc with h | h
    · exact hhyphen h
    · exact hdigit h
  have hurn : remove "urn:".toList 0 (uuidString id) = uuidString id :=
    remove_eq_self (hnotMem 'u' (by decide) (by decide))
  have huuid : remove "uuid:".toList 0 (uuidString id) = uuidString id :=
    remove_eq_self (hnotMem 'u' (by decide) (by decide))
  have hbraces : stripOf (fun c => c = '\x7b' || c = '\x7d') (uuidString id) = uuidString id := by
    apply stripOf_eq_self_of_forall
    intro c hc
    rcases hmem c hc with rfl | h
    · decide
    · have hbrace : ∀ c ∈ lowerHex, (!(decide (c = '\x7b') || decide (c = '\x7d'))) = true :=
        List.all_eq_true.mp (by decide)
      simpa using hbrace c h
  have hint : intBase16 unicode (hexDigits 32 id.toNat) = some (id.toNat : Int) := by
    have hlt : id.toNat < 16 ^ 32 := lt_of_lt_of_le id.isLt (by decide)
    rw [intBase16_of_lowerHex unicode fun c hc => mem_hexDigits hc, readHex_hexDigits (by decide),
      Nat.mod_eq_of_lt hlt]
    rfl
  have hbound : (id.toNat : Int) < 2 ^ 128 := by exact_mod_cast id.isLt
  have htext : (uuidText id).toList = uuidString id := String.toList_ofList
  rw [uuidOfText, htext, hurn, huuid, hbraces, uuidString, filter_uuidDigits,
    if_pos (length_hexDigits _ _), hint]
  exact (if_pos ⟨by omega, hbound⟩).trans (by
    rw [BitVec.ofInt_natCast, BitVec.ofNat_toNat, BitVec.setWidth_eq])

theorem uuidText_injective : Function.Injective uuidText := by
  intro id other h
  apply Option.some.inj
  rw [← uuidOfText_uuidText Unicode.ascii id, h, uuidOfText_uuidText]

/-! ## The order of the texts -/

theorem digitChar_lt_iff : ∀ a < 16, ∀ b < 16,
    (Nat.digitChar a < Nat.digitChar b ↔ a < b) ∧ (Nat.digitChar a = Nat.digitChar b ↔ a = b) := by
  decide

theorem lt_of_leading {p x y d e : Nat} (hx : x < p) (hy : y < p) :
    x + p * d < y + p * e ↔ d < e ∨ d = e ∧ x < y := by
  rcases Nat.lt_trichotomy d e with h | rfl | h
  · have hmul : p * (d + 1) ≤ p * e := Nat.mul_le_mul_left p h
    rw [Nat.mul_add, Nat.mul_one] at hmul
    constructor <;> omega
  · omega
  · have hmul : p * (e + 1) ≤ p * d := Nat.mul_le_mul_left p h
    rw [Nat.mul_add, Nat.mul_one] at hmul
    constructor <;> omega

/-- Texts of one length are ordered as their values are. -/
theorem uuidDigits_lt_iff (n a b : Nat) :
    uuidDigits n a < uuidDigits n b ↔ a % 16 ^ n < b % 16 ^ n := by
  induction n with
  | zero => simp [uuidDigits, Nat.mod_one]
  | succ n ih =>
      have hcancel : ∀ (l x y : List Char), l ++ x < l ++ y ↔ x < y := by
        intro l x y
        induction l with
        | nil => rfl
        | cons c l ihl => simp [ihl]
      have hpos : 0 < 16 ^ n := Nat.pow_pos (by decide)
      obtain ⟨hlt, heq⟩ := digitChar_lt_iff _ (Nat.mod_lt (a / 16 ^ n) (show 16 > 0 by decide)) _
        (Nat.mod_lt (b / 16 ^ n) (show 16 > 0 by decide))
      rw [uuidDigits, uuidDigits, hcancel, List.cons_lt_cons_iff, ih, hlt, heq, Nat.mod_pow_succ,
        Nat.mod_pow_succ, lt_of_leading (Nat.mod_lt _ hpos) (Nat.mod_lt _ hpos)]

/-- `str` keeps the order of UUIDs. -/
theorem uuidString_le_iff (i j : UUID) : uuidString i ≤ uuidString j ↔ i ≤ j := by
  have hmod : ∀ k : UUID, k.toNat % 16 ^ 32 = k.toNat := fun k => Nat.mod_eq_of_lt k.isLt
  rw [← not_lt, uuidString, uuidString, uuidDigits_lt_iff, hmod, hmod, not_lt, BitVec.le_def]

end Alert2IR
