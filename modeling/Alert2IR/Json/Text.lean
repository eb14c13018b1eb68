import Alert2IR.Json.Value
import Mathlib.Tactic.Common

/-!
# JSON text

The compact text of a document, with every character but the control characters, the quotation mark
and the backslash written as itself, and a reader that undoes it. The reader knows where a value
ends from the text alone, so no two documents share a text.
-/

namespace Json

/-! ## Writing -/

/-- The last digits of an escape; only values below sixteen are asked for. -/
def hexDigit (n : Nat) : Char := "0123456789abcdef".toList.getD n '0'

def escape (c : Char) : List Char :=
  if c = '"' then ['\\', '"']
  else if c = '\\' then ['\\', '\\']
  else if c = '\n' then ['\\', 'n']
  else if c = '\r' then ['\\', 'r']
  else if c = '\t' then ['\\', 't']
  else if c.toNat = 0x0c then ['\\', 'f']
  else if c.toNat = 0x08 then ['\\', 'b']
  else if c.toNat < 0x20 then
    ['\\', 'u', '0', '0', hexDigit (c.toNat / 16), hexDigit (c.toNat % 16)]
  else [c]

def quoted (s : String) : List Char := '"' :: s.toList.flatMap escape ++ ['"']

def number : Int → List Char
  | .ofNat n => Nat.toDigits 10 n
  | .negSucc n => '-' :: Nat.toDigits 10 (n + 1)

mutual

def write : Json → List Char
  | null => ['n', 'u', 'l', 'l']
  | bool true => ['t', 'r', 'u', 'e']
  | bool false => ['f', 'a', 'l', 's', 'e']
  | num n => number n
  | str s => quoted s
  | arr [] => ['[', ']']
  | arr (item :: items) => '[' :: item.write ++ writeItems items
  | obj [] => ['{', '}']
  | obj ((key, value) :: members) =>
    '{' :: quoted key ++ ':' :: value.write ++ writeMembers members

/-- What follows an item of an array. -/
def writeItems : List Json → List Char
  | [] => [']']
  | item :: items => ',' :: item.write ++ writeItems items

/-- What follows a member of an object. -/
def writeMembers : List (String × Json) → List Char
  | [] => ['}']
  | (key, value) :: members => ',' :: quoted key ++ ':' :: value.write ++ writeMembers members

end

/-! ## Reading

A reader takes what it reads off the front of the text and hands over the rest.
-/

def hexValue (c : Char) : Nat := "0123456789abcdef".toList.idxOf c

/-- The characters up to the closing quotation mark. -/
def readChars : List Char → Option (List Char × List Char)
  | '"' :: rest => some ([], rest)
  | '\\' :: 'u' :: _ :: _ :: d :: e :: rest =>
    (readChars rest).map fun r => (Char.ofNat (16 * hexValue d + hexValue e) :: r.1, r.2)
  | '\\' :: 'n' :: rest => (readChars rest).map fun r => ('\n' :: r.1, r.2)
  | '\\' :: 'r' :: rest => (readChars rest).map fun r => ('\r' :: r.1, r.2)
  | '\\' :: 't' :: rest => (readChars rest).map fun r => ('\t' :: r.1, r.2)
  | '\\' :: 'f' :: rest => (readChars rest).map fun r => (Char.ofNat 0x0c :: r.1, r.2)
  | '\\' :: 'b' :: rest => (readChars rest).map fun r => (Char.ofNat 0x08 :: r.1, r.2)
  | '\\' :: c :: rest => (readChars rest).map fun r => (c :: r.1, r.2)
  | c :: rest => (readChars rest).map fun r => (c :: r.1, r.2)
  | [] => none

def readString : List Char → Option (String × List Char)
  | '"' :: rest => (readChars rest).map fun r => (String.ofList r.1, r.2)
  | _ => none

def readNat (text : List Char) : Nat × List Char :=
  (Nat.ofDigitChars 10 (text.takeWhile Char.isDigit) 0, text.dropWhile Char.isDigit)

mutual

/-- Reads one value; `fuel` bounds the recursion. -/
def readValue : (fuel : Nat) → List Char → Option (Json × List Char)
  | 0, _ => none
  | fuel + 1, text =>
    match text with
    | 'n' :: 'u' :: 'l' :: 'l' :: rest => some (null, rest)
    | 't' :: 'r' :: 'u' :: 'e' :: rest => some (bool true, rest)
    | 'f' :: 'a' :: 'l' :: 's' :: 'e' :: rest => some (bool false, rest)
    | '"' :: _ => (readString text).map fun r => (str r.1, r.2)
    | '[' :: ']' :: rest => some (arr [], rest)
    | '[' :: rest => (readItems fuel rest).map fun r => (arr r.1, r.2)
    | '{' :: '}' :: rest => some (obj [], rest)
    | '{' :: rest => (readMembers fuel rest).map fun r => (obj r.1, r.2)
    | '-' :: rest => some (num (-(readNat rest).1), (readNat rest).2)
    | c :: _ => if c.isDigit then some (num (readNat text).1, (readNat text).2) else none
    | [] => none

def readItems : (fuel : Nat) → List Char → Option (List Json × List Char)
  | 0, _ => none
  | fuel + 1, text =>
    match readValue fuel text with
    | some (item, ']' :: rest) => some ([item], rest)
    | some (item, ',' :: rest) => (readItems fuel rest).map fun r => (item :: r.1, r.2)
    | _ => none

def readMembers : (fuel : Nat) → List Char → Option (List (String × Json) × List Char)
  | 0, _ => none
  | fuel + 1, text =>
    match readString text with
    | some (key, ':' :: rest) =>
      match readValue fuel rest with
      | some (value, '}' :: rest) => some ([(key, value)], rest)
      | some (value, ',' :: rest) => (readMembers fuel rest).map fun r => ((key, value) :: r.1, r.2)
      | _ => none
    | _ => none

end

/-- Reads a whole text. Every token takes a character, so the length of the text is fuel enough. -/
def read (text : List Char) : Option Json :=
  match readValue (text.length + 1) text with
  | some (value, []) => some value
  | _ => none

/-! ## The reader undoes the writer -/

theorem hexValue_hexDigit : ∀ d < 16, hexValue (hexDigit d) = d := by decide

theorem readChars_plain {c : Char} (hquote : c ≠ '"') (hslash : c ≠ '\\') (rest : List Char) :
    readChars (c :: rest) = (readChars rest).map fun r => (c :: r.1, r.2) := by
  rw [readChars.eq_def]
  split <;> simp_all

theorem readChars_escape (c : Char) (rest : List Char) :
    readChars (escape c ++ rest) = (readChars rest).map fun r => (c :: r.1, r.2) := by
  unfold escape
  by_cases hquote : c = '"'
  · subst hquote; rfl
  by_cases hslash : c = '\\'
  · subst hslash; rfl
  by_cases hline : c = '\n'
  · subst hline; rfl
  by_cases hreturn : c = '\r'
  · subst hreturn; rfl
  by_cases htab : c = '\t'
  · subst htab; rfl
  by_cases hfeed : c.toNat = 0x0c
  · obtain rfl : c = Char.ofNat 0x0c := by rw [← hfeed, Char.ofNat_toNat]
    rfl
  by_cases hback : c.toNat = 0x08
  · obtain rfl : c = Char.ofNat 0x08 := by rw [← hback, Char.ofNat_toNat]
    rfl
  by_cases hcontrol : c.toNat < 0x20
  · have hhigh : hexValue (hexDigit (c.toNat / 16)) = c.toNat / 16 :=
      hexValue_hexDigit _ (by omega)
    have hlow : hexValue (hexDigit (c.toNat % 16)) = c.toNat % 16 :=
      hexValue_hexDigit _ (by omega)
    have hchar : Char.ofNat (16 * (c.toNat / 16) + c.toNat % 16) = c := by
      rw [Nat.div_add_mod, Char.ofNat_toNat]
    simp only [hquote, hslash, hline, hreturn, htab, hfeed, hback, hcontrol, if_true, if_false,
      List.cons_append, List.nil_append, readChars, hhigh, hlow, hchar]
  · simp only [hquote, hslash, hline, hreturn, htab, hfeed, hback, hcontrol, if_false,
      List.cons_append, List.nil_append]
    exact readChars_plain hquote hslash rest

theorem readChars_escaped (cs rest : List Char) :
    readChars (cs.flatMap escape ++ '"' :: rest) = some (cs, rest) := by
  induction cs with
  | nil => rfl
  | cons c cs ih =>
    rw [List.flatMap_cons, List.append_assoc, readChars_escape, ih]
    rfl

@[simp]
theorem readString_quoted (s : String) (rest : List Char) :
    readString (quoted s ++ rest) = some (s, rest) := by
  have h := readChars_escaped s.toList rest
  simp [readString, quoted, h]

/-- No digit stands first: where a number would end. -/
def NoDigit (text : List Char) : Prop := ∀ c rest, text = c :: rest → c.isDigit = false

theorem noDigit_nil : NoDigit [] := nofun

theorem noDigit_cons {c : Char} (h : c.isDigit = false) (rest : List Char) :
    NoDigit (c :: rest) := by
  intro c' rest' heq
  cases heq
  exact h

theorem readNat_toDigits (n : Nat) {rest : List Char} (hrest : NoDigit rest) :
    readNat (Nat.toDigits 10 n ++ rest) = (n, rest) := by
  have hdigits : ∀ c ∈ Nat.toDigits 10 n, c.isDigit = true := fun c hc =>
    Nat.isDigit_of_mem_toDigits (by decide) (by decide) hc
  have htake : rest.takeWhile Char.isDigit = [] := by
    cases rest with
    | nil => rfl
    | cons c rest => simp [hrest c rest rfl]
  have hdrop : rest.dropWhile Char.isDigit = rest := by
    cases rest with
    | nil => rfl
    | cons c rest => simp [hrest c rest rfl]
  rw [readNat, List.takeWhile_append_of_pos hdigits, List.dropWhile_append_of_pos hdigits, htake,
    hdrop, List.append_nil, Nat.ofDigitChars_ten_toDigits]

theorem readValue_digit {c : Char} (hc : c.isDigit = true) (fuel : Nat) (rest : List Char) :
    readValue (fuel + 1) (c :: rest) =
      some (num (readNat (c :: rest)).1, (readNat (c :: rest)).2) := by
  rw [readValue]
  · exact if_pos hc
  -- a digit starts no other token
  all_goals
    intros
    subst_vars
    exact absurd hc (by decide)

theorem readValue_number (n : Int) (fuel : Nat) {rest : List Char} (hrest : NoDigit rest) :
    readValue (fuel + 1) (number n ++ rest) = some (num n, rest) := by
  cases n with
  | ofNat n =>
    obtain ⟨c, digits, hdigits⟩ := List.exists_cons_of_ne_nil
      (Nat.toDigits_ne_nil (n := n) (b := 10))
    have hc : c.isDigit = true :=
      Nat.isDigit_of_mem_toDigits (by decide) (by decide) (hdigits ▸ List.mem_cons_self)
    have hread := readNat_toDigits n hrest
    rw [hdigits] at hread
    rw [number, hdigits, List.cons_append, readValue_digit hc, ← List.cons_append, hread]
    rfl
  | negSucc n =>
    rw [number, List.cons_append, readValue, readNat_toDigits (n + 1) hrest]
    rfl

theorem number_cons (n : Int) : ∃ c rest, number n = c :: rest ∧ c ≠ ']' := by
  cases n with
  | ofNat n =>
    obtain ⟨c, digits, hdigits⟩ := List.exists_cons_of_ne_nil
      (Nat.toDigits_ne_nil (n := n) (b := 10))
    have hc : c.isDigit = true :=
      Nat.isDigit_of_mem_toDigits (by decide) (by decide) (hdigits ▸ List.mem_cons_self)
    refine ⟨c, digits, hdigits, ?_⟩
    rintro rfl
    exact absurd hc (by decide)
  | negSucc n => exact ⟨'-', _, rfl, by decide⟩

theorem write_cons (j : Json) : ∃ c rest, j.write = c :: rest ∧ c ≠ ']' := by
  cases j with
  | null => exact ⟨_, _, rfl, by decide⟩
  | bool b => cases b <;> exact ⟨_, _, rfl, by decide⟩
  | num n => exact number_cons n
  | str s => exact ⟨_, _, rfl, by decide⟩
  | arr items =>
    cases items <;>
    · rw [write]
      exact ⟨'[', _, rfl, by decide⟩
  | obj members =>
    rcases members with _ | ⟨⟨key, value⟩, members⟩ <;>
    · rw [write]
      exact ⟨'{', _, rfl, by decide⟩

theorem noDigit_writeItems (items : List Json) (rest : List Char) :
    NoDigit (writeItems items ++ rest) := by
  cases items <;> (rw [writeItems]; exact noDigit_cons (by decide) _)

theorem noDigit_writeMembers (members : List (String × Json)) (rest : List Char) :
    NoDigit (writeMembers members ++ rest) := by
  cases members <;> (rw [writeMembers]; exact noDigit_cons (by decide) _)

mutual

theorem readValue_write : ∀ (j : Json) (fuel : Nat) (rest : List Char),
    j.write.length ≤ fuel → NoDigit rest → readValue fuel (j.write ++ rest) = some (j, rest)
  | j, 0, _, hfuel, _ => by
    obtain ⟨c, text, htext, -⟩ := write_cons j
    rw [htext] at hfuel
    exact absurd hfuel (by simp)
  | null, _ + 1, _, _, _ => rfl
  | bool true, _ + 1, _, _, _ => rfl
  | bool false, _ + 1, _, _, _ => rfl
  | num n, fuel + 1, _, _, hrest => readValue_number n fuel hrest
  | str s, fuel + 1, rest, _, _ => by
    have hread := readString_quoted s rest
    rw [quoted, List.cons_append, List.cons_append] at hread
    rw [write, quoted, List.cons_append, List.cons_append, readValue, hread]
    rfl
  | arr [], _ + 1, _, _, _ => rfl
  | arr (item :: items), fuel + 1, rest, hfuel, _ => by
    have hitems : (item.write ++ writeItems items).length ≤ fuel := by
      simp only [write, List.length_cons, List.length_append] at hfuel ⊢
      omega
    have hread := readItems_write item items fuel rest hitems
    obtain ⟨c, text, htext, hc⟩ := write_cons item
    rw [htext, List.append_assoc, List.cons_append] at hread
    rw [write, htext, List.cons_append, List.cons_append, List.append_assoc, List.cons_append,
      readValue, hread]
    · rfl
    · intro _ heq
      exact hc (List.cons.inj heq).1
  | obj [], _ + 1, _, _, _ => rfl
  | obj ((key, value) :: members), fuel + 1, rest, hfuel, _ => by
    have hmembers : (quoted key ++ ':' :: value.write ++ writeMembers members).length ≤ fuel := by
      simp only [write, List.length_cons, List.length_append] at hfuel ⊢
      omega
    have hread := readMembers_write key value members fuel rest hmembers
    rw [quoted] at hread
    rw [write, quoted]
    simp only [List.cons_append] at hread ⊢
    rw [readValue, hread]
    · rfl
    · intro _ heq
      exact absurd (List.cons.inj heq).1 (by decide)

theorem readItems_write : ∀ (item : Json) (items : List Json) (fuel : Nat) (rest : List Char),
    (item.write ++ writeItems items).length ≤ fuel →
      readItems fuel (item.write ++ writeItems items ++ rest) = some (item :: items, rest)
  | item, items, 0, _, hfuel => by
    obtain ⟨c, text, htext, -⟩ := write_cons item
    rw [htext] at hfuel
    exact absurd hfuel (by simp)
  | item, [], fuel + 1, rest, hfuel => by
    have hread := readValue_write item fuel (']' :: rest)
      (by simpa [writeItems] using hfuel) (noDigit_cons (by decide) _)
    rw [writeItems, List.append_assoc, List.cons_append, List.nil_append, readItems, hread]
    rfl
  | item, next :: items, fuel + 1, rest, hfuel => by
    simp only [writeItems, List.cons_append, List.length_cons, List.length_append] at hfuel
    have hread := readValue_write item fuel (writeItems (next :: items) ++ rest)
      (by omega) (noDigit_writeItems _ _)
    have hitems := readItems_write next items fuel rest
      (by rw [List.length_append]; omega)
    rw [writeItems, List.cons_append, List.cons_append] at hread
    rw [List.append_assoc, writeItems, List.cons_append, List.cons_append, readItems, hread]
    simp only [hitems, Option.map_some]

theorem readMembers_write : ∀ (key : String) (value : Json) (members : List (String × Json))
    (fuel : Nat) (rest : List Char),
    (quoted key ++ ':' :: value.write ++ writeMembers members).length ≤ fuel →
      readMembers fuel (quoted key ++ ':' :: value.write ++ writeMembers members ++ rest) =
        some ((key, value) :: members, rest)
  | _, _, _, 0, _, hfuel => by
    simp at hfuel
  | key, value, [], fuel + 1, rest, hfuel => by
    simp only [writeMembers, List.length_cons, List.length_append] at hfuel
    have hread := readValue_write value fuel ('}' :: rest) (by omega)
      (noDigit_cons (by decide) _)
    simp [writeMembers, readMembers, hread]
  | key, value, (nextKey, next) :: members, fuel + 1, rest, hfuel => by
    simp only [writeMembers, List.cons_append, List.length_cons, List.length_append] at hfuel
    have hread := readValue_write value fuel
      (writeMembers ((nextKey, next) :: members) ++ rest) (by omega)
      (noDigit_writeMembers _ _)
    have hmembers := readMembers_write nextKey next members fuel rest
      (by simp only [List.length_cons, List.length_append]; omega)
    simp only [writeMembers, List.cons_append, List.append_assoc] at hread hmembers
    simp [writeMembers, readMembers, hread, hmembers]

end

/-- **Round trip.** What is written is read back. -/
theorem read_write (j : Json) : read j.write = some j := by
  have h := readValue_write j (j.write.length + 1) [] (by omega) noDigit_nil
  rw [List.append_nil] at h
  rw [read, h]

theorem write_injective {j k : Json} (h : j.write = k.write) : j = k := by
  apply Option.some.inj
  rw [← read_write j, h, read_write k]

/-- The text in UTF-8. -/
def bytes (j : Json) : List UInt8 := (String.ofList j.write).toUTF8.data.toList

theorem bytes_eq (j : Json) : j.bytes = j.write.flatMap String.utf8EncodeChar := by
  rw [bytes, String.toUTF8_eq_toByteArray, String.toByteArray_ofList, List.utf8Encode,
    List.data_toByteArray]

theorem bytes_injective {j k : Json} (h : j.bytes = k.bytes) : j = k := by
  apply write_injective
  apply String.ofList_injective
  apply String.toByteArray_inj.mp
  apply ByteArray.ext
  exact Array.toList_inj.mp h

end Json
