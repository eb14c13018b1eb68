import Mathlib.Algebra.GroupWithZero.Nat
import Alert2IR.Json.Text

/-!
# JSON documents in transport

Documents as the bytes of a message. Of the reader at the other end it is only asked that it reads
what has been written here.
-/

namespace Json

/-- The members that have a value, which is what is left of a record whose empty fields are not
written. -/
def present (members : List (String × Option Json)) : List (String × Json) :=
  members.filterMap fun m => m.2.map fun value => (m.1, value)

@[simp]
theorem present_nil : present [] = [] := rfl

@[simp]
theorem present_cons_none (key : String) (members : List (String × Option Json)) :
    present ((key, none) :: members) = present members := rfl

@[simp]
theorem present_cons_some (key : String) (value : Json) (members : List (String × Option Json)) :
    present ((key, some value) :: members) = (key, value) :: present members := rfl

theorem keys_present_sublist (members : List (String × Option Json)) :
    ((present members).map Prod.fst).Sublist (members.map Prod.fst) := by
  induction members with
  | nil => exact List.Sublist.slnil
  | cons member members ih =>
    obtain ⟨key, _ | value⟩ := member
    · exact ih.cons key
    · exact ih.cons_cons key

theorem lookup_present {key : String} {members : List (String × Option Json)}
    (h : (members.map Prod.fst).Nodup) :
    (present members).lookup key = (members.lookup key).join := by
  induction members with
  | nil => rfl
  | cons member members ih =>
    obtain ⟨k, value⟩ := member
    obtain ⟨hk, hrest⟩ := List.nodup_cons.mp h
    rw [List.lookup_cons]
    by_cases heq : key = k
    · subst heq
      cases value with
      | none =>
        have hkeys : key ∉ (present members).map Prod.fst := fun hmem =>
          hk ((keys_present_sublist members).subset hmem)
        rw [present_cons_none, lookup_eq_none_of_notMem hkeys, beq_self_eq_true]
        rfl
      | some value => simp
    · have hbeq : (key == k) = false := beq_eq_false_iff_ne.mpr heq
      cases value with
      | none => simp [hbeq, ih hrest]
      | some value => simp [List.lookup_cons, hbeq, ih hrest]

mutual

/-- No key occurs twice in an object, and no number has more digits than `int` reads. -/
def plain : Json → Bool
  | num n => (Nat.toDigits 10 n.natAbs).length ≤ 4300
  | arr items => plainItems items
  | obj members => decide (members.map Prod.fst).Nodup && plainMembers members
  | _ => true

def plainItems : List Json → Bool
  | [] => true
  | item :: items => item.plain && plainItems items

def plainMembers : List (String × Json) → Bool
  | [] => true
  | (_, value) :: members => value.plain && plainMembers members

end

theorem plain_num {n : Int} (digits : Nat) (hn : n.natAbs < 10 ^ digits) (hpos : 0 < digits)
    (hle : digits ≤ 4300) : (num n).plain = true := by
  have hlength := (Nat.length_toDigits_le_iff (b := 10) (by decide) hpos).mpr hn
  rw [plain, decide_eq_true_eq]
  exact hlength.trans hle

theorem plainMembers_iff {members : List (String × Json)} :
    plainMembers members = true ↔ ∀ m ∈ members, m.2.plain = true := by
  induction members with
  | nil => simp [plainMembers]
  | cons member members ih => simp [plainMembers, ih]

theorem plain_obj_iff {members : List (String × Json)} : (obj members).plain = true ↔
    (members.map Prod.fst).Nodup ∧ ∀ m ∈ members, m.2.plain = true := by
  rw [plain, Bool.and_eq_true, decide_eq_true_eq, plainMembers_iff]

mutual

/-- How deep arrays and objects stand in one another. -/
def nesting : Json → Nat
  | arr items => nestingItems items + 1
  | obj members => nestingMembers members + 1
  | _ => 0

def nestingItems : List Json → Nat
  | [] => 0
  | item :: items => max item.nesting (nestingItems items)

def nestingMembers : List (String × Json) → Nat
  | [] => 0
  | (_, value) :: members => max value.nesting (nestingMembers members)

end

theorem nestingMembers_le_iff {members : List (String × Json)} {n : Nat} :
    nestingMembers members ≤ n ↔ ∀ m ∈ members, m.2.nesting ≤ n := by
  induction members with
  | nil => simp [nestingMembers]
  | cons member members ih => simp [nestingMembers, ih]

theorem nesting_obj_le_iff {members : List (String × Json)} {n : Nat} :
    (obj members).nesting ≤ n + 1 ↔ ∀ m ∈ members, m.2.nesting ≤ n := by
  rw [nesting, Nat.add_le_add_iff_right, nestingMembers_le_iff]

/-- How deep a reader gets that recurses over a document, whatever else is on its stack. -/
def nestingLimit : Nat := 64

/-- Reads a message. -/
def loads (message : List UInt8) : Option Json :=
  (String.fromUTF8? ⟨message.toArray⟩).bind fun text => read text.toList

theorem loads_bytes (j : Json) : loads j.bytes = some j := by
  have htext : String.fromUTF8? ⟨j.bytes.toArray⟩ = some (String.ofList j.write) :=
    dif_pos (String.ofList j.write).isValidUTF8
  rw [loads, htext, Option.bind_some, String.toList_ofList, read_write]

/-- A JSON library. What it makes of other messages than those written here is its own affair. -/
structure Decoder where
  loads : List UInt8 → Option Json
  loads_bytes : ∀ j : Json, j.plain = true → j.nesting ≤ nestingLimit → loads j.bytes = some j

/-- A library that reads nothing but what is written here. -/
def Decoder.strict : Decoder := ⟨Json.loads, fun j _ _ => Json.loads_bytes j⟩

/-! ## Length -/

theorem length_utf8Encode_le (text : List Char) : text.utf8Encode.size ≤ 4 * text.length := by
  induction text with
  | nil => simp
  | cons c text ih =>
    have hc := c.utf8Size_le_four
    have hsize : [c].utf8Encode.size = c.utf8Size := by
      rw [List.utf8Encode_singleton, List.size_toByteArray, String.length_utf8EncodeChar]
    rw [List.utf8Encode_cons, ByteArray.size_append, hsize, List.length_cons]
    omega

theorem length_bytes_le (j : Json) : j.bytes.length ≤ 4 * j.write.length := by
  have h := length_utf8Encode_le j.write
  rwa [← String.toByteArray_ofList] at h

theorem length_escape_le (c : Char) : (escape c).length ≤ 6 := by
  unfold escape
  repeat' split
  all_goals simp

theorem length_quoted_le (s : String) : (quoted s).length ≤ 6 * s.length + 2 := by
  have hflat : ∀ text : List Char, (text.flatMap escape).length ≤ 6 * text.length := by
    intro text
    induction text with
    | nil => simp
    | cons c text ih =>
      have hc := length_escape_le c
      rw [List.flatMap_cons, List.length_append, List.length_cons]
      omega
  have h := hflat s.toList
  rw [String.length_toList] at h
  rw [quoted, List.length_append, List.length_cons, List.length_singleton]
  omega

/-- The text of a member, with the signs before and behind it. -/
def memberLength (member : String × Json) : Nat :=
  (quoted member.1).length + member.2.write.length + 2

theorem length_writeMembers (members : List (String × Json)) :
    (writeMembers members).length = (members.map memberLength).sum + 1 := by
  induction members with
  | nil => rw [writeMembers]; rfl
  | cons member members ih =>
    obtain ⟨key, value⟩ := member
    simp only [writeMembers, List.cons_append, List.length_cons, List.length_append, ih,
      List.map_cons, List.sum_cons, memberLength]
    omega

theorem length_write_obj_le (members : List (String × Json)) :
    (obj members).write.length ≤ (members.map memberLength).sum + 2 := by
  cases members with
  | nil => simp [write]
  | cons member members =>
    obtain ⟨key, value⟩ := member
    simp only [write, List.cons_append, List.length_cons, List.length_append, length_writeMembers,
      List.map_cons, List.sum_cons, memberLength]
    omega

end Json
