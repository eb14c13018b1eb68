import Mathlib.Data.List.Nodup
import Mathlib.Data.List.Sort
import Mathlib.Data.String.Basic

/-!
# JSON values

An object is the list of its members, in the order in which they were put. A text with sorted keys
shows an object regardless of that order, and loses nothing else: what a member held can still be
looked up, provided no key occurs twice.
-/

/-- A JSON document whose numbers are integers, as text or as it is kept in a `JSONB` column. -/
inductive Json
  | null
  | bool (b : Bool)
  | num (n : Int)
  | str (s : String)
  | arr (items : List Json)
  | obj (members : List (String × Json))

namespace Json

/-- `jsonb_typeof(value) = 'array'`. -/
def isArray : Json → Bool
  | arr _ => true
  | _ => false

/-- `jsonb_array_length`. PostgreSQL raises on anything but an array, where the length is taken to
be zero here: every constraint that asks for it also asks for an array. -/
def arrayLength : Json → Nat
  | arr items => items.length
  | _ => 0

/-- What an object holds under a key; `null` and an absent key differ. -/
def get? (key : String) : Json → Option Json
  | obj members => members.lookup key
  | _ => none

/-- A string, or `null` where there is none. -/
def optional : Option String → Json
  | none => null
  | some s => str s

theorem str_inj {s t : String} : str s = str t ↔ s = t := by
  simp

theorem optional_inj {s t : Option String} : optional s = optional t ↔ s = t := by
  cases s <;> cases t <;> simp [optional]

/-- The members in the order of their keys, which is that of their code points. -/
def byKey (members : List (String × Json)) : List (String × Json) :=
  members.insertionSort fun a b => a.1 ≤ b.1

mutual

/-- The document with the members of every object sorted by key. -/
def sortKeys : Json → Json
  | null => null
  | bool b => bool b
  | num n => num n
  | str s => str s
  | arr items => arr (sortItems items)
  | obj members => obj (byKey (sortMembers members))

def sortItems : List Json → List Json
  | [] => []
  | item :: items => item.sortKeys :: sortItems items

def sortMembers : List (String × Json) → List (String × Json)
  | [] => []
  | (key, value) :: members => (key, value.sortKeys) :: sortMembers members

end

theorem sortItems_eq_map (items : List Json) : sortItems items = items.map sortKeys := by
  induction items with
  | nil => rfl
  | cons item items ih => rw [sortItems, ih, List.map_cons]

theorem sortMembers_eq_map (members : List (String × Json)) :
    sortMembers members = members.map fun m => (m.1, m.2.sortKeys) := by
  induction members with
  | nil => rfl
  | cons member members ih => rw [sortMembers, ih, List.map_cons]

@[simp]
theorem sortKeys_optional (s : Option String) : (optional s).sortKeys = optional s := by
  cases s <;> rfl

theorem keys_sortMembers (members : List (String × Json)) :
    (sortMembers members).map Prod.fst = members.map Prod.fst := by
  rw [sortMembers_eq_map, List.map_map]
  rfl

theorem lookup_sortMembers (key : String) (members : List (String × Json)) :
    (sortMembers members).lookup key = (members.lookup key).map sortKeys := by
  induction members with
  | nil => rfl
  | cons member members ih =>
    obtain ⟨k, value⟩ := member
    rw [sortMembers, List.lookup_cons, List.lookup_cons]
    by_cases h : key == k
    · simp [h]
    · simp [h, ih]

section Lookup

variable {β : Type*} {key : String}

theorem lookup_eq_some_iff_mem {value : β} {members : List (String × β)}
    (h : (members.map Prod.fst).Nodup) :
      members.lookup key = some value ↔ (key, value) ∈ members := by
  induction members with
  | nil => simp
  | cons member members ih =>
    obtain ⟨k, v⟩ := member
    obtain ⟨hk, hrest⟩ := List.nodup_cons.mp h
    rw [List.lookup_cons, List.mem_cons]
    by_cases heq : key = k
    · subst heq
      have hnot : (key, value) ∉ members := fun hmem =>
        hk (List.mem_map.mpr ⟨(key, value), hmem, rfl⟩)
      simp [hnot, eq_comm]
    · have hbeq : (key == k) = false := beq_eq_false_iff_ne.mpr heq
      simp [hbeq, heq, ih hrest]

/-- Rearranging an object changes no lookup. -/
theorem lookup_of_perm {members others : List (String × β)} (hperm : members.Perm others)
    (h : (members.map Prod.fst).Nodup) : members.lookup key = others.lookup key := by
  have hothers : (others.map Prod.fst).Nodup := (hperm.map Prod.fst).nodup_iff.mp h
  ext value
  rw [lookup_eq_some_iff_mem h, lookup_eq_some_iff_mem hothers, hperm.mem_iff]

theorem lookup_eq_none_of_notMem {members : List (String × β)} (h : key ∉ members.map Prod.fst) :
    members.lookup key = none := by
  rw [List.lookup_eq_none_iff]
  intro member hmem
  exact bne_iff_ne.mpr fun heq => h (List.mem_map.mpr ⟨member, hmem, heq.symm⟩)

/-- Over the same keys, lookups determine the values. -/
theorem values_eq_of_lookup_eq {members others : List (String × β)}
    (hkeys : members.map Prod.fst = others.map Prod.fst) (h : (members.map Prod.fst).Nodup)
    (hlookup : ∀ key, members.lookup key = others.lookup key) :
    members.map Prod.snd = others.map Prod.snd := by
  induction members generalizing others with
  | nil =>
    cases others with
    | nil => rfl
    | cons other others => exact absurd hkeys (by simp)
  | cons member members ih =>
    cases others with
    | nil => exact absurd hkeys (by simp)
    | cons other others =>
      obtain ⟨k, v⟩ := member
      obtain ⟨k', v'⟩ := other
      obtain ⟨rfl, htail⟩ := List.cons.inj hkeys
      obtain ⟨hk, hnodup⟩ := List.nodup_cons.mp h
      have hv : v = v' := by simpa using hlookup k
      subst hv
      have hrest : ∀ key, members.lookup key = others.lookup key := by
        intro key
        by_cases hkey : key = k
        · rw [hkey, lookup_eq_none_of_notMem hk, lookup_eq_none_of_notMem (htail ▸ hk)]
        · have hbeq : (key == k) = false := beq_eq_false_iff_ne.mpr hkey
          simpa [List.lookup_cons, hbeq] using hlookup key
      rw [List.map_cons, List.map_cons, ih htail hnodup hrest]

end Lookup

/-- Sorting keys keeps what every key of an object leads to. -/
theorem get?_sortKeys {key : String} {members : List (String × Json)}
    (h : (members.map Prod.fst).Nodup) :
    (obj members).sortKeys.get? key = (members.lookup key).map sortKeys := by
  have hkeys : ((sortMembers members).map Prod.fst).Nodup := by rwa [keys_sortMembers]
  rw [sortKeys, get?, ← lookup_sortMembers, byKey]
  exact (lookup_of_perm (List.perm_insertionSort _ _).symm hkeys).symm

/-- Two objects over the same keys become equal when sorted only if each member of the one does as
its counterpart. -/
theorem values_eq_of_sortKeys_eq {members others : List (String × Json)}
    (h : (obj members).sortKeys = (obj others).sortKeys)
    (hkeys : members.map Prod.fst = others.map Prod.fst) (hnodup : (members.map Prod.fst).Nodup) :
    members.map (fun m => m.2.sortKeys) = others.map (fun m => m.2.sortKeys) := by
  have hlookup : ∀ key, (sortMembers members).lookup key = (sortMembers others).lookup key := by
    intro key
    rw [lookup_sortMembers, lookup_sortMembers, ← get?_sortKeys hnodup, h,
      get?_sortKeys (hkeys ▸ hnodup)]
  have hvalues := values_eq_of_lookup_eq (by rwa [keys_sortMembers, keys_sortMembers])
    (by rwa [keys_sortMembers]) hlookup
  simpa [sortMembers_eq_map, Function.comp_def] using hvalues

/-- Lists of documents sorted throughout are equal when their documents are, one by one. -/
theorem map_eq_of_sortItems_eq {α : Type*} {f : α → Json} {xs ys : List α}
    (hf : ∀ x y, (f x).sortKeys = (f y).sortKeys → x = y)
    (h : (arr (xs.map f)).sortKeys = (arr (ys.map f)).sortKeys) : xs = ys := by
  rw [sortKeys, sortKeys, sortItems_eq_map, sortItems_eq_map, List.map_map, List.map_map] at h
  exact List.map_injective_iff.mpr (fun x y hxy => hf x y hxy) (Json.arr.inj h)

end Json
