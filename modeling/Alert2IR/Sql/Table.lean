import Mathlib.Data.List.AList

/-!
# Keyed tables

A table with a primary key, or a Python dict: at most one value for each key.
-/

/-- Finitely many values, each under its own key. -/
abbrev Table (κ ν : Type) := AList fun _ : κ => ν

namespace Table

variable {κ ν : Type} [DecidableEq κ]

/-- The values of a table, in the order in which they are stored. -/
def rows (t : Table κ ν) : List ν := t.entries.map Sigma.snd

theorem mem_rows {t : Table κ ν} {v : ν} : v ∈ t.rows ↔ ∃ k, t.lookup k = some v := by
  constructor
  · intro h
    obtain ⟨⟨k, v⟩, hmem, rfl⟩ := List.mem_map.mp h
    exact ⟨k, AList.mem_lookup_iff.mpr hmem⟩
  · rintro ⟨k, hlookup⟩
    exact List.mem_map.mpr ⟨⟨k, v⟩, AList.mem_lookup_iff.mp hlookup, rfl⟩

@[simp]
theorem lookup_empty (k : κ) : (∅ : Table κ ν).lookup k = none := AList.lookup_empty k

theorem lookup_insert (t : Table κ ν) (k k' : κ) (v : ν) :
    (t.insert k v).lookup k' = if k' = k then some v else t.lookup k' := by
  split
  · next h => rw [h, AList.lookup_insert]
  · next h => exact AList.lookup_insert_ne h

/-- An entry whose value `f` keeps. -/
def keepEntry {μ : Type} (f : ν → Option μ) (entry : Σ _ : κ, ν) : Option (Σ _ : κ, μ) :=
  (f entry.2).map fun v => ⟨entry.1, v⟩

omit [DecidableEq κ] in
theorem keys_filterMap_sublist {μ : Type} (f : ν → Option μ) (entries : List (Σ _ : κ, ν)) :
    (entries.filterMap (keepEntry f)).keys.Sublist entries.keys := by
  induction entries with
  | nil => exact .slnil
  | cons entry entries ih =>
    cases hvalue : f entry.2 with
    | none => simpa [keepEntry, hvalue] using ih.cons entry.1
    | some v => simpa [keepEntry, hvalue] using ih.cons_cons entry.1

/-- The values that `f` keeps, each under its key. -/
def filterMap {μ : Type} (t : Table κ ν) (f : ν → Option μ) : Table κ μ where
  entries := t.entries.filterMap (keepEntry f)
  nodupKeys := List.Nodup.sublist (keys_filterMap_sublist f t.entries) t.nodupKeys

theorem lookup_filterMap {μ : Type} (t : Table κ ν) (f : ν → Option μ) (k : κ) :
    (t.filterMap f).lookup k = (t.lookup k).bind f := by
  apply Option.ext
  intro v
  have hmem : ∀ {ω : Type} {t : Table κ ω} {w : ω}, t.lookup k = some w ↔ ⟨k, w⟩ ∈ t.entries :=
    AList.mem_lookup_iff
  rw [hmem, filterMap, Option.bind_eq_some_iff]
  simp only [List.mem_filterMap, keepEntry, Option.map_eq_some_iff, hmem]
  constructor
  · rintro ⟨⟨k', w⟩, hentry, v', hv, heq⟩
    cases heq
    exact ⟨w, hentry, hv⟩
  · rintro ⟨w, hentry, hv⟩
    exact ⟨⟨k, w⟩, hentry, v, hv, rfl⟩

/-- Every value through `f`, under its key. -/
def map {μ : Type} (t : Table κ ν) (f : ν → μ) : Table κ μ := t.filterMap (some ∘ f)

theorem lookup_map {μ : Type} (t : Table κ ν) (f : ν → μ) (k : κ) :
    (t.map f).lookup k = (t.lookup k).map f := by
  rw [map, lookup_filterMap]
  cases t.lookup k <;> rfl

theorem nodup_map_rows {α : Type} (t : Table κ ν) (f : ν → α)
    (hinj : ∀ k v k' v', t.lookup k = some v → t.lookup k' = some v' → f v = f v' → k = k') :
    (t.rows.map f).Nodup := by
  rw [rows, List.map_map]
  refine List.Nodup.map_on ?_ (List.Nodup.of_map _ t.nodupKeys)
  rintro ⟨k, v⟩ hmem ⟨k', v'⟩ hmem' heq
  have hv : t.lookup k = some v := AList.mem_lookup_iff.mpr hmem
  have hv' : t.lookup k' = some v' := AList.mem_lookup_iff.mpr hmem'
  obtain rfl := hinj k v k' v' hv hv' heq
  rw [hv] at hv'
  cases hv'
  rfl

end Table
