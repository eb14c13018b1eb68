import Mathlib.Data.List.Nodup
import Mathlib.Order.Lattice

/-!
# Rounds over a queue ordered by stamps

Everybody who waits carries a stamp. A round takes a batch of them, the least first, and stamps anew
whoever of the batch goes on waiting, later than all it did not take. Nobody is passed over for
long: those who were taken stand behind, and a round that passes somebody over takes a full batch of
those who were not taken yet.
-/

namespace Queueing

variable {κ τ : Type} [LinearOrder τ]

/-- What a round does to the stamps. -/
structure Round (batch : List κ) (s s' : κ → Option τ) : Prop where
  nodup : batch.Nodup
  waiting : ∀ k ∈ batch, (s k).isSome = true
  others : ∀ k ∉ batch, s' k = s k
  behind : ∀ k ∈ batch, ∀ k' ∉ batch, ∀ a b, s' k = some a → s k' = some b → b < a

/-- A batch may pass over `k` only if it is full of others that precede it. -/
structure PassesOver (limit : Nat) (batch : List κ) (s : κ → Option τ) (k : κ) : Prop where
  full : batch.length = limit
  precede : ∀ k' ∈ batch, ∀ a b, s k' = some a → s k = some b → a ≤ b

/-- Rounds one after the other, until one takes `k`. -/
inductive Rounds (limit : Nat) (k : κ) : (κ → Option τ) → List (List κ) → Prop
  | nil (s : κ → Option τ) : Rounds limit k s []
  | taken {batch : List κ} (s : κ → Option τ) (batches : List (List κ)) (hbatch : k ∈ batch) :
      Rounds limit k s (batch :: batches)
  | passed {batch : List κ} {batches : List (List κ)} {s s' : κ → Option τ}
      (hround : Round batch s s') (hbatch : k ∉ batch) (hover : PassesOver limit batch s k)
      (hrest : Rounds limit k s' batches) : Rounds limit k s (batch :: batches)

variable {limit n : Nat} {k : κ} {s : κ → Option τ} {batches : List (List κ)}

/-- No more than `n` wait of those that are not in `seen`. -/
def AtMost (n : Nat) (s : κ → Option τ) (seen : List κ) : Prop :=
  ∀ all : List κ, all.Nodup → (∀ k ∈ all, (s k).isSome = true ∧ k ∉ seen) → all.length ≤ n

/-- Whoever has been seen stands behind whoever has not. -/
def Behind (s : κ → Option τ) (seen : List κ) : Prop :=
  ∀ k ∈ seen, ∀ k' ∉ seen, ∀ a b, s k = some a → s k' = some b → b < a

section Step

variable {batch seen : List κ} {s' : κ → Option τ}

theorem Round.behind_append (hround : Round batch s s') (hbehind : Behind s seen) :
    Behind s' (batch ++ seen) := by
  intro k₁ hk₁ k₂ hk₂ a b ha hb
  rw [List.mem_append, not_or] at hk₂
  rw [hround.others k₂ hk₂.1] at hb
  by_cases hbatch : k₁ ∈ batch
  · exact hround.behind k₁ hbatch k₂ hk₂.1 a b ha hb
  · rw [hround.others k₁ hbatch] at ha
    exact hbehind k₁ ((List.mem_append.mp hk₁).resolve_left hbatch) k₂ hk₂.2 a b ha hb

/-- A batch that passes over somebody who has not been seen takes nobody who has. -/
theorem Round.unseen (hround : Round batch s s') (hbehind : Behind s seen)
    (hover : PassesOver limit batch s k) (hk : (s k).isSome = true) (hunseen : k ∉ seen) :
    ∀ k' ∈ batch, k' ∉ seen := by
  intro k' hmem hseen
  obtain ⟨a, ha⟩ := Option.isSome_iff_exists.mp (hround.waiting k' hmem)
  obtain ⟨b, hb⟩ := Option.isSome_iff_exists.mp hk
  have hle : a ≤ b := hover.precede k' hmem a b ha hb
  exact absurd (hbehind k' hseen k hunseen a b ha hb) (not_lt.mpr hle)

/-- Such a batch leaves fewer that have not been seen. -/
theorem Round.atMost_append (hround : Round batch s s') (hcount : AtMost (n + limit) s seen)
    (hfull : batch.length = limit) (hunseen : ∀ k' ∈ batch, k' ∉ seen) :
    AtMost n s' (batch ++ seen) := by
  intro all hnodup hall
  have hboth : (batch ++ all).Nodup := by
    refine List.Nodup.append hround.nodup hnodup fun k' hbatch hmem => ?_
    exact (hall k' hmem).2 (List.mem_append_left _ hbatch)
  have hlength := hcount (batch ++ all) hboth fun k' hmem => by
    rcases List.mem_append.mp hmem with hbatch | hmem
    · exact ⟨hround.waiting k' hbatch, hunseen k' hbatch⟩
    · obtain ⟨hsome, hnot⟩ := hall k' hmem
      rw [List.mem_append, not_or] at hnot
      rw [hround.others k' hnot.1] at hsome
      exact ⟨hsome, hnot.2⟩
  rw [List.length_append, hfull] at hlength
  omega

end Step

theorem Rounds.exists_batch_of_seen (hrounds : Rounds limit k s batches) {seen : List κ}
    (hbehind : Behind s seen) (hcount : AtMost n s seen) (hmany : n ≤ limit * batches.length)
    (hk : (s k).isSome = true) (hunseen : k ∉ seen) : ∃ batch ∈ batches, k ∈ batch := by
  induction hrounds generalizing n seen with
  | nil s =>
      have hone := hcount [k] (List.nodup_singleton k) fun k' hmem => by
        rw [List.mem_singleton.mp hmem]
        exact ⟨hk, hunseen⟩
      rw [List.length_singleton] at hone
      rw [List.length_nil, Nat.mul_zero] at hmany
      omega
  | taken s batches hbatch => exact ⟨_, List.mem_cons_self, hbatch⟩
  | @passed batch batches s s' hround hbatch hover hrest ih =>
      have htaken := hround.unseen hbehind hover hk hunseen
      have hrest : ∃ batch' ∈ batches, k ∈ batch' := by
        refine ih (n := n - limit) (hround.behind_append hbehind) ?_ ?_ ?_ ?_
        · refine hround.atMost_append (fun all hnodup hall => ?_) hover.full htaken
          have hle := hcount all hnodup hall
          omega
        · rw [List.length_cons, Nat.mul_succ] at hmany
          omega
        · rwa [hround.others k hbatch]
        · rw [List.mem_append, not_or]
          exact ⟨hbatch, hunseen⟩
      obtain ⟨batch', hmem, hk'⟩ := hrest
      exact ⟨batch', List.mem_cons_of_mem _ hmem, hk'⟩

/-- **Nobody starves.** As many rounds as it takes to hold all who wait take everyone. -/
theorem Rounds.exists_batch (hrounds : Rounds limit k s batches) (hcount : AtMost n s [])
    (hmany : n ≤ limit * batches.length) (hk : (s k).isSome = true) :
    ∃ batch ∈ batches, k ∈ batch :=
  hrounds.exists_batch_of_seen (fun _ hmem => absurd hmem List.not_mem_nil) hcount hmany hk
    List.not_mem_nil

end Queueing
