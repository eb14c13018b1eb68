import Alert2IR.Lifecycle.Store

/-!
# The law leaves nothing open

Whatever keeps the law makes the same of a coherent store with every call that it answers, and its
answers differ in nothing that is durable. Two repositories that keep it cannot be told apart.
-/

namespace Alert2IR

/-- Two answers to one call that say the same of what is durable: whether it was carried out, and
which processings and attempts there are now. -/
structure RepositoryCall.Agree (c : RepositoryCall) (x y : c.Result) : Prop where
  wrote : c.wrote x = c.wrote y
  records : (c.records x).map (fun r => r.toProcessingFields.durable) =
    (c.records y).map fun r => r.toProcessingFields.durable
  attempts : (c.attempts x).map (fun a => a.toAttemptFields.durable) =
    (c.attempts y).map fun a => a.toAttemptFields.durable

theorem toList_map_eq {α β : Type} {x y : Option α} {f : α → β} (hsome : x.isSome = y.isSome)
    (hsame : ∀ a ∈ x.toList, ∀ b ∈ y.toList, f a = f b) : x.toList.map f = y.toList.map f := by
  cases x with
  | none =>
      cases y with
      | none => rfl
      | some b => cases hsome
  | some a =>
      cases y with
      | none => cases hsome
      | some b =>
          have hab : f a = f b := hsame a (List.mem_singleton.mpr rfl) b
            (List.mem_singleton.mpr rfl)
          simp [hab]

namespace Store

variable {s s₁ s₂ : Store} {now : Int} {c : RepositoryCall} {x y : c.Result}

/-- A call on one processing or attempt is about one entry. -/
theorem Coherent.concern_unique {k k' : UUID} {e e' : Entry} (hs : s.Coherent)
    (hc : ∀ limit staleBefore, c ≠ .findReconcilable limit staleBefore) (he : s k = some e)
    (he' : s k' = some e') (hconcerns : c.Concerns e) (hconcerns' : c.Concerns e') : k = k' := by
  cases c with
  | acceptProcessing =>
      exact hs.identities _ _ _ _ he he' (hconcerns.1.trans hconcerns'.1.symm)
        (hconcerns.2.trans hconcerns'.2.symm)
  | get | getAttemptForProcessing =>
      rw [← hs.id k e he, ← hs.id k' e' he']
      exact hconcerns.trans hconcerns'.symm
  | findReconcilable limit staleBefore => exact absurd rfl (hc limit staleBefore)
  | _ => exact hs.concerned_unique rfl he he' hconcerns hconcerns'

/-- One call makes one store of another. -/
theorem Moves.unique (hs : s.Coherent) (h : s.Moves now c s₁) (h' : s.Moves now c s₂) :
    s₁ = s₂ := by
  cases h with
  | accept hfresh hnew =>
      cases h' with
      | accept => rfl
      | advance hentry hadvance => cases hadvance
  | @advance _ k e e₁ hentry hadvance =>
      cases h' with
      | accept => cases hadvance
      | @advance _ k' e' e₂ hentry' hadvance' =>
          obtain rfl := hs.advance_unique hentry hentry' hadvance hadvance'
          obtain rfl := Option.some.inj (hentry.symm.trans hentry')
          rw [Option.some.inj (hadvance.symm.trans hadvance')]

/-- A call that is carried out for one is not refused to another. -/
theorem Moves.wrote (h : s.Moves now c s₁) (h' : s.Lawful now c (.ok y) s₂) :
    c.wrote y = true := by
  by_contra hfalse
  obtain ⟨rfl, hrefused⟩ := h'.refused y rfl (by simpa using hfalse)
  cases h with
  | accept hfresh hnew =>
      obtain ⟨e, he, -, hconcerns⟩ := (h'.reports y rfl).records _ (List.mem_singleton.mpr rfl)
      exact hnew _ e he hconcerns
  | advance hentry hadvance =>
      rw [hrefused _ _ hentry] at hadvance
      cases hadvance

theorem Lawful.wrote_eq (h : s.Lawful now c (.ok x) s₁) (h' : s.Lawful now c (.ok y) s₂) :
    c.wrote x = c.wrote y := by
  rw [Bool.eq_iff_iff]
  exact ⟨fun hwrote => (h.wrote x rfl hwrote).wrote h',
    fun hwrote => (h'.wrote y rfl hwrote).wrote h⟩

/-- **The law determines the store.** -/
theorem Lawful.unique (hs : s.Coherent) (h : s.Lawful now c (.ok x) s₁)
    (h' : s.Lawful now c (.ok y) s₂) : s₁ = s₂ := by
  have hwrote := h.wrote_eq h'
  cases hx : c.wrote x with
  | true => exact (h.wrote x rfl hx).unique hs (h'.wrote y rfl (hwrote ▸ hx))
  | false => rw [(h.refused x rfl hx).1, (h'.refused y rfl (hwrote ▸ hx)).1]

/-! ### What is answered -/

theorem Found.unique {limit staleBefore : Int} {ids ids' : List UUID}
    (h : s.Found limit staleBefore ids) (h' : s.Found limit staleBefore ids') : ids = ids' := by
  obtain ⟨all, hnodup, hsorted, hall, rfl⟩ := h
  obtain ⟨all', hnodup', hsorted', hall', rfl⟩ := h'
  have hperm : all.Perm all' := (List.perm_ext_iff_of_nodup hnodup hnodup').mpr fun k => by
    rw [hall, hall']
  refine congrArg (List.take limit.toNat) (hperm.eq_of_pairwise ?_ hsorted hsorted')
  intro k k' hk hk' hle hle'
  obtain ⟨e, he, -⟩ := (hall k).mp hk
  obtain ⟨e', he', -⟩ := (hall' k').mp hk'
  rcases hle e e' he he' with hlt | ⟨heq, hle⟩
  · rcases hle' e' e he' he with hlt' | ⟨heq', -⟩ <;> omega
  · rcases hle' e' e he' he with hlt' | ⟨-, hle'⟩
    · omega
    · exact BitVec.le_antisymm hle hle'

section Answers

variable (hs : s.Coherent) (hx : c.Reports s x) (hy : c.Reports s y)
include hs hx hy

theorem records_same (hc : ∀ limit staleBefore, c ≠ .findReconcilable limit staleBefore) :
    ∀ r ∈ c.records x, ∀ r' ∈ c.records y,
      r.toProcessingFields.durable = r'.toProcessingFields.durable := by
  intro r hr r' hr'
  obtain ⟨e, he, hdurable, hconcerns⟩ := hx.records r hr
  obtain ⟨e', he', hdurable', hconcerns'⟩ := hy.records r' hr'
  have hk := hs.concern_unique hc he he' hconcerns hconcerns'
  rw [← hdurable, ← hdurable', Option.some.inj (he.symm.trans (hk ▸ he'))]

theorem attempts_same (hc : ∀ limit staleBefore, c ≠ .findReconcilable limit staleBefore) :
    ∀ a ∈ c.attempts x, ∀ a' ∈ c.attempts y,
      a.toAttemptFields.durable = a'.toAttemptFields.durable := by
  intro a ha a' ha'
  obtain ⟨e, he, hdurable, hconcerns⟩ := hx.attempts a ha
  obtain ⟨e', he', hdurable', hconcerns'⟩ := hy.attempts a' ha'
  have hk := hs.concern_unique hc he he' hconcerns hconcerns'
  rw [Option.some.inj (he.symm.trans (hk ▸ he'))] at hdurable
  exact Option.some.inj (hdurable.symm.trans hdurable')

end Answers

/-- The records of one batch are determined by their processings. -/
theorem records_eq_of_ids {limit : Int} {staleBefore : Datetime} {l l' : List ProcessingRecord}
    (h : (RepositoryCall.findReconcilable limit staleBefore).Reports s l)
    (h' : (RepositoryCall.findReconcilable limit staleBefore).Reports s l')
    (hids : l.map (·.processingId) = l'.map (·.processingId)) :
    l.map (fun r => r.toProcessingFields.durable) =
      l'.map fun r => r.toProcessingFields.durable := by
  have hentry : ∀ r ∈ l, ∀ r' ∈ l', r.processingId = r'.processingId →
      r.toProcessingFields.durable = r'.toProcessingFields.durable := by
    intro r hr r' hr' hid
    obtain ⟨e, he, hdurable, -⟩ := h.records r hr
    obtain ⟨e', he', hdurable', -⟩ := h'.records r' hr'
    rw [← hdurable, ← hdurable', Option.some.inj (he.symm.trans (hid ▸ he'))]
  clear h h'
  induction l generalizing l' with
  | nil =>
      cases l' with
      | nil => rfl
      | cons r' l' => cases hids
  | cons r l ih =>
      cases l' with
      | nil => cases hids
      | cons r' l' =>
          obtain ⟨hhead, htail⟩ := List.cons.inj hids
          rw [List.map_cons, List.map_cons,
            hentry r List.mem_cons_self r' List.mem_cons_self hhead,
            ih htail fun r₁ hr₁ r₂ hr₂ =>
              hentry r₁ (List.mem_cons_of_mem _ hr₁) r₂ (List.mem_cons_of_mem _ hr₂)]

/-- A processing that one reader finds is found by another. -/
theorem isSome_of_get {k : UUID} {x y : Option ProcessingRecord} (hs : s.Coherent)
    (hx : (RepositoryCall.get k).Reports s x) (hy : s.Complete (.get k) y)
    (hsome : x.isSome = true) : y.isSome = true := by
  obtain ⟨r, rfl⟩ := Option.isSome_iff_exists.mp hsome
  obtain ⟨e, he, -, hconcerns⟩ := hx.records r (List.mem_singleton.mpr rfl)
  have hk : r.processingId = k := (hs.id _ e he).symm.trans hconcerns
  rw [Option.isSome_iff_ne_none]
  intro hnone
  rw [hk, hy hnone] at he
  cases he

/-- So is an attempt. -/
theorem isSome_of_getAttempt {k : UUID} {x y : Option ExecutionAttempt} (hs : s.Coherent)
    (hx : (RepositoryCall.getAttemptForProcessing k).Reports s x)
    (hy : s.Complete (.getAttemptForProcessing k) y) (hsome : x.isSome = true) :
    y.isSome = true := by
  obtain ⟨a, rfl⟩ := Option.isSome_iff_exists.mp hsome
  obtain ⟨e, he, hattempt, hconcerns⟩ := hx.attempts a (List.mem_singleton.mpr rfl)
  have hk : a.processingId = k := (hs.id _ e he).symm.trans hconcerns
  rw [Option.isSome_iff_ne_none]
  intro hnone
  rw [hk] at he
  rw [hy hnone e he] at hattempt
  cases hattempt

/-- **The law determines the answer**, as far as it is durable. -/
theorem Lawful.agree (hs : s.Coherent) (hfits : s.Fits c) (h : s.Lawful now c (.ok x) s₁)
    (h' : s.Lawful now c (.ok y) s₂) : c.Agree x y := by
  have hcoherent := h.coherent hs hfits
  have hwrote := h.wrote_eq h'
  have hread : c.wrote x = false → s₁ = s := fun hfalse => (h.refused x rfl hfalse).1
  have hcomplete := h.complete x rfl
  have hcomplete' := h'.complete y rfl
  have hx := h.reports x rfl
  have hy := h'.reports y rfl
  rw [← h.unique hs h'] at hy
  refine ⟨hwrote, ?_, ?_⟩
  · cases c with
    | findReconcilable limit staleBefore =>
        rw [hread rfl] at hx hy
        exact records_eq_of_ids hx hy (hcomplete.unique hcomplete')
    | get k =>
        rw [hread rfl] at hx hy
        refine toList_map_eq (Bool.eq_iff_iff.mpr ⟨?_, ?_⟩) (records_same hs hx hy (by simp))
        · exact isSome_of_get hs hx hcomplete'
        · exact isSome_of_get hs hy hcomplete
    | acceptProcessing =>
        have hsame := records_same hcoherent hx hy (by simp) _ (List.mem_singleton.mpr rfl) _
          (List.mem_singleton.mpr rfl)
        simpa [RepositoryCall.records] using hsame
    | storePlan =>
        refine toList_map_eq ?_ (records_same hcoherent hx hy (by simp))
        exact Option.isSome_map.trans (hwrote.trans Option.isSome_map.symm)
    | storeNoActionResult | completeProcessing | failProcessing | markRecoveryRequired =>
        exact toList_map_eq hwrote (records_same hcoherent hx hy (by simp))
    | _ => rfl
  · cases c with
    | getAttemptForProcessing k =>
        rw [hread rfl] at hx hy
        refine toList_map_eq (Bool.eq_iff_iff.mpr ⟨?_, ?_⟩) (attempts_same hs hx hy (by simp))
        · exact isSome_of_getAttempt hs hx hcomplete'
        · exact isSome_of_getAttempt hs hy hcomplete
    | storePlan =>
        refine toList_map_eq ?_ (attempts_same hcoherent hx hy (by simp))
        exact Option.isSome_map.trans (hwrote.trans Option.isSome_map.symm)
    | claimAttemptForSubmission | markAttemptSubmitted | recordPoll =>
        exact toList_map_eq hwrote (attempts_same hcoherent hx hy (by simp))
    | _ => rfl

end Store

end Alert2IR
