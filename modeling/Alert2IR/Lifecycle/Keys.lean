import Alert2IR.Lifecycle.Operations

/-!
# Keys are used once

A factory does not hand out a UUID twice, and a caller uses each of its own in the one call it
obtained it for. So the keys a call introduces are not in use yet.
-/

namespace Alert2IR

open Interleaving

/-- The keys a call introduces are not in use. -/
def Store.Unused (s : Store) : RepositoryCall → Prop
  | .acceptProcessing processingId .. => s processingId = none
  | .storePlan _ _ _ _ _ attemptId operationKey => ∀ k e a, s k = some e → e.attempt = some a →
      a.attemptId ≠ attemptId ∧ a.operationKey ≠ operationKey
  | _ => True

/-- The keys of an attempt are those of its plan. -/
theorem Entry.keys_of_advance {now : Int} {c : RepositoryCall} {e e' : Entry} {a' : AttemptFields}
    (h : e.advance now c = some e') (ha' : e'.attempt = some a') :
    (∃ a, e.attempt = some a ∧ a.attemptId = a'.attemptId ∧ a.operationKey = a'.operationKey) ∨
      ∃ k d i q b, c = .storePlan k d i q b a'.attemptId a'.operationKey := by
  cases c <;> simp only [advance, reduceCtorEq, Option.ite_none_right_eq_some, move_eq_some_iff]
    at h
  case storeNoActionResult =>
    obtain ⟨-, heq⟩ := h
    cases heq
    exact .inl ⟨a', ha', rfl, rfl⟩
  case storePlan k d i q b a op =>
    obtain ⟨-, heq⟩ := h
    cases heq
    cases ha'
    exact .inr ⟨k, d, i, q, b, rfl⟩
  case failProcessing k expected category detail attemptId =>
    obtain ⟨-, h⟩ := h
    cases attemptId with
    | none =>
        cases h
        exact .inl ⟨a', ha', rfl, rfl⟩
    | some attemptId =>
        obtain ⟨a, ha, -, -, rfl⟩ := move_eq_some_iff.mp h
        cases ha'
        exact .inl ⟨a, ha, rfl, rfl⟩
  all_goals
    obtain ⟨a, ha, -, -, rfl⟩ := h
    cases ha'
    exact .inl ⟨a, ha, rfl, rfl⟩

section Keys

variable {σ : Type} {M : Repository σ} {L : LawfulRepository M}
  {fp : CanonicalAlert → Except PyError (Int × List UInt8)} {is : List Invocation}
  {h h₁ h₂ : List (Event σ)} {w w' : World σ} {event : Event σ} {t : Nat}
    {i : Invocation} {k : UUID}
  {kind : UuidKind} {id : UUID}

theorem issued_mono {c : Call} {r : c.Response} (hstep : M.worldStep w c r w')
    (hid : id ∈ w.issued kind) : id ∈ w'.issued kind := by
  cases c with
  | repository c => exact hstep.2 ▸ hid
  | newUuid kind' =>
      obtain ⟨-, rfl⟩ := hstep
      by_cases hkind : kind = kind'
      · subst hkind
        have hissued : Function.update w.issued kind ((r : UUID) :: w.issued kind) kind
            = (r : UUID) :: w.issued kind := Function.update_self ..
        change id ∈ Function.update w.issued kind ((r : UUID) :: w.issued kind) kind
        rw [hissued]
        exact List.mem_cons_of_mem _ hid
      · simpa [Function.update_of_ne hkind] using hid
  | _ =>
      have hsame : w' = w := hstep
      rwa [hsame]

/-- A UUID is handed out once. -/
theorem newUuid_unique (htrace : (M.system fp).Trace (Issues fp) is h w)
    {h₁' h₂' : List (Event σ)} {event' : Event σ} (heq : h = h₁ ++ event :: h₂)
    (heq' : h = h₁' ++ event' :: h₂') (hnew : event.observed = Observation.newUuid kind id)
    (hnew' : event'.observed = Observation.newUuid kind id) :
    h₁ = h₁' ∧ event = event' ∧ h₂ = h₂' := by
  have hturn : ∀ {g₁ ev g₂}, h = g₁ ++ ev :: g₂ → ev.observed = Observation.newUuid kind id →
      id ∉ ev.before.issued kind ∧ id ∈ ev.after.issued kind := by
    intro g₁ ev g₂ hg hobserved
    obtain ⟨-, -, -, -, -, hstep⟩ := htrace.split hg
    obtain ⟨t, w, c, r, w'⟩ := ev
    cases hobserved
    obtain ⟨hfresh, hissued⟩ := hstep
    have hissued : w'.issued = Function.update w.issued kind (r :: w.issued kind) :=
      congrArg World.issued hissued
    refine ⟨hfresh, ?_⟩
    simp only [hissued, Function.update_self]
    exact .head _
  refine htrace.turn_unique (T := fun w => id ∈ w.issued kind) (fun ev hmem hissued => ?_)
    heq (hturn heq hnew).1 (hturn heq hnew).2 heq' (hturn heq' hnew').1 (hturn heq' hnew').2
  obtain ⟨g₁, g₂, hg⟩ := List.append_of_mem hmem
  obtain ⟨-, -, -, -, -, hstep⟩ := htrace.split hg
  exact issued_mono hstep hissued

/-- What a caller did with a UUID it did after it was handed the UUID, and was not the call before
the last calls of its own. -/
theorem used_after (htrace : (M.system fp).Trace (Issues fp) is h w) {last : List Observation}
    (hnew : Observation.newUuid kind id :: last <:+ own t h) (hsplit : h = h₁ ++ event :: h₂)
    (hnew' : Observation.newUuid kind id ∈ own event.thread h₁) : event.observed ∈ last := by
  obtain ⟨first, hfirst⟩ := hnew
  obtain ⟨g₁, ev, g₂, heq, hthread, hobserved, -, hlast⟩ := exists_of_own_eq hfirst.symm
  obtain ⟨ev', hmem', hthread', hobserved'⟩ := mem_own.mp hnew'
  obtain ⟨f₁, f₂, rfl⟩ := List.append_of_mem hmem'
  have heq' : h = f₁ ++ ev' :: (f₂ ++ event :: h₂) := by rw [hsplit]; simp
  obtain ⟨-, rfl, rfl⟩ := newUuid_unique htrace heq heq' hobserved hobserved'
  rw [← hlast]
  exact mem_own.mpr ⟨event, by simp, hthread'.symm.trans hthread, rfl⟩

end Keys

namespace LawfulRepository

variable {σ : Type} {M : Repository σ} {L : LawfulRepository M}
  {fp : CanonicalAlert → Except PyError (Int × List UInt8)} {is : List Invocation}
  {h : List (Event σ)} {w : World σ} {t : Nat} {i : Invocation} {k : UUID}

/-- An attempt's keys are the last UUIDs its planner was handed before the plan. -/
theorem exists_planned (L : LawfulRepository M)
    (htrace : (M.system fp).Trace (Issues fp) is h w) {e : Entry} {a : AttemptFields}
    (he : L.store w k = some e) (ha : e.attempt = some a) :
    ∃ h₁ event h₂ c, h = h₁ ++ event :: h₂ ∧ event.call = .repository c ∧
      [Observation.newUuid .attempt a.attemptId, Observation.newUuid .operation a.operationKey]
        <:+ own event.thread h₁ := by
  obtain ⟨h₁, event, h₂, c, e₀, e₁, hsplit, hoperates, hnot, b, hb, hid, hkey⟩ :=
    exists_operates L htrace (T := fun e => ∃ b, e.attempt = some b ∧ b.attemptId = a.attemptId ∧
      b.operationKey = a.operationKey) he ⟨a, ha, rfl, rfl⟩ (by rintro _ _ _ _ _ _ ⟨_, ⟨⟩, _⟩)
  obtain ⟨now, hadvance⟩ := hoperates.advance
  obtain ⟨j, hissues⟩ := hoperates.issues
  rcases Entry.keys_of_advance hadvance hb with ⟨b₀, hb₀, hid₀, hkey₀⟩ | ⟨_, _, _, _, _, rfl⟩
  · exact absurd ⟨b₀, hb₀, hid₀.trans hid, hkey₀.trans hkey⟩ hnot
  · rw [hid, hkey] at hissues
    cases hissues with
    | quiet hquiet => cases hquiet
    | storePlan _ _ _ _ _ _ _ hnew => exact ⟨h₁, event, h₂, _, hsplit, hoperates.call, hnew⟩

/-- **The keys a caller introduces are not in use.** -/
theorem unused_of_issues (L : LawfulRepository M)
    (htrace : (M.system fp).Trace (Issues fp) is h w) {c : RepositoryCall}
    (hissues : Issues fp i (own t h) (.repository c)) : (L.store w).Unused c := by
  cases hissues with
  | quiet hquiet => cases hquiet
  | @accept o alert key version digest processingId _ _ hfirst hnew =>
      rw [Store.Unused, Option.eq_none_iff_forall_ne_some]
      intro e he
      obtain ⟨h₁, event, h₂, alert', scope, key', version', digest', hsplit, haccepts⟩ :=
        exists_accepts L htrace he
      obtain ⟨j, hissues⟩ := haccepts.issues
      cases hissues with
      | quiet hquiet => cases hquiet
      | accept _ _ _ hnew' => cases used_after htrace hnew hsplit (hnew'.subset (.head _))
  | @storePlan record decision incident request backend attemptId operationKey _ _ _ _ _ _ _ hnew =>
      intro k e a he ha
      obtain ⟨h₁, event, h₂, c, hsplit, hcall, hnew'⟩ := exists_planned L htrace he ha
      refine ⟨?_, ?_⟩
      · rintro rfl
        have hlast := used_after htrace hnew hsplit (hnew'.subset (.head _))
        rw [List.mem_singleton] at hlast
        have hsame : event.call = .newUuid .operation :=
          congrArg Interleaving.Observation.call hlast
        rw [hcall] at hsame
        cases hsame
      · rintro rfl
        cases used_after htrace ((List.suffix_cons _ _).trans hnew) hsplit
          (hnew'.subset (.tail _ (.head _)))
  | _ => trivial

end LawfulRepository

end Alert2IR
