import Mathlib.Logic.Function.Basic
import Alert2IR.Lifecycle.Evolution

/-!
# The abstract store, and the law of a repository

A store is a set of entries under their processing IDs. The law says what any call may change and
what its answer reports, whoever else is at work; both repositories are shown to keep it.
-/

namespace Alert2IR

abbrev Store := UUID → Option Entry

namespace Store

structure Coherent (s : Store) : Prop where
  id : ∀ k e, s k = some e → e.processing.processingId = k
  entry : ∀ k e, s k = some e → e.Coherent
  attempts : ∀ k e k' e', s k = some e → s k' = some e' → e.attempt.isSome = true →
    e.attempt.map (·.attemptId) = e'.attempt.map (·.attemptId) → k = k'
  identities : ∀ k e k' e', s k = some e → s k' = some e' →
    e.processing.idempotencyScope = e'.processing.idempotencyScope →
    e.processing.idempotencyKey = e'.processing.idempotencyKey → k = k'

theorem Coherent.empty : Coherent fun _ => none := by
  constructor <;> simp

/-- The new keys of a plan are not in use yet. -/
def FreshPlan (s : Store) : RepositoryCall → Prop
  | .storePlan _ _ _ _ _ attemptId _ =>
      ∀ k e, s k = some e → e.attempt.map (·.attemptId) ≠ some attemptId
  | _ => True

/-- A call that changes the store: an acceptance under a new identity, or a lifecycle operation on
an entry in a state it expects. -/
inductive Moves (now : Int) (s : Store) : RepositoryCall → Store → Prop
  | accept {processingId : UUID} {alert : CanonicalAlert} {scope key : String} {version : Int}
      {digest : List UInt8} (hfresh : s processingId = none)
      (hnew : ∀ k e, s k = some e →
        ¬ (e.processing.idempotencyScope = some scope ∧ e.processing.idempotencyKey = some key)) :
      Moves now s (.acceptProcessing processingId alert scope key version digest)
        (Function.update s processingId
          (some (.accepted now processingId alert scope key version digest)))
  | advance {c : RepositoryCall} {k : UUID} {e e' : Entry} (hentry : s k = some e)
      (hadvance : e.advance now c = some e') (hfresh : s.FreshPlan c) :
      Moves now s c (Function.update s k (some e'))

/-- The callers have seen to it that a call fits every entry it is about. -/
def Fits (s : Store) (c : RepositoryCall) : Prop :=
  ∀ k e, s k = some e → c.Concerns e → c.Fits e

/-- One store and what it may have become some steps later. -/
def EvolvesTo (s s' : Store) : Prop :=
  ∀ k e, s k = some e → ∃ e', s' k = some e' ∧ e.EvolvesTo e'

variable {s s' s'' : Store} {now : Int} {c : RepositoryCall}

theorem EvolvesTo.refl (s : Store) : s.EvolvesTo s := fun _ e he => ⟨e, he, .refl e⟩

theorem EvolvesTo.trans (h : s.EvolvesTo s') (h' : s'.EvolvesTo s'') : s.EvolvesTo s'' := by
  intro k e he
  obtain ⟨e', he', hevolves⟩ := h k e he
  obtain ⟨e'', he'', hevolves'⟩ := h' k e' he'
  exact ⟨e'', he'', hevolves.trans hevolves'⟩

/-- **What one call may change**: at most one entry, which it creates or moves along an edge of the
transition table. -/
theorem Moves.entry (h : s.Moves now c s') (hcoherent : s.Coherent) (hfits : s.Fits c) {k : UUID}
    {e : Entry} (he : s k = some e) : s' k = some e ∨
      ∃ e', s' k = some e' ∧ e.advance now c = some e' ∧
        processingTransitionAllowed e.processing.state e'.processing.state = true ∧
        e.processing.state.isSettled = false ∧ e.EvolvesTo e' := by
  cases h with
  | @accept processingId _ _ _ _ _ hfresh hnew =>
      refine .inl ?_
      have hne : k ≠ processingId := by
        rintro rfl
        simp [hfresh] at he
      rw [Function.update_of_ne hne, he]
  | @advance _ k' e₀ e' hentry hadvance hfresh =>
      by_cases hk : k = k'
      · subst hk
        obtain rfl := Option.some.inj (he.symm.trans hentry)
        obtain ⟨hallowed, hunsettled, hevolves⟩ := Entry.advance_evolves
          (hcoherent.entry k e he) (hfits k e he (Entry.concerns_of_advance hadvance)) hadvance
        exact .inr ⟨e', by simp, hadvance, hallowed, hunsettled, hevolves⟩
      · exact .inl (by rw [Function.update_of_ne hk, he])

theorem Moves.evolves (h : s.Moves now c s') (hcoherent : s.Coherent) (hfits : s.Fits c) :
    s.EvolvesTo s' := by
  intro k e he
  rcases h.entry hcoherent hfits he with he' | ⟨e', he', -, -, -, hevolves⟩
  · exact ⟨e, he', .refl e⟩
  · exact ⟨e', he', hevolves⟩

/-- The identity of a moved entry, and its attempt unless the move is a plan. -/
theorem advance_keeps {e e' : Entry} (h : e.advance now c = some e') :
    e'.processing.processingId = e.processing.processingId ∧
    e'.processing.idempotencyScope = e.processing.idempotencyScope ∧
    e'.processing.idempotencyKey = e.processing.idempotencyKey ∧
    (e'.attempt.map (·.attemptId) = e.attempt.map (·.attemptId) ∨
      ∃ k d i q b a op, c = .storePlan k d i q b a op ∧ e'.attempt.map (·.attemptId) = some a) := by
  cases c <;> simp only [Entry.advance, reduceCtorEq, Option.ite_none_right_eq_some,
    Entry.move_eq_some_iff] at h
  case storeNoActionResult =>
    obtain ⟨-, heq⟩ := h
    cases heq
    exact ⟨rfl, rfl, rfl, .inl rfl⟩
  case storePlan k d i q b a op =>
    obtain ⟨-, heq⟩ := h
    cases heq
    exact ⟨rfl, rfl, rfl, .inr ⟨_, _, _, _, _, _, _, rfl, rfl⟩⟩
  case failProcessing k expected category detail attemptId =>
    obtain ⟨-, h⟩ := h
    cases attemptId with
    | none =>
        cases h
        exact ⟨rfl, rfl, rfl, .inl rfl⟩
    | some attemptId =>
        obtain ⟨a, hattempt, -, -, rfl⟩ := Entry.move_eq_some_iff.mp h
        exact ⟨rfl, rfl, rfl, .inl (by rw [hattempt]; rfl)⟩
  all_goals
    obtain ⟨a, hattempt, -, -, rfl⟩ := h
    exact ⟨rfl, rfl, rfl, .inl (by rw [hattempt]; rfl)⟩

/-- An update of one entry keeps the store coherent if the new entry is coherent, is the only one
of its identity and has the only attempt of its attempt ID. -/
theorem Coherent.update (h : s.Coherent) {k : UUID} {e : Entry}
    (hid : e.processing.processingId = k) (hentry : e.Coherent)
    (hattempt : ∀ k' e', k' ≠ k → s k' = some e' → e.attempt.isSome = true →
      e.attempt.map (·.attemptId) ≠ e'.attempt.map (·.attemptId))
    (hidentity : ∀ k' e', k' ≠ k → s k' = some e' →
      ¬ (e'.processing.idempotencyScope = e.processing.idempotencyScope ∧
        e'.processing.idempotencyKey = e.processing.idempotencyKey)) :
    Coherent (Function.update s k (some e)) := by
  have hcases : ∀ k' e', Function.update s k (some e) k' = some e' →
      (k' = k ∧ e' = e) ∨ (k' ≠ k ∧ s k' = some e') := by
    intro k' e' h'
    by_cases hk : k' = k
    · subst hk
      simp only [Function.update_self, Option.some.injEq] at h'
      exact .inl ⟨rfl, h'.symm⟩
    · rw [Function.update_of_ne hk] at h'
      exact .inr ⟨hk, h'⟩
  constructor
  · intro k' e' h'
    rcases hcases k' e' h' with ⟨rfl, rfl⟩ | ⟨-, h'⟩
    · exact hid
    · exact h.id k' e' h'
  · intro k' e' h'
    rcases hcases k' e' h' with ⟨rfl, rfl⟩ | ⟨-, h'⟩
    · exact hentry
    · exact h.entry k' e' h'
  · intro k₁ e₁ k₂ e₂ h₁ h₂ hsome hsame
    rcases hcases k₁ e₁ h₁ with ⟨rfl, rfl⟩ | ⟨hk₁, h₁'⟩ <;>
      rcases hcases k₂ e₂ h₂ with ⟨rfl, rfl⟩ | ⟨hk₂, h₂'⟩
    · rfl
    · exact absurd hsame (hattempt k₂ e₂ hk₂ h₂' hsome)
    · refine absurd hsame.symm (hattempt k₁ e₁ hk₁ h₁' ?_)
      rw [← Option.isSome_map, ← hsame, Option.isSome_map]
      exact hsome
    · exact h.attempts k₁ e₁ k₂ e₂ h₁' h₂' hsome hsame
  · intro k₁ e₁ k₂ e₂ h₁ h₂ hscope hkey
    rcases hcases k₁ e₁ h₁ with ⟨rfl, rfl⟩ | ⟨hk₁, h₁'⟩ <;>
      rcases hcases k₂ e₂ h₂ with ⟨rfl, rfl⟩ | ⟨hk₂, h₂'⟩
    · rfl
    · exact absurd ⟨hscope.symm, hkey.symm⟩ (hidentity k₂ e₂ hk₂ h₂')
    · exact absurd ⟨hscope, hkey⟩ (hidentity k₁ e₁ hk₁ h₁')
    · exact h.identities k₁ e₁ k₂ e₂ h₁' h₂' hscope hkey

/-- **Coherence is an invariant of the store.** -/
theorem Moves.coherent (h : s.Moves now c s') (hcoherent : s.Coherent) (hfits : s.Fits c) :
    s'.Coherent := by
  cases h with
  | @accept processingId alert scope key version digest hfresh hnew =>
      refine hcoherent.update rfl (Entry.accepted_coherent ..) (fun _ _ _ _ h => ?_)
        fun k e _ he => hnew k e he
      simp [Entry.accepted] at h
  | @advance _ k e e' hentry hadvance hfresh =>
      obtain ⟨hid, hscope, hkey, hattempt⟩ := advance_keeps hadvance
      refine hcoherent.update (hid.trans (hcoherent.id k e hentry))
        (Entry.advance_coherent (hcoherent.entry k e hentry)
          (hfits k e hentry (Entry.concerns_of_advance hadvance)) hadvance) ?_ ?_
      · intro k' e₂ hne he₂ hsome hsame
        rcases hattempt with hattempt | ⟨_, _, _, _, _, a, _, rfl, hattempt⟩
        · rw [hattempt] at hsame
          refine hne (hcoherent.attempts k e k' e₂ hentry he₂ ?_ hsame).symm
          rw [← Option.isSome_map, ← hattempt, Option.isSome_map]
          exact hsome
        · exact hfresh k' e₂ he₂ (hsame.symm.trans hattempt)
      · rintro k' e₂ hne he₂ ⟨hscope', hkey'⟩
        exact hne (hcoherent.identities k' e₂ k e he₂ hentry (hscope'.trans hscope)
          (hkey'.trans hkey))

/-- A lifecycle operation is about one entry. -/
theorem Coherent.concerned_unique {s : Store} {c : RepositoryCall} {k k' : UUID} {e e' : Entry}
    (hs : s.Coherent) (hc : c.isLifecycle = true) (he : s k = some e) (he' : s k' = some e')
    (hconcerns : c.Concerns e) (hconcerns' : c.Concerns e') : k = k' := by
  have hprocessing : ∀ id, e.processing.processingId = id → e'.processing.processingId = id →
      k = k' := by
    intro id hid hid'
    rw [← hs.id k e he, ← hs.id k' e' he', hid, hid']
  have hattempt : ∀ id, e.attempt.map (·.attemptId) = some id →
      e'.attempt.map (·.attemptId) = some id → k = k' := by
    intro id hid hid'
    refine hs.attempts k e k' e' he he' ?_ (hid.trans hid'.symm)
    rw [← Option.isSome_map, hid]
    rfl
  cases c with
  | storeNoActionResult | storePlan | failProcessing => exact hprocessing _ hconcerns hconcerns'
  | claimAttemptForSubmission | markAttemptSubmitted | recordPoll | completeProcessing
  | markRecoveryRequired => exact hattempt _ hconcerns hconcerns'
  | acceptProcessing | get | getAttemptForProcessing | findReconcilable => cases hc

/-- A call moves no two entries. -/
theorem Coherent.advance_unique {s : Store} {c : RepositoryCall} {k k' : UUID} {e e' e₁ e₁' : Entry}
    {now now' : Int} (hs : s.Coherent) (he : s k = some e) (he' : s k' = some e')
    (h : e.advance now c = some e₁) (h' : e'.advance now' c = some e₁') : k = k' := by
  refine hs.concerned_unique ?_ he he' (Entry.concerns_of_advance h) (Entry.concerns_of_advance h')
  cases c <;> first | rfl | cases h

end Store

/-! ### The law of a repository -/

namespace RepositoryCall

/-- The records and attempts of an answer are what is durable after the call. -/
structure Reports (s : Store) (c : RepositoryCall) (x : c.Result) : Prop where
  records : ∀ r ∈ c.records x, ∃ e, s r.processingId = some e ∧
    e.processing = r.toProcessingFields.durable ∧ c.Concerns e
  attempts : ∀ a ∈ c.attempts x, ∃ e, s a.processingId = some e ∧
    e.attempt = some a.toAttemptFields.durable ∧ c.Concerns e

/-- Whether an answer says that the call has changed the store. -/
def wrote : (c : RepositoryCall) → c.Result → Bool
  | acceptProcessing .., acceptance => acceptance.created
  | get _, _ | getAttemptForProcessing _, _ | findReconcilable .., _ => false
  | storeNoActionResult .., updated => updated.isSome
  | storePlan .., planned => planned.isSome
  | claimAttemptForSubmission _, updated => updated.isSome
  | markAttemptSubmitted .., updated => updated.isSome
  | recordPoll .., updated => updated.isSome
  | completeProcessing .., updated => updated.isSome
  | failProcessing .., updated => updated.isSome
  | markRecoveryRequired .., updated => updated.isSome

end RepositoryCall

/-- Whether `find_reconcilable` looks for an entry. -/
def Entry.Reconcilable (e : Entry) (staleBefore : Int) : Prop :=
  e.processing.state ∈ [ProcessingState.accepted, .planned, .submitted] ∨
    (e.processing.state = .submitting ∧
      ∃ a t, e.attempt = some a ∧ a.startedAt = some t ∧ t.instant ≤ staleBefore)

namespace Store

/-- The order in which `find_reconcilable` answers. -/
def Precedes (s : Store) (k k' : UUID) : Prop :=
  ∀ e e', s k = some e → s k' = some e' →
    e.processing.updatedAt.instant < e'.processing.updatedAt.instant ∨
      (e.processing.updatedAt.instant = e'.processing.updatedAt.instant ∧ k ≤ k')

/-- The answer of `find_reconcilable`: the first of all reconcilable processings in order. -/
def Found (s : Store) (limit : Int) (staleBefore : Int) (ids : List UUID) : Prop :=
  ∃ all : List UUID, all.Nodup ∧ all.Pairwise s.Precedes ∧
    (∀ k, k ∈ all ↔ ∃ e, s k = some e ∧ e.Reconcilable staleBefore) ∧
    ids = all.take limit.toNat

/-- A read answers with everything there is to read. -/
def Complete (s : Store) : (c : RepositoryCall) → c.Result → Prop
  | .get processingId, found => found = none → s processingId = none
  | .getAttemptForProcessing processingId, found =>
      found = none → ∀ e, s processingId = some e → e.attempt = none
  | .findReconcilable limit staleBefore, records =>
      s.Found limit staleBefore.instant (records.map (·.processingId))
  | _, _ => True

/-- The law of one call, made at time `now`. -/
structure Lawful (s : Store) (now : Int) (c : RepositoryCall) (r : Except PyError c.Result)
    (s' : Store) : Prop where
  changes : s' = s ∨ s.Moves now c s'
  reports : ∀ x, r = .ok x → c.Reports s' x
  wrote : ∀ x, r = .ok x → c.wrote x = true → s.Moves now c s'
  refused : ∀ x, r = .ok x → c.wrote x = false →
    s' = s ∧ ∀ k e, s k = some e → e.advance now c = none
  complete : ∀ x, r = .ok x → s.Complete c x

variable {s s' : Store} {now : Int} {c : RepositoryCall} {r : Except PyError c.Result}

theorem Lawful.coherent (h : s.Lawful now c r s') (hcoherent : s.Coherent) (hfits : s.Fits c) :
    s'.Coherent := by
  rcases h.changes with rfl | hmoves
  · exact hcoherent
  · exact hmoves.coherent hcoherent hfits

theorem Lawful.evolves (h : s.Lawful now c r s') (hcoherent : s.Coherent) (hfits : s.Fits c) :
    s.EvolvesTo s' := by
  rcases h.changes with rfl | hmoves
  · exact .refl _
  · exact hmoves.evolves hcoherent hfits

/-- A call that raises without having changed anything keeps the law. -/
theorem Lawful.raised (s : Store) (now : Int) (c : RepositoryCall) (e : PyError) :
    s.Lawful now c (.error e) s := by
  refine ⟨.inl rfl, ?_, ?_, ?_, ?_⟩ <;> rintro x ⟨⟩

/-- So does a call that raises after its change. -/
theorem Lawful.raisedLate (h : s.Lawful now c r s') (e : PyError) :
    s.Lawful now c (.error e) s' := by
  refine ⟨h.changes, ?_, ?_, ?_, ?_⟩ <;> rintro x ⟨⟩

/-- A read that reports what is there keeps the law. -/
theorem Lawful.read {x : c.Result} (hreports : c.Reports s x) (hwrote : c.wrote x = false)
    (hrefused : ∀ k e, s k = some e → e.advance now c = none) (hcomplete : s.Complete c x) :
    s.Lawful now c (.ok x) s where
  changes := .inl rfl
  reports := by
    rintro _ ⟨⟩
    exact hreports
  wrote := by
    rintro _ ⟨⟩ htrue
    rw [hwrote] at htrue
    cases htrue
  refused := fun _ _ _ => ⟨rfl, hrefused⟩
  complete := by
    rintro _ ⟨⟩
    exact hcomplete

/-- So does a change that is reported as it was made. -/
theorem Lawful.moved {x : c.Result} {k : UUID} {e : Entry} (hmoves : s.Moves now c s')
    (hcoherent : s'.Coherent) (hself : s' k = some e) (hconcerns : c.Concerns e)
    (hwrote : c.wrote x = true) (hcomplete : s.Complete c x)
    (hrecords : ∀ y ∈ c.records x, y.toProcessingFields.durable = e.processing)
    (hattempts : ∀ y ∈ c.attempts x, e.attempt = some y.toAttemptFields.durable) :
    s.Lawful now c (.ok x) s' where
  changes := .inr hmoves
  reports := by
    rintro _ ⟨⟩
    constructor
    · intro y hy
      have hid : y.processingId = k := by
        rw [← hcoherent.id k e hself, ← hrecords y hy]
        rfl
      exact ⟨e, by rw [hid, hself], (hrecords y hy).symm, hconcerns⟩
    · intro y hy
      obtain ⟨q, b, -, hserves⟩ := (hcoherent.entry k e hself).executing (hattempts y hy)
      have hid : y.processingId = k := hserves.processing.trans (hcoherent.id k e hself)
      exact ⟨e, by rw [hid, hself], hattempts y hy, hconcerns⟩
  wrote := fun _ _ _ => hmoves
  refused := by
    rintro _ ⟨⟩ hfalse
    rw [hwrote] at hfalse
    cases hfalse
  complete := by
    rintro _ ⟨⟩
    exact hcomplete

end Store

/-- A repository whose state stands for a store and whose calls keep the law on it. -/
structure LawfulRepository {σ : Type} (M : Repository σ) where
  view : σ → Store
  Good : σ → Prop
  good_init : Good M.init
  view_init : view M.init = fun _ => none
  coherent : ∀ {s}, Good s → (view s).Coherent
  good_step : ∀ {s c r s'}, Good s → (view s).Fits c → M.step s c r s' → Good s'
  lawful : ∀ {s c r s'}, Good s → (view s).Fits c → M.step s c r s' →
    ∃ now, (view s).Lawful now c r (view s')

/-- A repository that keeps more than a lawful one, and steps as it does, is lawful. -/
def LawfulRepository.comap {σ τ : Type} {M : Repository σ} {M' : Repository τ}
    (L : LawfulRepository M) (f : τ → σ) (hinit : f M'.init = M.init)
    (hstep : ∀ {s c r s'}, M'.step s c r s' → M.step (f s) c r (f s')) :
    LawfulRepository M' where
  view s := L.view (f s)
  Good s := L.Good (f s)
  good_init := by
    rw [hinit]
    exact L.good_init
  view_init := by
    rw [hinit]
    exact L.view_init
  coherent hgood := L.coherent hgood
  good_step hgood hfits hs := L.good_step hgood hfits (hstep hs)
  lawful hgood hfits hs := L.lawful hgood hfits (hstep hs)

end Alert2IR
