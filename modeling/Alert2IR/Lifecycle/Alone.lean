import Mathlib.Algebra.Order.Ring.Rat
import Alert2IR.Interleaving.Alone
import Alert2IR.Lifecycle.Runs

/-!
# A processor by itself

While one processor is alone with a repository that does not raise, every operation on an entry in a
state it expects moves the entry, and every read is up to date. The rules below run its procedures
against the store itself.
-/

namespace Alert2IR

open Interleaving

/-- Reads of the repository. -/
def RepositoryCall.isRead : RepositoryCall → Bool
  | .get _ | .getAttemptForProcessing _ | .findReconcilable .. => true
  | _ => false

/-- Calls that neither change the store nor submit. -/
def Call.isPassive : Call → Bool
  | .repository c => c.isRead
  | .submit .. => false
  | _ => true

/-- Every operation stamps the record with the time it was made at. -/
theorem Entry.updatedAt_of_advance {now : Int} {c : RepositoryCall} {e e' : Entry}
    (h : e.advance now c = some e') : e'.processing.updatedAt = .ofInstant now := by
  cases c <;> simp only [advance, reduceCtorEq, Option.ite_none_right_eq_some,
    move_eq_some_iff] at h
  case storeNoActionResult | storePlan =>
    obtain ⟨-, heq⟩ := h
    cases heq
    rfl
  case failProcessing k expected category detail attemptId =>
    obtain ⟨-, h⟩ := h
    cases attemptId with
    | none =>
        cases h
        rfl
    | some attemptId =>
        obtain ⟨a, -, -, -, rfl⟩ := move_eq_some_iff.mp h
        rfl
  all_goals
    obtain ⟨a, -, -, -, rfl⟩ := h
    rfl

namespace Store

variable {s s' : Store} {now : Int} {c : RepositoryCall} {k : UUID} {e : Entry}

theorem Lawful.unchanged {r : Except PyError c.Result} (h : s.Lawful now c r s')
    (hread : c.isRead = true) : s' = s := by
  rcases h.changes with hsame | hmoves
  · exact hsame
  · cases hmoves with
    | accept => cases hread
    | advance _ hadvance _ =>
        cases c <;> first | cases hadvance | cases hread

/-- An operation that does not raise moves the entry it finds in a state it expects. -/
theorem Lawful.moves {x : c.Result} (h : s.Lawful now c (.ok x) s') (hs : s.Coherent)
    (he : s k = some e) (hadvance : (e.advance now c).isSome = true) :
    ∃ e', e.advance now c = some e' ∧ c.wrote x = true ∧
      s' = Function.update s k (some e') := by
  obtain ⟨e', he'⟩ := Option.isSome_iff_exists.mp hadvance
  have hwrote : c.wrote x = true := by
    by_contra hfalse
    have hrefused := (h.refused x rfl (by simpa using hfalse)).2 k e he
    rw [hrefused] at he'
    cases he'
  refine ⟨e', he', hwrote, ?_⟩
  cases h.wrote x rfl hwrote with
  | accept => cases he'
  | advance hentry hmoved _ =>
      obtain rfl := hs.advance_unique he hentry he' hmoved
      obtain rfl := Option.some.inj (he.symm.trans hentry)
      obtain rfl := Option.some.inj (he'.symm.trans hmoved)
      rfl

/-- A reading of the clock before the deadline. -/
def InTime (deadline : Option Rat) (m : Rat) : Prop := ∀ d ∈ deadline, m < d

/-- What a call of a lone processor does to the store. The repository does not raise and answers at
a time of `Clock`, and no reading of the clock comes after the deadline. -/
def Calm (Clock : Store → Int → Prop) (deadline : Option Rat) (s : Store) :
    (c : Call) → c.Response → Store → Prop
  | .repository c, r, s' => s.Fits c ∧ ∃ x now, r = .ok x ∧ Clock s now ∧ s.Lawful now c (.ok x) s'
  | .monotonic, m, s' => s' = s ∧ InTime deadline m
  | _, _, s' => s' = s

variable {Clock : Store → Int → Prop} {deadline : Option Rat} {A : UUID → Prop} {α β : Type}

/-- What a lone processor comes to that submits none but the processings of `A`. -/
abbrev Alone (Clock : Store → Int → Prop) (deadline : Option Rat) (A : UUID → Prop) (s : Store)
    (p : Proc α) (Q : Except PyError α → Store → Prop) : Prop :=
  Interleaving.Proc.wp (Calm Clock deadline) (fun _ c => ∀ k ∈ c.submits, A k) Q p s

theorem alone_bind {p : Proc α} {f : α → Proc β} {Q : Except PyError β → Store → Prop}
    {Q₁ : Except PyError α → Store → Prop} (hp : s.Alone Clock deadline A p Q₁)
    (hok : ∀ a s', Q₁ (.ok a) s' → s'.Alone Clock deadline A (f a) Q)
    (herror : ∀ e s', Q₁ (.error e) s' → Q (.error e) s') :
    s.Alone Clock deadline A (p >>= f) Q := by
  refine (Interleaving.Proc.wp_bind ..).mpr (Interleaving.Proc.wp_mono hp fun r s' hr => ?_)
  cases r with
  | ok a => exact hok a s' hr
  | error e => exact herror e s' hr

theorem calm_of_isPassive {c : Call} {r : c.Response} (hc : c.isPassive = true)
    (hcalm : s.Calm Clock deadline c r s') : s' = s := by
  cases c with
  | repository c =>
      obtain ⟨-, x, now, -, -, hlawful⟩ := hcalm
      exact hlawful.unchanged hc
  | monotonic => exact hcalm.1
  | submit => cases hc
  | _ => exact hcalm

theorem not_submits_of_isPassive {c : Call} (hc : c.isPassive = true) : ∀ k ∈ c.submits, A k := by
  intro k hk
  cases c with
  | submit => cases hc
  | _ => cases hk

/-- A procedure that only reads leaves the store as it is. -/
theorem alone_of_only {p : Proc α} {Q : Except PyError α → Store → Prop}
    (hp : Interleaving.Proc.Only (fun c => c.isPassive = true) p) (hend : ∀ r, Q r s) :
    s.Alone Clock deadline A p Q :=
  Prog.wp_of_only hp (fun _ => not_submits_of_isPassive)
    (fun _ _ _ hc hcalm => calm_of_isPassive hc hcalm) hend

theorem alone_repository_iff {Q : Except PyError c.Result → Store → Prop} :
    s.Alone Clock deadline A (Proc.repository c) Q ↔
      ∀ x now s', s.Fits c → Clock s now → s.Lawful now c (.ok x) s' → Q (.ok x) s' := by
  constructor
  · intro halone x now s' hfits hclock hlawful
    exact halone.2 (.ok x) s' ⟨hfits, x, now, rfl, hclock, hlawful⟩
  · intro hend
    have hcalls : ∀ (r : Except PyError c.Result) s',
        s.Calm Clock deadline (.repository c) r s' → Q r s' := by
      intro r s' hcalm
      obtain ⟨hfits, x, now, rfl, hclock, hlawful⟩ : s.Fits c ∧ ∃ x now, r = .ok x ∧ Clock s now ∧
        s.Lawful now c (.ok x) s' := hcalm
      exact hend x now s' hfits hclock hlawful
    exact ⟨fun k hk => (by cases hk), hcalls⟩

/-- An operation on an entry in a state it expects. -/
theorem alone_move {Q : Except PyError c.Result → Store → Prop} (hs : s.Coherent)
    (he : s k = some e) (hadvance : ∀ now, (e.advance now c).isSome = true)
    (hend : ∀ now x e', Clock s now → e.advance now c = some e' → c.wrote x = true →
      Coherent (Function.update s k (some e')) → c.Reports (Function.update s k (some e')) x →
      Q (.ok x) (Function.update s k (some e'))) :
    s.Alone Clock deadline A (Proc.repository c) Q := by
  refine alone_repository_iff.mpr fun x now s' hfits hclock hlawful => ?_
  have hs' := hlawful.coherent hs hfits
  have hreports := hlawful.reports x rfl
  obtain ⟨e', he', hwrote, rfl⟩ := hlawful.moves hs he (hadvance now)
  exact hend now x e' hclock he' hwrote hs' hreports

/-- The record of an entry, read while nobody else is at work. -/
theorem alone_get {Q : Except PyError (Option ProcessingRecord) → Store → Prop} (hs : s.Coherent)
    (he : s k = some e) (hend : ∀ r : ProcessingRecord, r.processingId = k →
      e.processing = r.toProcessingFields.durable → Q (.ok (some r)) s) :
    s.Alone Clock deadline A (Proc.repository (.get k)) Q := by
  refine alone_repository_iff.mpr fun x now s' hfits hclock hlawful => ?_
  obtain rfl := hlawful.unchanged rfl
  cases x with
  | none =>
      rw [hlawful.complete none rfl rfl] at he
      cases he
  | some r =>
      obtain ⟨e', he', hdurable, hconcerns⟩ :=
        (hlawful.reports (some r) rfl).records r (List.mem_singleton.mpr rfl)
      have hid : r.processingId = k := (hs.id _ _ he').symm.trans hconcerns
      rw [hid] at he'
      obtain rfl := Option.some.inj (he.symm.trans he')
      exact hend r hid hdurable

/-! ### Rules that leave the store as it is -/

section Still

variable {Q : Except PyError α → Store → Prop}

/-- A handler goes on with what its body returned or raised. -/
theorem alone_catching_iff {p : Proc β} {f : Except PyError β → Proc α} :
    s.Alone Clock deadline A (Interleaving.Proc.catching p >>= f) Q ↔
      s.Alone Clock deadline A p fun r s' => s'.Alone Clock deadline A (f r) Q :=
  (Interleaving.Proc.wp_bind ..).trans (Interleaving.Proc.wp_catching ..)

/-- A handler around a repository that does not raise does nothing. -/
theorem alone_catching {f : Except PyError c.Result → Proc α}
    (hworks : s.Alone Clock deadline A (Proc.repository c >>= fun x => f (.ok x)) Q) :
    s.Alone Clock deadline A (Interleaving.Proc.catching (Proc.repository c) >>= f) Q := by
  refine ⟨hworks.1, fun r s' hcalm => ?_⟩
  have hgoes := hworks.2 r s' hcalm
  obtain ⟨-, x, now, rfl, -⟩ : s.Fits c ∧ ∃ x now, r = .ok x ∧ Clock s now ∧
    s.Lawful now c (.ok x) s' := hcalm
  exact hgoes

/-- A call that changes nothing and cannot raise. -/
theorem alone_perform {c : Call} {f : c.Response → Proc α} (hc : c.isPassive = true)
    (hworks : ∀ r, s.Alone Clock deadline A (f r) Q) :
    s.Alone Clock deadline A ((Interleaving.Proc.perform c : Proc (Call.Response c)) >>= f) Q := by
  refine ⟨not_submits_of_isPassive hc, fun r s' hcalm => ?_⟩
  obtain rfl := calm_of_isPassive hc hcalm
  exact hworks r

/-- A read, whatever it answers. -/
theorem alone_read {f : c.Result → Proc α} (hc : c.isRead = true)
    (hworks : ∀ x, s.Alone Clock deadline A (f x) Q) :
    s.Alone Clock deadline A (Proc.repository c >>= f) Q := by
  have hread : s.Alone Clock deadline A (Proc.repository c) fun r s' => s' = s ∧ ∃ x, r = .ok x :=
    alone_repository_iff.mpr fun x now s' _ _ hlawful => ⟨hlawful.unchanged hc, x, rfl⟩
  apply alone_bind hread
  · rintro x s' ⟨rfl, -⟩
    exact hworks x
  · rintro e s' ⟨-, x, hx⟩
    cases hx

/-- Whatever changes nothing, if its exceptions are handled. -/
theorem alone_catching_still {p : Proc β} {f : Except PyError β → Proc α}
    (hp : s.Alone Clock deadline A p fun _ s' => s' = s)
    (hworks : ∀ r, s.Alone Clock deadline A (f r) Q) :
    s.Alone Clock deadline A (Interleaving.Proc.catching p >>= f) Q := by
  refine alone_catching_iff.mpr (Interleaving.Proc.wp_mono hp ?_)
  rintro r s' rfl
  exact hworks r

/-- Whatever only reads, changes nothing. -/
theorem alone_catching_passive {p : Proc β} {f : Except PyError β → Proc α}
    (hp : Interleaving.Proc.Only (fun c => c.isPassive = true) p)
    (hworks : ∀ r, s.Alone Clock deadline A (f r) Q) :
    s.Alone Clock deadline A (Interleaving.Proc.catching p >>= f) Q :=
  alone_catching_still (alone_of_only hp fun _ => rfl) hworks

/-- The deadline is not reached. -/
theorem alone_remaining {f : Option Rat → Proc α}
    (hworks : ∀ budget, PersistentAlertProcessor.exhausted budget = false →
      s.Alone Clock deadline A (f budget) Q) :
    s.Alone Clock deadline A
      (PersistentAlertProcessor.remainingReconciliationSeconds deadline >>= f) Q := by
  cases deadline with
  | none => exact hworks none rfl
  | some d =>
      have hbudget : ∀ m : Rat, m < d →
          PersistentAlertProcessor.exhausted (some (d - m)) = false := by
        intro m hlt
        rw [PersistentAlertProcessor.exhausted, decide_eq_false_iff_not, not_le, sub_pos]
        exact hlt
      refine ⟨fun k hk => (by cases hk), fun m s' hcalm => ?_⟩
      obtain ⟨rfl, hearly⟩ := hcalm
      exact hworks _ (hbudget m (hearly d rfl))

/-- The record is read as it is. -/
theorem alone_reread {f : ProcessingRecord → Proc α} (hs : s.Coherent) (he : s k = some e)
    (hworks : ∀ r : ProcessingRecord, r.processingId = k →
      e.processing = r.toProcessingFields.durable → s.Alone Clock deadline A (f r) Q) :
    s.Alone Clock deadline A (PersistentAlertProcessor.reread k >>= f) Q := by
  have hread : s.Alone Clock deadline A (PersistentAlertProcessor.reread k) fun r s' =>
      s' = s ∧ ∃ r₀, r = .ok r₀ ∧ r₀.processingId = k ∧
        e.processing = r₀.toProcessingFields.durable := by
    have hget : s.Alone Clock deadline A (Proc.repository (.get k)) fun x s' => s' = s ∧
        ∃ r₀ : ProcessingRecord, x = .ok (some r₀) ∧ r₀.processingId = k ∧
          e.processing = r₀.toProcessingFields.durable :=
      alone_get hs he fun r hid hdurable => ⟨rfl, r, rfl, hid, hdurable⟩
    apply alone_bind hget
    · rintro x s' ⟨rfl, r, hx, hr⟩
      cases hx
      exact ⟨rfl, r, rfl, hr⟩
    · rintro e s' ⟨-, r, hx, -⟩
      cases hx
  apply alone_bind hread
  · rintro r s' ⟨rfl, r₀, hr, hid, hdurable⟩
    cases hr
    exact hworks r hid hdurable
  · rintro e s' ⟨-, r₀, hr, -⟩
    cases hr

/-- The attempt is read as it is. -/
theorem alone_getAttempt {f : Option ExecutionAttempt → Proc α} (hs : s.Coherent)
    (he : s k = some e) {b : AttemptFields} (hb : e.attempt = some b)
    (hworks : ∀ a : ExecutionAttempt, b = a.toAttemptFields.durable →
      s.Alone Clock deadline A (f (some a)) Q) :
    s.Alone Clock deadline A (Proc.repository (.getAttemptForProcessing k) >>= f) Q := by
  have hread : s.Alone Clock deadline A (Proc.repository (.getAttemptForProcessing k))
      fun r s' => s' = s ∧ ∃ a : ExecutionAttempt, r = .ok (some a) ∧
        b = a.toAttemptFields.durable := by
    refine alone_repository_iff.mpr fun x now s' hfits hclock hlawful => ?_
    obtain rfl := hlawful.unchanged rfl
    refine ⟨rfl, ?_⟩
    cases x with
    | none =>
        rw [hlawful.complete none rfl rfl e he] at hb
        cases hb
    | some a =>
        obtain ⟨e', he', hdurable, hconcerns⟩ :=
          (hlawful.reports (some a) rfl).attempts a (List.mem_singleton.mpr rfl)
        have hid : a.processingId = k := (hs.id _ _ he').symm.trans hconcerns
        rw [hid] at he'
        obtain rfl := Option.some.inj (he.symm.trans he')
        exact ⟨a, rfl, Option.some.inj (hb.symm.trans hdurable)⟩
  apply alone_bind hread
  · rintro x s' ⟨rfl, a, hx, ha⟩
    cases hx
    exact hworks a ha
  · rintro e s' ⟨-, a, hx, -⟩
    cases hx

end Still

/-! ### An entry that has been worked on -/

/-- The entry of `k` has been worked on and nothing else, and is left in a way that `T` says,
stamped with a time of the clock. -/
def Worked (Clock : Store → Int → Prop) (T : Entry → Prop) (k : UUID) (s s' : Store) : Prop :=
  ∃ e₁ e now, s' = Function.update s k (some e) ∧ T e ∧
    Clock (Function.update s k (some e₁)) now ∧ e.processing.updatedAt = .ofInstant now

variable {T T' : Entry → Prop}

theorem Worked.of_update {e₁ : Entry}
    (hworked : Worked Clock T k (Function.update s k (some e₁)) s') : s.Worked Clock T k s' := by
  obtain ⟨e₂, e, now, rfl, hT, hclock, hupdated⟩ := hworked
  rw [Function.update_idem] at hclock
  exact ⟨e₂, e, now, Function.update_idem .., hT, hclock, hupdated⟩

theorem Worked.mono (hworked : s.Worked Clock T k s') (himp : ∀ e, T e → T' e) :
    s.Worked Clock T' k s' := by
  obtain ⟨e₁, e, now, hs', hT, hrest⟩ := hworked
  exact ⟨e₁, e, now, hs', himp e hT, hrest⟩

/-- A lone processor's work on one entry, whatever it returns or raises. -/
abbrev WorksOn (Clock : Store → Int → Prop) (deadline : Option Rat) (A : UUID → Prop)
    (T : Entry → Prop) (k : UUID) (s : Store) (p : Proc α) : Prop :=
  s.Alone Clock deadline A p fun _ s' => s'.Coherent ∧ s.Worked Clock T k s'

theorem WorksOn.mono {p : Proc α} (hworks : s.WorksOn Clock deadline A T k p)
    (himp : ∀ e, T e → T' e) : s.WorksOn Clock deadline A T' k p :=
  Interleaving.Proc.wp_mono hworks fun _ _ hend => ⟨hend.1, hend.2.mono himp⟩

/-- Work that goes on after a first operation. -/
theorem worksOn_move {f : c.Result → Proc α} (hs : s.Coherent) (he : s k = some e)
    (hadvance : ∀ now, (e.advance now c).isSome = true)
    (hrest : ∀ now x e', Clock s now → e.advance now c = some e' → c.wrote x = true →
      Coherent (Function.update s k (some e')) → c.Reports (Function.update s k (some e')) x →
      WorksOn Clock deadline A T k (Function.update s k (some e')) (f x)) :
    s.WorksOn Clock deadline A T k (Proc.repository c >>= f) := by
  have hfirst : s.Alone Clock deadline A (Proc.repository c) fun r s' =>
      ∃ x, r = .ok x ∧ s'.Alone Clock deadline A (f x) fun _ s'' =>
        s''.Coherent ∧ s.Worked Clock T k s'' := by
    refine alone_move hs he hadvance fun now x e' hclock he' hwrote hs' hreports => ⟨x, rfl, ?_⟩
    refine Interleaving.Proc.wp_mono (hrest now x e' hclock he' hwrote hs' hreports) ?_
    exact fun r s'' hend => ⟨hend.1, hend.2.of_update⟩
  apply alone_bind hfirst
  · rintro a s' ⟨_, hx, hf⟩
    cases hx
    exact hf
  · rintro e s' ⟨_, hx, -⟩
    cases hx

/-- Work that ends with an operation. -/
theorem worksOn_last {f : c.Result → Proc α} (hs : s.Coherent) (he : s k = some e)
    (hadvance : ∀ now, (e.advance now c).isSome = true)
    (hT : ∀ now e', e.advance now c = some e' → T e')
    (hrest : ∀ x, Interleaving.Proc.Only (fun c => c.isPassive = true) (f x)) :
    s.WorksOn Clock deadline A T k (Proc.repository c >>= f) := by
  have hfirst : s.Alone Clock deadline A (Proc.repository c) fun r s' =>
      (∃ x, r = .ok x) ∧ s'.Coherent ∧ s.Worked Clock T k s' := by
    refine alone_move hs he hadvance fun now x e' hclock he' hwrote hs' hreports => ?_
    refine ⟨⟨x, rfl⟩, hs', e, e', now, rfl, hT now e' he', ?_, Entry.updatedAt_of_advance he'⟩
    rwa [← he, Function.update_eq_self]
  apply alone_bind hfirst
  · rintro a s' ⟨-, hend⟩
    exact alone_of_only (hrest a) fun _ => hend
  · rintro e s' ⟨⟨_, hx⟩, -⟩
    cases hx

/-- Work after which there is only reading. -/
theorem worksOn_then {p : Proc β} {f : β → Proc α} (hp : s.WorksOn Clock deadline A T k p)
    (hf : ∀ b, Interleaving.Proc.Only (fun c => c.isPassive = true) (f b)) :
    s.WorksOn Clock deadline A T k (p >>= f) :=
  alone_bind hp (fun b _ hend => alone_of_only (hf b) fun _ => hend) fun _ _ hend => hend

end Store

end Alert2IR
