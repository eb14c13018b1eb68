import Alert2IR.Lifecycle.Store
import Alert2IR.Persistence.MemoryOutcomes

/-!
# The in-memory repository keeps the law

Over a non-decreasing timezone-aware clock. No update of two dicts is ever abandoned between them:
whatever can raise has been computed by then.
-/

namespace Alert2IR

namespace Memory

variable {m m' : Memory} {s : Store} {time : Int} {now : Datetime} {c : RepositoryCall}

/-- The attempt of a processing. -/
def attemptOf (m : Memory) (k : UUID) : Option ExecutionAttempt :=
  (m.attemptByProcessing.lookup k).bind m.attempts.lookup

/-- The store the dicts stand for. -/
def view (m : Memory) : Store := fun k =>
  (m.records.lookup k).map fun r =>
    ⟨r.toProcessingFields.durable, (m.attemptOf k).map fun a => a.toAttemptFields.durable⟩

/-- How the dicts fit together, and the records precede the clock. -/
structure Kept (m : Memory) (time : Int) : Prop where
  attempt : ∀ a x, m.attempts.lookup a = some x →
    x.attemptId = a ∧ m.attemptByProcessing.lookup x.processingId = some a
  owner : ∀ k a, m.attemptByProcessing.lookup k = some a →
    (m.records.lookup k).isSome = true ∧ ∃ x, m.attempts.lookup a = some x ∧ x.processingId = k
  identity : ∀ scope key k, m.idempotency.lookup (scope, key) = some k ↔
    ∃ r, m.records.lookup k = some r ∧ r.idempotencyScope = some scope ∧
      r.idempotencyKey = some key
  timely : ∀ k r, m.records.lookup k = some r → r.updatedAt.instant ≤ time

theorem Kept.empty (time : Int) : Kept empty time := by
  constructor <;> simp [Memory.empty]

theorem Kept.later {later : Int} (h : m.Kept time) (hlater : time ≤ later) : m.Kept later :=
  { h with timely := fun k r hr => (h.timely k r hr).trans hlater }

theorem view_empty : view empty = fun _ => none := by
  funext k
  simp [view, Memory.empty]

theorem view_eq_some_iff {k : UUID} {e : Entry} : m.view k = some e ↔
    ∃ r, m.records.lookup k = some r ∧ e.processing = r.toProcessingFields.durable ∧
      e.attempt = (m.attemptOf k).map fun a => a.toAttemptFields.durable := by
  obtain ⟨p, a⟩ := e
  simp [view, eq_comm]

theorem view_of_lookup {k : UUID} {r : ProcessingRecord} (hr : m.records.lookup k = some r) :
    m.view k = some ⟨r.toProcessingFields.durable,
      (m.attemptOf k).map fun a => a.toAttemptFields.durable⟩ := by
  rw [view, hr]
  rfl

theorem processingId_of_lookup (hs : m.view.Coherent) {k : UUID} {r : ProcessingRecord}
    (hr : m.records.lookup k = some r) : r.processingId = k :=
  hs.id k _ (view_of_lookup hr)

theorem Kept.attemptOf_eq (h : m.Kept time) {a : UUID} {x : ExecutionAttempt}
    (hx : m.attempts.lookup a = some x) : m.attemptOf x.processingId = some x := by
  rw [attemptOf, (h.attempt a x hx).2, Option.bind_some, hx]

theorem Kept.record_of_attempt (h : m.Kept time) {a : UUID} {x : ExecutionAttempt}
    (hx : m.attempts.lookup a = some x) : ∃ r, m.records.lookup x.processingId = some r :=
  Option.isSome_iff_exists.mp (h.owner _ _ (h.attempt a x hx).2).1

/-- The entry an attempt belongs to. -/
theorem Kept.view_of_attempt (h : m.Kept time) {a : UUID} {x : ExecutionAttempt}
    {r : ProcessingRecord} (hx : m.attempts.lookup a = some x)
    (hr : m.records.lookup x.processingId = some r) :
    m.view x.processingId = some ⟨r.toProcessingFields.durable,
      some x.toAttemptFields.durable⟩ := by
  rw [view_of_lookup hr, h.attemptOf_eq hx]
  rfl

/-- An entry with an attempt, in the dicts. -/
theorem Kept.lookup_of_view (h : m.Kept time) {k : UUID} {e : Entry}
    {b : AttemptFields} (he : m.view k = some e) (hb : e.attempt = some b) :
    ∃ x r, m.attempts.lookup b.attemptId = some x ∧ x.processingId = k ∧
      m.records.lookup k = some r ∧ e.processing = r.toProcessingFields.durable ∧
      b = x.toAttemptFields.durable := by
  obtain ⟨r, hr, hprocessing, hattempt⟩ := view_eq_some_iff.mp he
  rw [hb, eq_comm, Option.map_eq_some_iff] at hattempt
  obtain ⟨x, hx, rfl⟩ := hattempt
  obtain ⟨a, ha, hlookup⟩ := Option.bind_eq_some_iff.mp hx
  obtain ⟨hid, -⟩ := h.attempt a x hlookup
  obtain ⟨-, y, hy, hyk⟩ := h.owner k a ha
  obtain rfl := Option.some.inj (hlookup.symm.trans hy)
  refine ⟨x, r, ?_, hyk, hr, hprocessing, rfl⟩
  show m.attempts.lookup x.attemptId = some x
  rw [hid, hlookup]

/-- An attempt has ended exactly if its state says so. -/
theorem Kept.quiet (h : m.Kept time) (hs : m.view.Coherent) : m.Quiet := by
  intro a x hx hstate
  obtain ⟨r, hr⟩ := h.record_of_attempt hx
  obtain ⟨q, backend, -, hserves⟩ := (hs.entry _ _ (h.view_of_attempt hx hr)).executing rfl
  have hcompleted := hserves.completedAt
  have hfailed := hserves.failedAt
  simp only [AttemptFields.durable, hstate, Option.isSome_map, reduceCtorEq, decide_false,
    Option.isSome_eq_false_iff, Option.isNone_iff_eq_none] at hcompleted hfailed
  exact ⟨hcompleted, hfailed⟩

/-! ### Updates -/

theorem Kept.putRecord (h : m.Kept time) {k : UUID} {r r' : ProcessingRecord}
    (hr : m.records.lookup k = some r) (hscope : r'.idempotencyScope = r.idempotencyScope)
    (hkey : r'.idempotencyKey = r.idempotencyKey) (hupdated : r'.updatedAt.instant ≤ time) :
    Kept { m with records := m.records.insert k r' } time where
  attempt := h.attempt
  owner k' a ha := by
    obtain ⟨hrecord, hattempt⟩ := h.owner k' a ha
    refine ⟨?_, hattempt⟩
    rw [Table.lookup_insert]
    split
    · rfl
    · exact hrecord
  identity scope key k' := by
    rw [h.identity]
    simp only [Table.lookup_insert]
    split
    · next heq =>
      subst heq
      simp [hr, hscope, hkey]
    · rfl
  timely k' r₁ hr₁ := by
    rw [Table.lookup_insert] at hr₁
    split at hr₁
    · cases hr₁
      exact hupdated
    · exact h.timely k' r₁ hr₁

theorem view_putRecord (m : Memory) (k : UUID) (r : ProcessingRecord) :
    view { m with records := m.records.insert k r } = Function.update m.view k
      (some ⟨r.toProcessingFields.durable, (m.attemptOf k).map fun a =>
        a.toAttemptFields.durable⟩) := by
  funext k'
  by_cases hk : k' = k
  · subst hk
    simp [view, attemptOf]
  · simp [view, attemptOf, hk]

theorem Kept.putAttempt (h : m.Kept time) {a : UUID} {x x' : ExecutionAttempt}
    (hx : m.attempts.lookup a = some x) (hid : x'.attemptId = x.attemptId)
    (hprocessing : x'.processingId = x.processingId) :
    Kept { m with attempts := m.attempts.insert a x' } time where
  attempt a' y hy := by
    rw [Table.lookup_insert] at hy
    split at hy
    · next heq =>
      cases hy
      rw [hid, hprocessing, heq]
      exact h.attempt a x hx
    · exact h.attempt a' y hy
  owner k a' ha' := by
    obtain ⟨hrecord, y, hy, hyk⟩ := h.owner k a' ha'
    refine ⟨hrecord, ?_⟩
    rw [Table.lookup_insert]
    split
    · next heq =>
      subst heq
      obtain rfl := Option.some.inj (hx.symm.trans hy)
      exact ⟨x', rfl, hprocessing.trans hyk⟩
    · exact ⟨y, hy, hyk⟩
  identity := h.identity
  timely := h.timely

theorem Kept.attemptOf_putAttempt (h : m.Kept time) {a : UUID} {x x' : ExecutionAttempt}
    (hx : m.attempts.lookup a = some x) :
    attemptOf { m with attempts := m.attempts.insert a x' } x.processingId = some x' := by
  simp [attemptOf, (h.attempt a x hx).2, Table.lookup_insert]

theorem Kept.view_putAttempt (h : m.Kept time) {a : UUID} {x x' : ExecutionAttempt}
    (hx : m.attempts.lookup a = some x) {k : UUID} (hk : k ≠ x.processingId) :
    view { m with attempts := m.attempts.insert a x' } k = m.view k := by
  cases ha : m.attemptByProcessing.lookup k with
  | none => simp [view, attemptOf, ha]
  | some a' =>
      obtain ⟨-, y, hy, rfl⟩ := h.owner k a' ha
      have hne : a' ≠ a := by
        rintro rfl
        exact hk (congrArg (·.processingId) (Option.some.inj (hy.symm.trans hx)))
      simp [view, attemptOf, ha, Table.lookup_insert, hne]

theorem Kept.put (h : m.Kept time) {a : UUID} {x : ExecutionAttempt} {r : ProcessingRecord}
    (x' : ExecutionAttempt) (r' : ProcessingRecord)
    (hx : m.attempts.lookup a = some x) (hr : m.records.lookup x.processingId = some r)
    (hid : x'.attemptId = x.attemptId) (hprocessing : x'.processingId = x.processingId)
    (hscope : r'.idempotencyScope = r.idempotencyScope)
    (hkey : r'.idempotencyKey = r.idempotencyKey) (hupdated : r'.updatedAt.instant ≤ time) :
    Kept (m.put a x' x.processingId r') time ∧
      view (m.put a x' x.processingId r') = Function.update m.view x.processingId
        (some ⟨r'.toProcessingFields.durable, some x'.toAttemptFields.durable⟩) := by
  have hattempt := h.putAttempt hx hid hprocessing
  refine ⟨hattempt.putRecord hr hscope hkey hupdated, ?_⟩
  rw [Memory.put, view_putRecord { m with attempts := m.attempts.insert a x' },
    h.attemptOf_putAttempt hx, Option.map_some]
  funext k
  by_cases hk : k = x.processingId
  · subst hk
    rw [Function.update_self, Function.update_self]
  · rw [Function.update_of_ne hk, Function.update_of_ne hk, h.view_putAttempt hx hk]

/-! ### Operations on an attempt -/

section Moves

variable {a : UUID} {attemptExpected : AttemptFields → Bool}
  {recordExpected : AttemptFields → ProcessingFields → Bool}

/-- No attempt is without its record. -/
theorem Kept.lookupBoth_run (h : m.Kept time) :
    (lookupBoth a attemptExpected recordExpected).run m =
      (.ok (m.both a attemptExpected recordExpected), m) := by
  rcases lookupBoth_run_or m a attemptExpected recordExpected with hrun | ⟨⟨x, hx, hnone⟩, -⟩
  · exact hrun
  · obtain ⟨r, hr⟩ := h.record_of_attempt hx
    rw [hnone] at hr
    cases hr

/-- What an operation on an attempt asks for, in terms of the entry the attempt belongs to. -/
structure Asks (attemptExpected : AttemptFields → Bool)
    (recordExpected : AttemptFields → ProcessingFields → Bool)
    (expected : List ExecutionAttemptState) : Prop where
  attempt : ∀ x : AttemptFields, attemptExpected x = true ↔ x.state ∈ expected
  record : ∀ (x : AttemptFields) (r : ProcessingFields), x.state ∈ expected →
    r.state = x.state.processingState → recordExpected x r = true

variable {expected : List ExecutionAttemptState} {attemptMove : AttemptFields → AttemptFields}
  {processingMove : ProcessingFields → ProcessingFields} {t : Int}

/-- What is not found cannot be moved. -/
theorem refused_of_both (attemptMove : AttemptFields → AttemptFields)
    (processingMove : ProcessingFields → ProcessingFields) (h : m.Kept time) (hs : m.view.Coherent)
    (hasks : Asks attemptExpected recordExpected expected)
    (hnone : m.both a attemptExpected recordExpected = none) :
    ∀ k e, m.view k = some e → e.move a expected attemptMove processingMove = none := by
  intro k e he
  by_contra hsome
  obtain ⟨e', hmove⟩ := Option.ne_none_iff_exists'.mp hsome
  obtain ⟨b, hb, rfl, hstate, -⟩ := Entry.move_eq_some_iff.mp hmove
  obtain ⟨x, r, hx, rfl, hr, hprocessing, rfl⟩ := h.lookup_of_view he hb
  obtain ⟨q, backend, -, hserves⟩ := (hs.entry _ e he).executing hb
  have hrstate : r.state = x.state.processingState := by
    have := hserves.state
    rw [hprocessing] at this
    exact this
  have hboth := both_eq_some_iff.mpr
    ⟨hx, hr, (hasks.attempt _).mpr hstate, hasks.record _ _ hstate hrstate⟩
  rw [hnone] at hboth
  cases hboth

/-- An operation that finds nothing to move keeps the law. -/
theorem lawful_of_unfound (h : m.Kept time) (hs : m.view.Coherent) {x : c.Result}
    (hasks : Asks attemptExpected recordExpected expected)
    (hadvance : ∀ e : Entry, e.advance t c = e.move a expected attemptMove processingMove)
    (hnone : m.both a attemptExpected recordExpected = none) (hrecords : c.records x = [])
    (hattempts : c.attempts x = []) (hwrote : c.wrote x = false) (hcomplete : m.view.Complete c x) :
    m.view.Lawful t c (.ok x) m.view := by
  refine .read ⟨by simp [hrecords], by simp [hattempts]⟩ hwrote (fun k e he => ?_) hcomplete
  rw [hadvance]
  exact refused_of_both _ _ h hs hasks hnone k e he

end Moves

/-- What a call makes of the dicts, while the clock shows `now`. -/
def Does (m : Memory) (now : Datetime) (c : RepositoryCall) (y : Except PyError c.Result)
    (m' : Memory) : Prop :=
  m'.Kept now.instant ∧ m.view.Lawful now.instant c y m'.view

theorem does_of_raised (h : m.Kept time) (hlater : time ≤ now.instant) (e : PyError) :
    m.Does now c (.error e) m :=
  ⟨h.later hlater, .raised _ _ _ _⟩

/-- A call that reads, and has nothing to move, keeps the law. -/
theorem does_of_read (h : m.Kept time) (hlater : time ≤ now.instant) {z : c.Result}
    (hreports : c.Reports m.view z) (hwrote : c.wrote z = false)
    (hrefused : ∀ k e, m.view k = some e → e.advance now.instant c = none)
    (hcomplete : m.view.Complete c z) : m.Does now c (.ok z) m :=
  ⟨h.later hlater, .read hreports hwrote hrefused hcomplete⟩

/-- An operation that moves the entry of `k`, and answers with what it has made of it, keeps the
law. -/
theorem does_of_moved (m' : Memory) (hs : m.view.Coherent)
    (hfits : m.view.Fits c) {k : UUID} {e e' : Entry}
    {z : c.Result} (hkept : m'.Kept now.instant) (hentry : m.view k = some e)
    (hadvance : e.advance now.instant c = some e') (hfresh : m.view.FreshPlan c)
    (hview : m'.view = Function.update m.view k (some e')) (hconcerns : c.Concerns e')
    (hwrote : c.wrote z = true) (hcomplete : m.view.Complete c z)
    (hrecords : ∀ y ∈ c.records z, y.toProcessingFields.durable = e'.processing)
    (hattempts : ∀ y ∈ c.attempts z, e'.attempt = some y.toAttemptFields.durable) :
    m.Does now c (.ok z) m' := by
  have hmoves := Store.Moves.advance hentry hadvance hfresh
  rw [← hview] at hmoves
  have hself : m'.view k = some e' := by
    rw [hview, Function.update_self]
  exact ⟨hkept, .moved hmoves (hmoves.coherent hs hfits) hself hconcerns hwrote hcomplete hrecords
    hattempts⟩

section Moves

variable {a : UUID} {attemptExpected : AttemptFields → Bool}
  {recordExpected : AttemptFields → ProcessingFields → Bool}
  {expected : List ExecutionAttemptState} {attemptMove : AttemptFields → AttemptFields}
  {processingMove : ProcessingFields → ProcessingFields}

/-- So does an operation that moves an attempt and its record together. -/
theorem does_of_put (h : m.Kept time) (hs : m.view.Coherent) (hfits : m.view.Fits c)
    {x x' : ExecutionAttempt} {k : UUID} {r r' : ProcessingRecord} {z : c.Result}
    (hasks : Asks attemptExpected recordExpected expected)
    (hadvance : ∀ e : Entry, e.advance now.instant c = e.move a expected attemptMove processingMove)
    (hfound : m.both a attemptExpected recordExpected = some (x, r))
    (hfresh : m.view.FreshPlan c) (hconcerns : ∀ e : Entry,
      e.attempt.map (·.attemptId) = some a → c.Concerns e)
    (hx' : x'.toAttemptFields.durable = attemptMove x.toAttemptFields.durable)
    (hr' : r'.toProcessingFields.durable = processingMove r.toProcessingFields.durable)
    (hid : x'.attemptId = x.attemptId) (hprocessing : x'.processingId = x.processingId)
    (hscope : r'.idempotencyScope = r.idempotencyScope)
    (hkey : r'.idempotencyKey = r.idempotencyKey) (hlater : time ≤ now.instant)
    (hupdated : r'.updatedAt.instant ≤ now.instant) (hrecords : c.records z ⊆ [r'])
    (hattempts : c.attempts z ⊆ [x']) (hwrote : c.wrote z = true)
    (hcomplete : m.view.Complete c z) (hk : k = x.processingId) :
    m.Does now c (.ok z) (m.put a x' k r') := by
  subst hk
  obtain ⟨hx, hr, hexpected, -⟩ := both_eq_some_iff.mp hfound
  obtain ⟨hkept, hview⟩ :=
    (h.later hlater).put x' r' hx hr hid hprocessing hscope hkey hupdated
  have hxid : x.attemptId = a := (h.attempt a x hx).1
  have hmove : Entry.advance now.instant
      ⟨r.toProcessingFields.durable, some x.toAttemptFields.durable⟩ c =
      some ⟨r'.toProcessingFields.durable, some x'.toAttemptFields.durable⟩ := by
    rw [hadvance, Entry.move_eq_some_iff]
    exact ⟨_, rfl, hxid, (hasks.attempt x.toAttemptFields).mp hexpected, by rw [hx', hr']⟩
  refine does_of_moved _ hs hfits hkept (h.view_of_attempt hx hr) hmove hfresh hview
    (hconcerns _ (congrArg some (hid.trans hxid))) hwrote hcomplete ?_ ?_
  · intro y hy
    rw [List.mem_singleton.mp (hrecords hy)]
  · intro y hy
    rw [List.mem_singleton.mp (hattempts hy)]

end Moves

section Operations

variable {a : UUID}

/-- A record that has a plan can always be moved on, for the clock has not been set back. -/
theorem postInit_planStates (h : m.Kept time) (hlater : time ≤ now.instant)
    (haware : now.isAware = true) {k : UUID} {r : ProcessingRecord}
    (hr : m.records.lookup k = some r) (state : ProcessingState) {category detail : Option String}
    (hfrom : r.state ∈ planStates) (hto : state ∈ planStates)
      (herrors : ErrorsFit category detail) :
    ProcessingFields.postInit { r.toProcessingFields with
      state := state, updatedAt := now, errorCategory := category, errorDetail := detail } =
        .ok () := by
  apply (postInit_planStates_iff now state r.valid hfrom hto herrors).mpr
  exact ⟨haware, (createdAt_le_updatedAt r).trans ((h.timely k r hr).trans hlater)⟩

/-- An attempt checks its errors as a record does. -/
theorem errorsFit_of_attempt (x : ExecutionAttempt) : ErrorsFit x.errorCategory x.errorDetail := by
  have h := x.valid
  rw [AttemptFields.postInit, checks_append, commonChecks_iff] at h
  exact h.1.2.2.2.2.2.2.2.2.2.1

/-- How an operation that stores the attempt first can end, when no record is refused: it finds
nothing, or raises before it stores anything, or moves both. -/
theorem attemptFirst_cases (h : m.Kept time) {α : Type} {attemptExpected : AttemptFields → Bool}
    {recordExpected : AttemptFields → ProcessingFields → Bool}
    {attemptMove : AttemptFields → AttemptFields} {recordMove : ProcessingFields → ProcessingFields}
    {result : ExecutionAttempt → ProcessingRecord → α} {y : Except PyError (Option α)}
    (hexec : (attemptFirst a attemptExpected recordExpected attemptMove recordMove result).run m =
      (y, m'))
    (hvalid : ∀ x r (x' : ExecutionAttempt),
      m.both a attemptExpected recordExpected = some (x, r) →
      x'.toAttemptFields = attemptMove x.toAttemptFields →
      (recordMove r.toProcessingFields).postInit = .ok ()) :
    (m.both a attemptExpected recordExpected = none ∧ y = .ok none ∧ m' = m) ∨
      (∃ e, y = .error e ∧ m' = m) ∨
      ∃ x r x' r', m.both a attemptExpected recordExpected = some (x, r) ∧
        x'.toAttemptFields = attemptMove x.toAttemptFields ∧
        r'.toProcessingFields = recordMove r.toProcessingFields ∧
        y = .ok (some (result x' r')) ∧ m' = m.put a x' r.processingId r' := by
  rw [attemptFirst_run h.lookupBoth_run] at hexec
  cases hboth : m.both a attemptExpected recordExpected with
  | none =>
      rw [hboth] at hexec
      cases hexec
      exact .inl ⟨rfl, rfl, rfl⟩
  | some found =>
      obtain ⟨x, r⟩ := found
      rw [hboth] at hexec
      dsimp only at hexec
      cases hattempt : ExecutionAttempt.make (attemptMove x.toAttemptFields) with
      | error e =>
          rw [hattempt] at hexec
          cases hexec
          exact .inr (.inl ⟨e, rfl, rfl⟩)
      | ok x' =>
          have hx' := ExecutionAttempt.make_eq_ok_iff.mp hattempt
          obtain ⟨r', hrecord, hr'⟩ := ProcessingRecord.exists_make_of_postInit
            (hvalid x r x' hboth hx')
          rw [hattempt, hrecord] at hexec
          cases hexec
          exact .inr (.inr ⟨x, r, x', r', rfl, hx', hr', rfl, rfl⟩)

theorem claimAttemptForSubmission_does (h : m.Kept time) (hs : m.view.Coherent)
    (hlater : time ≤ now.instant) (haware : now.isAware = true)
    {y : Except PyError (Option ExecutionAttempt)}
    (hexec : (claimAttemptForSubmission a now).run m = (y, m')) :
    m.Does now (.claimAttemptForSubmission a) y m' := by
  have hasks : Asks (·.state = .planned) (fun _ record => record.state = .planned) [.planned] := by
    constructor
    · simp
    · rintro x r hx hr
      simp_all [ExecutionAttemptState.processingState]
  rw [claimAttemptForSubmission_eq] at hexec
  obtain ⟨hnone, rfl, rfl⟩ | ⟨e, rfl, rfl⟩ | ⟨x, r, x', r', hboth, hx', hr', rfl, rfl⟩ :=
    attemptFirst_cases h hexec fun x r x' hboth hx' => by
      obtain ⟨-, hr, -, hstate⟩ := both_eq_some_iff.mp hboth
      exact postInit_planStates h hlater haware hr .submitting
        (by simp [of_decide_eq_true hstate, planStates]) (by simp [planStates])
        (errorsFit_of_record r)
  · exact ⟨h.later hlater, lawful_of_unfound h hs hasks (fun _ => rfl) hnone rfl rfl rfl trivial⟩
  · exact does_of_raised h hlater e
  · obtain ⟨-, hr, -⟩ := both_eq_some_iff.mp hboth
    exact does_of_put (c := .claimAttemptForSubmission a) h hs (fun _ _ _ _ => trivial) hasks
      (fun _ => rfl) hboth trivial (fun _ hconcerns => hconcerns) (by rw [hx']; rfl)
      (by rw [hr']; rfl) (by rw [hx']) (by rw [hx']) (by rw [hr']) (by rw [hr']) hlater
      (by rw [hr']) (by simp [RepositoryCall.records]) (by simp [RepositoryCall.attempts]) rfl
      trivial (processingId_of_lookup hs hr)

theorem markAttemptSubmitted_does (h : m.Kept time) (hs : m.view.Coherent)
    (hlater : time ≤ now.instant) (haware : now.isAware = true) {externalOperationId : String}
    {y : Except PyError (Option ExecutionAttempt)}
    (hexec : (markAttemptSubmitted a externalOperationId now).run m = (y, m')) :
    m.Does now (.markAttemptSubmitted a externalOperationId) y m' := by
  have hasks : Asks (·.state = .submitting) (fun _ record => record.state = .submitting)
      [.submitting] := by
    constructor
    · simp
    · rintro x r hx hr
      simp_all [ExecutionAttemptState.processingState]
  rw [markAttemptSubmitted_eq] at hexec
  obtain ⟨hnone, rfl, rfl⟩ | ⟨e, rfl, rfl⟩ | ⟨x, r, x', r', hboth, hx', hr', rfl, rfl⟩ :=
    attemptFirst_cases h hexec fun x r x' hboth hx' => by
      obtain ⟨-, hr, -, hstate⟩ := both_eq_some_iff.mp hboth
      exact postInit_planStates h hlater haware hr .submitted
        (by simp [of_decide_eq_true hstate, planStates]) (by simp [planStates])
        (errorsFit_of_record r)
  · exact ⟨h.later hlater, lawful_of_unfound h hs hasks (fun _ => rfl) hnone rfl rfl rfl trivial⟩
  · exact does_of_raised h hlater e
  · obtain ⟨-, hr, -⟩ := both_eq_some_iff.mp hboth
    exact does_of_put (c := .markAttemptSubmitted a externalOperationId) h hs
      (fun _ _ _ _ => trivial) hasks (fun _ => rfl) hboth trivial (fun _ hconcerns => hconcerns)
      (by rw [hx']; rfl) (by rw [hr']; rfl) (by rw [hx']) (by rw [hx']) (by rw [hr'])
      (by rw [hr']) hlater (by rw [hr']) (by simp [RepositoryCall.records])
      (by simp [RepositoryCall.attempts]) rfl trivial (processingId_of_lookup hs hr)

theorem recordPoll_does (h : m.Kept time) (hs : m.view.Coherent)
    (hlater : time ≤ now.instant) (haware : now.isAware = true) {remoteState : String}
    {category detail : Option String} {y : Except PyError (Option ExecutionAttempt)}
    (hexec : (recordPoll a remoteState category detail now).run m = (y, m')) :
    m.Does now (.recordPoll a remoteState category detail) y m' := by
  have hasks : Asks (·.state = .submitted) (fun _ record => record.state = .submitted)
      [.submitted] := by
    constructor
    · simp
    · rintro x r hx hr
      simp_all [ExecutionAttemptState.processingState]
  rw [recordPoll_eq] at hexec
  obtain ⟨hnone, rfl, rfl⟩ | ⟨e, rfl, rfl⟩ | ⟨x, r, x', r', hboth, hx', hr', rfl, rfl⟩ :=
    attemptFirst_cases h hexec fun x r x' hboth hx' => by
      obtain ⟨-, hr, -, hstate⟩ := both_eq_some_iff.mp hboth
      have hplan : r.state ∈ planStates := by simp [of_decide_eq_true hstate, planStates]
      have herrors := errorsFit_of_attempt x'
      rw [hx'] at herrors
      exact postInit_planStates h hlater haware hr r.state hplan hplan herrors
  · exact ⟨h.later hlater, lawful_of_unfound h hs hasks (fun _ => rfl) hnone rfl rfl rfl trivial⟩
  · exact does_of_raised h hlater e
  · obtain ⟨-, hr, -⟩ := both_eq_some_iff.mp hboth
    exact does_of_put (c := .recordPoll a remoteState category detail) h hs
      (fun _ _ _ _ => trivial) hasks (fun _ => rfl) hboth trivial (fun _ hconcerns => hconcerns)
      (by rw [hx']; rfl) (by rw [hr']; rfl) (by rw [hx']) (by rw [hx']) (by rw [hr'])
      (by rw [hr']) hlater (by rw [hr']) (by simp [RepositoryCall.records])
      (by simp [RepositoryCall.attempts]) rfl trivial (processingId_of_lookup hs hr)

theorem markRecoveryRequired_does (h : m.Kept time) (hs : m.view.Coherent)
    (hlater : time ≤ now.instant) (haware : now.isAware = true)
    {expected : List ExecutionAttemptState} {category detail : String}
    (hfits : m.view.Fits (.markRecoveryRequired a expected category detail))
    {y : Except PyError (Option ProcessingRecord)}
    (hexec : (markRecoveryRequired a expected category detail now).run m = (y, m')) :
    m.Does now (.markRecoveryRequired a expected category detail) y m' := by
  rw [markRecoveryRequired_eq] at hexec
  obtain ⟨hnone, rfl, rfl⟩ | ⟨e, rfl, rfl⟩ | ⟨x, r, x', r', hboth, hx', hr', rfl, rfl⟩ :=
    attemptFirst_cases h hexec fun x r x' hboth hx' => by
      obtain ⟨-, hr, -, hstate⟩ := both_eq_some_iff.mp hboth
      have hstate : some r.state = expectedProcessing x.state := of_decide_eq_true hstate
      have hplan : r.state ∈ planStates := by
        cases hs : x.state <;> simp [hs, expectedProcessing] at hstate <;>
          simp [hstate, planStates]
      have herrors := errorsFit_of_attempt x'
      rw [hx'] at herrors
      exact postInit_planStates h hlater haware hr .recoveryRequired hplan (by simp [planStates])
        herrors
  · refine does_of_read h hlater ⟨by simp [RepositoryCall.records],
      by simp [RepositoryCall.attempts]⟩ rfl (fun k e he => ?_) trivial
    rw [Option.eq_none_iff_forall_ne_some]
    intro e' hadvance
    have hallowed := hfits k e he (Entry.concerns_of_advance hadvance)
    have hasks : Asks (·.state ∈ expected)
        (fun attempt record => some record.state = expectedProcessing attempt.state) expected := by
      constructor
      · simp
      · rintro x r hx hr
        have hmem := hallowed _ hx
        cases hs : x.state <;> simp [hs] at hmem <;>
          simp [hr, hs, expectedProcessing, ExecutionAttemptState.processingState]
    have hrefused := refused_of_both (.markRecoveryRequired category detail)
      (.markRecoveryRequired now.instant category detail) h hs hasks hnone k e he
    rw [Entry.advance, hrefused] at hadvance
    cases hadvance
  · exact does_of_raised h hlater e
  · obtain ⟨hx, hr, hexpected, -⟩ := both_eq_some_iff.mp hboth
    have hk := processingId_of_lookup hs hr
    have hxid := (h.attempt a x hx).1
    obtain ⟨hkept, hview⟩ := (h.later hlater).put x' r' hx hr (by rw [hx'])
      (by rw [hx']) (by rw [hr']) (by rw [hr']) (by rw [hr'])
    rw [hk]
    refine does_of_moved (c := .markRecoveryRequired a expected category detail) (z := some r') _
      hs hfits hkept (h.view_of_attempt hx hr) ?_ trivial hview ?_ rfl trivial ?_ ?_
    · rw [Entry.advance, Entry.move_eq_some_iff]
      exact ⟨_, rfl, hxid, of_decide_eq_true hexpected, by rw [hx', hr']; rfl⟩
    · show some x'.attemptId = some a
      rw [hx', ← hxid]
    · simp [RepositoryCall.records]
    · simp [RepositoryCall.attempts]

theorem durable_complete (p : ProcessingFields) (result : OrchestrationResult) :
    ProcessingFields.durable { p with
      state := .completed
      updatedAt := now
      completedAt := some now
      completedResult := some result
      errorCategory := none
      errorDetail := none } = p.durable.complete now.instant result := by
  simp [ProcessingFields.durable, ProcessingFields.complete]
  rfl

theorem completeProcessing_does (h : m.Kept time) (hs : m.view.Coherent)
    (hlater : time ≤ now.instant) {result : OrchestrationResult}
    (hfits : m.view.Fits (.completeProcessing a result)) :
    Ensures (completeProcessing a result now) m (m.Does now (.completeProcessing a result)) := by
  have hasks : Asks (·.state = .submitted) (fun _ record => record.state = .submitted)
      [.submitted] := by
    constructor
    · simp
    · rintro x r hx hr
      simp_all [ExecutionAttemptState.processingState]
  unfold completeProcessing
  refine ensures_ofExcept_bind (fun e _ => does_of_raised h hlater e) fun _ _ => ?_
  unfold Ensures
  rw [run_bind, h.lookupBoth_run]
  dsimp only
  cases hboth : m.both a (·.state = .submitted) fun _ record => record.state = .submitted with
  | none =>
      exact ⟨h.later hlater, lawful_of_unfound h hs hasks (fun _ => rfl) hboth rfl rfl rfl trivial⟩
  | some found =>
      obtain ⟨x, r⟩ := found
      refine ensures_ofExcept_bind (fun e _ => does_of_raised h hlater e) fun x' hattempt => ?_
      refine ensures_ofExcept_bind (fun e _ => does_of_raised h hlater e) fun r' hrecord => ?_
      have hx' := ExecutionAttempt.make_eq_ok_iff.mp hattempt
      have hr' := ProcessingRecord.make_eq_ok_iff.mp hrecord
      obtain ⟨-, hr, -⟩ := both_eq_some_iff.mp hboth
      exact does_of_put (c := .completeProcessing a result) (z := some r') h hs hfits hasks
        (fun _ => rfl) hboth trivial (fun _ hconcerns => hconcerns) (by rw [hx']; rfl)
        (by rw [hr', durable_complete]) (by rw [hx']) (by rw [hx']) (by rw [hr']) (by rw [hr'])
        hlater (by rw [hr']) (by simp [RepositoryCall.records])
        (by simp [RepositoryCall.attempts]) rfl trivial (processingId_of_lookup hs hr)

/-! ### Operations on a processing -/

/-- An operation that moves a record alone keeps the law. -/
theorem does_of_putRecord (h : m.Kept time) (hs : m.view.Coherent) (hfits : m.view.Fits c)
    (hlater : time ≤ now.instant) {k : UUID} {r r' : ProcessingRecord} {z : c.Result}
    (hr : m.records.lookup k = some r)
    (hadvance : Entry.advance now.instant ⟨r.toProcessingFields.durable,
        (m.attemptOf k).map fun a => a.toAttemptFields.durable⟩ c =
      some ⟨r'.toProcessingFields.durable, (m.attemptOf k).map fun a => a.toAttemptFields.durable⟩)
    (hfresh : m.view.FreshPlan c) (hconcerns : c.Concerns ⟨r'.toProcessingFields.durable,
      (m.attemptOf k).map fun a => a.toAttemptFields.durable⟩)
    (hscope : r'.idempotencyScope = r.idempotencyScope)
    (hkey : r'.idempotencyKey = r.idempotencyKey) (hupdated : r'.updatedAt.instant ≤ now.instant)
    (hwrote : c.wrote z = true) (hcomplete : m.view.Complete c z)
    (hrecords : c.records z ⊆ [r']) (hattempts : c.attempts z = []) :
    m.Does now c (.ok z) { m with records := m.records.insert k r' } := by
  refine does_of_moved _ hs hfits ((h.later hlater).putRecord hr hscope hkey hupdated)
    (view_of_lookup hr) hadvance hfresh (view_putRecord m k r') hconcerns hwrote hcomplete ?_ ?_
  · intro y hy
    rw [List.mem_singleton.mp (hrecords hy)]
  · simp [hattempts]

/-- No entry is the one that an accepted record would be. -/
theorem not_accepted (hs : m.view.Coherent) {processingId : UUID}
    (hnone : ∀ r, m.records.lookup processingId = some r → r.state ≠ .accepted) :
    ∀ k e, m.view k = some e →
      ¬(e.processing.processingId = processingId ∧ e.processing.state = .accepted) := by
  rintro k e he ⟨hid, hstate⟩
  obtain ⟨r, hr, hprocessing, -⟩ := view_eq_some_iff.mp he
  rw [hs.id k e he] at hid
  rw [hprocessing] at hstate
  exact hnone r (hid ▸ hr) hstate

theorem durable_storeNoActionResult {p : ProcessingFields} (h : p.durable.Unplanned)
    (result : OrchestrationResult) :
    ProcessingFields.durable { p with
      state := .completed
      updatedAt := now
      completedResult := some result
      completedAt := some now } = p.durable.storeNoActionResult now.instant result := by
  have hresult : p.completedResult = none := Option.map_eq_none_iff.mp h.result
  have hdecision := h.decision
  have hincident := h.incident
  have hrequest := h.request
  simp only [ProcessingFields.durable, hresult, Option.isNone_none, if_true,
    Option.map_eq_none_iff] at hdecision hincident hrequest
  simp [ProcessingFields.durable, ProcessingFields.storeNoActionResult, hresult, hdecision,
    hincident, hrequest]
  rfl

theorem storeNoActionResult_does (h : m.Kept time) (hs : m.view.Coherent)
    (hlater : time ≤ now.instant) {processingId : UUID} {result : OrchestrationResult}
    (hfits : m.view.Fits (.storeNoActionResult processingId result)) :
    Ensures (storeNoActionResult processingId result now) m
      (m.Does now (.storeNoActionResult processingId result)) := by
  have hrefused : (∀ r, m.records.lookup processingId = some r → r.state ≠ .accepted) →
      m.Does now (.storeNoActionResult processingId result) (.ok none) m := by
    intro hnone
    refine does_of_read h hlater ⟨by simp [RepositoryCall.records],
      by simp [RepositoryCall.attempts]⟩ rfl (fun k e he => ?_) trivial
    rw [Entry.advance, if_neg (not_accepted hs hnone k e he)]
  unfold storeNoActionResult
  refine ensures_ofExcept_bind (fun e _ => does_of_raised h hlater e) fun _ _ =>
    ensures_getMemory_bind ?_
  cases hr : m.records.lookup processingId with
  | none => exact hrefused (by simp [hr])
  | some r =>
      dsimp only
      by_cases hstate : r.state = .accepted
      · rw [if_neg (by simp [hstate])]
        refine ensures_ofExcept_bind (fun e _ => does_of_raised h hlater e) fun r' hmake => ?_
        have hr' := ProcessingRecord.make_eq_ok_iff.mp hmake
        have hid := processingId_of_lookup hs hr
        have hunplanned : r.toProcessingFields.durable.Unplanned :=
          ((hs.entry _ _ (view_of_lookup hr)).phase.of_accepted hstate).1
        refine does_of_putRecord (c := .storeNoActionResult processingId result)
          (z := some r') h hs hfits hlater hr ?_ trivial ?_ (by rw [hr']) (by rw [hr'])
          (by rw [hr']) rfl trivial (by simp [RepositoryCall.records]) rfl
        · rw [Entry.advance, if_pos ⟨hid, hstate⟩, hr', durable_storeNoActionResult hunplanned]
        · show r'.processingId = processingId
          rw [hr']
          exact hid
      · rw [if_pos hstate]
        exact hrefused fun r₁ hr₁ => by
          obtain rfl := Option.some.inj (hr.symm.trans hr₁)
          exact hstate

/-- No record is failed that is not there, in another state or with another attempt. -/
theorem failProcessing_does (h : m.Kept time) (hs : m.view.Coherent)
    (hlater : time ≤ now.instant) {processingId : UUID} {expected : List ProcessingState}
    {category detail : String} {attemptId : Option UUID}
    (hfits : m.view.Fits (.failProcessing processingId expected category detail attemptId)) :
    Ensures (failProcessing processingId expected category detail attemptId now) m
      (m.Does now (.failProcessing processingId expected category detail attemptId)) := by
  have hrefused : (∀ r, m.records.lookup processingId = some r → r.state ∈ expected →
      m.attemptToFail processingId attemptId = none) →
      m.Does now (.failProcessing processingId expected category detail attemptId)
        (.ok none) m := by
    intro hnone
    refine does_of_read h hlater ⟨by simp [RepositoryCall.records],
      by simp [RepositoryCall.attempts]⟩ rfl (fun k e he => ?_) trivial
    rw [Option.eq_none_iff_forall_ne_some]
    intro e' hadvance
    simp only [Entry.advance, Option.ite_none_right_eq_some] at hadvance
    obtain ⟨⟨hid, hstate⟩, hadvance⟩ := hadvance
    rw [hs.id k e he] at hid
    subst hid
    obtain ⟨r, hr, hprocessing, -⟩ := view_eq_some_iff.mp he
    rw [hprocessing] at hstate
    have hattempt := hnone r hr hstate
    cases attemptId with
    | none => simp [attemptToFail] at hattempt
    | some a =>
        obtain ⟨b, hb, rfl, hactive, -⟩ := Entry.move_eq_some_iff.mp hadvance
        obtain ⟨x, -, hx, hxk, -, -, rfl⟩ := h.lookup_of_view he hb
        have hmem : x.state ∈ activeAttemptStates := hactive
        simp [attemptToFail, hx, hxk, hmem] at hattempt
  unfold failProcessing
  apply ensures_getMemory_bind
  cases hr : m.records.lookup processingId with
  | none => exact hrefused (by simp [hr])
  | some r =>
      have hsame : ∀ r₁, m.records.lookup processingId = some r₁ → r₁ = r := fun r₁ hr₁ =>
        Option.some.inj (hr₁.symm.trans hr)
      dsimp only
      by_cases hstate : r.state ∈ expected
      case neg =>
        rw [if_pos hstate]
        exact hrefused fun r₁ hr₁ hmem => absurd (hsame r₁ hr₁ ▸ hmem) hstate
      rw [if_neg (by simp [hstate])]
      cases hattempt : m.attemptToFail processingId attemptId with
      | none => exact hrefused fun _ _ _ => hattempt
      | some found =>
          refine ensures_ofExcept_bind (fun e _ => does_of_raised h hlater e) fun r' hmake => ?_
          have hr' := ProcessingRecord.make_eq_ok_iff.mp hmake
          have hid := processingId_of_lookup hs hr
          cases found with
          | none =>
              obtain rfl := eq_none_of_attemptToFail hattempt
              refine does_of_putRecord (c :=
                .failProcessing processingId expected category detail none)
                (z := some r') h hs hfits hlater hr ?_ trivial ?_ (by rw [hr']) (by rw [hr'])
                (by rw [hr']) rfl trivial (by simp [RepositoryCall.records]) rfl
              · have hdurable : r.toProcessingFields.durable.processingId = processingId ∧
                    r.toProcessingFields.durable.state ∈ expected := ⟨hid, hstate⟩
                simp only [Entry.advance, if_pos hdurable, hr']
                rfl
              · show r'.processingId = processingId
                rw [hr']
                exact hid
          | some found =>
              obtain ⟨a, x⟩ := found
              obtain ⟨rfl, hx, rfl, hactive⟩ := attemptToFail_eq_some hattempt
              obtain ⟨x', hattempt', hx'⟩ := ExecutionAttempt.exists_make_of_postInit
                (postInit_fail_of_record (h.quiet hs a x hx) hactive hr')
              dsimp only
              rw [hattempt']
              have hxid : x.attemptId = a := (h.attempt a x hx).1
              obtain ⟨hkept, hview⟩ := (h.later hlater).put x' r' hx hr (by rw [hx'])
                (by rw [hx']) (by rw [hr']) (by rw [hr']) (by rw [hr'])
              refine does_of_moved
                (c := .failProcessing x.processingId expected category detail (some a))
                (z := some r') (m.put a x' x.processingId r') hs hfits hkept
                (h.view_of_attempt hx hr) ?_ trivial hview ?_ rfl trivial ?_ ?_
              · have hdurable : r.toProcessingFields.durable.processingId = x.processingId ∧
                    r.toProcessingFields.durable.state ∈ expected := ⟨hid, hstate⟩
                simp only [Entry.advance, if_pos hdurable, Entry.move_eq_some_iff]
                exact ⟨_, rfl, hxid, hactive, by rw [hx', hr']; rfl⟩
              · show r'.processingId = x.processingId
                rw [hr']
                exact hid
              · simp [RepositoryCall.records]
              · simp [RepositoryCall.attempts]

/-! ### New records, plans and attempts -/

/-- A plan stores the record, its first attempt and the keys of both. -/
def plan (m : Memory) (k : UUID) (r : ProcessingRecord) (a : UUID) (x : ExecutionAttempt)
    (operationKey : UUID) : Memory :=
  { m with
    records := m.records.insert k r
    attempts := m.attempts.insert a x
    attemptByProcessing := m.attemptByProcessing.insert k a
    operationKeys := operationKey :: m.operationKeys }

theorem Kept.plan (h : m.Kept time) {k : UUID} {r : ProcessingRecord} (r' : ProcessingRecord)
    (x : ExecutionAttempt) (operationKey : UUID) (hr : m.records.lookup k = some r)
    (hunplanned : m.attemptByProcessing.lookup k = none) (hfresh : m.attempts.lookup a = none)
    (hid : x.attemptId = a) (hprocessing : x.processingId = k)
    (hscope : r'.idempotencyScope = r.idempotencyScope)
    (hkey : r'.idempotencyKey = r.idempotencyKey) (hupdated : r'.updatedAt.instant ≤ time) :
    Kept (m.plan k r' a x operationKey) time ∧
      view (m.plan k r' a x operationKey) = Function.update m.view k
        (some ⟨r'.toProcessingFields.durable, some x.toAttemptFields.durable⟩) := by
  have hrecord := h.putRecord hr hscope hkey hupdated
  refine ⟨⟨?_, ?_, hrecord.identity, hrecord.timely⟩, ?_⟩
  · intro a' y hy
    rw [Memory.plan, Table.lookup_insert] at hy
    rw [Memory.plan, Table.lookup_insert]
    split at hy
    · next heq =>
      cases hy
      rw [if_pos hprocessing, hid, heq]
      exact ⟨rfl, rfl⟩
    · obtain ⟨hyid, hyk⟩ := h.attempt a' y hy
      rw [if_neg, hyk]
      · exact ⟨hyid, rfl⟩
      · intro heq
        rw [heq, hunplanned] at hyk
        cases hyk
  · intro k' a' ha'
    rw [Memory.plan, Table.lookup_insert] at ha'
    rw [Memory.plan, Table.lookup_insert, Table.lookup_insert]
    split at ha'
    · next heq =>
      cases ha'
      rw [if_pos heq, if_pos rfl]
      exact ⟨rfl, x, rfl, hprocessing.trans heq.symm⟩
    · next hne =>
      obtain ⟨hrecord', y, hy, hyk⟩ := h.owner k' a' ha'
      rw [if_neg hne, if_neg]
      · exact ⟨hrecord', y, hy, hyk⟩
      · rintro rfl
        rw [hfresh] at hy
        cases hy
  · funext k'
    by_cases hk : k' = k
    · subst hk
      simp [view, attemptOf, Memory.plan]
    · rw [Function.update_of_ne hk]
      cases ha : m.attemptByProcessing.lookup k' with
      | none => simp [view, attemptOf, Memory.plan, hk, ha]
      | some a' =>
          obtain ⟨-, y, hy, -⟩ := h.owner k' a' ha
          have hne : a' ≠ a := by
            rintro rfl
            rw [hfresh] at hy
            cases hy
          simp [view, attemptOf, Memory.plan, hk, ha, hne]

theorem durable_storePlan {p : ProcessingFields} (h : p.completedResult = none)
    (decision : Decision)
    (incident : Incident) (request : InvestigationRequest) (backend : String) :
    ProcessingFields.durable { p with
      state := .planned
      updatedAt := now
      plannedDecision := some decision
      plannedIncident := some incident
      plannedRequest := some request
      selectedBackend := some backend } =
    p.durable.storePlan now.instant decision incident request backend := by
  simp [ProcessingFields.durable, ProcessingFields.storePlan, h]
  rfl

theorem storePlan_does (h : m.Kept time) (hs : m.view.Coherent) (hlater : time ≤ now.instant)
    {processingId : UUID} {decision : Decision} {incident : Incident}
    {request : InvestigationRequest} {selectedBackend : String} {attemptId operationKey : UUID}
    (hfits : m.view.Fits (.storePlan processingId decision incident request selectedBackend
      attemptId operationKey)) :
    Ensures (storePlan processingId decision incident request selectedBackend attemptId operationKey
      now) m (m.Does now (.storePlan processingId decision incident request selectedBackend
        attemptId operationKey)) := by
  have hrefused : (∀ r, m.records.lookup processingId = some r → r.state ≠ .accepted) →
      m.Does now (.storePlan processingId decision incident request selectedBackend attemptId
        operationKey) (.ok none) m := by
    intro hnone
    refine does_of_read h hlater ⟨by simp [RepositoryCall.records],
      by simp [RepositoryCall.attempts]⟩ rfl (fun k e he => ?_) trivial
    rw [Entry.advance, if_neg (not_accepted hs hnone k e he)]
  unfold storePlan
  refine ensures_ofExcept_bind (fun e _ => does_of_raised h hlater e) fun _ _ =>
    ensures_getMemory_bind ?_
  cases hr : m.records.lookup processingId with
  | none => exact hrefused (by simp [hr])
  | some r =>
      dsimp only
      by_cases hstate : r.state = .accepted
      case neg =>
        rw [if_pos hstate]
        exact hrefused fun r₁ hr₁ => by
          obtain rfl := Option.some.inj (hr.symm.trans hr₁)
          exact hstate
      have hid := processingId_of_lookup hs hr
      have hentry := view_of_lookup hr
      obtain ⟨hunplanned, hattempt⟩ := (hs.entry _ _ hentry).phase.of_accepted hstate
      have hunowned : m.attemptByProcessing.lookup processingId = none := by
        cases ha : m.attemptByProcessing.lookup processingId with
        | none => rfl
        | some a =>
            obtain ⟨-, x, hx, -⟩ := h.owner _ _ ha
            simp [attemptOf, ha, hx] at hattempt
      rw [if_neg (by simp [hstate]), if_neg (by simp [hunowned])]
      split
      · exact does_of_raised h hlater _
      · next hnew =>
        rw [not_or] at hnew
        have hfresh : m.attempts.lookup attemptId = none := by simpa using hnew.1
        refine ensures_ofExcept_bind (fun e _ => does_of_raised h hlater e) fun r' hrecord => ?_
        refine ensures_ofExcept_bind (fun e _ => does_of_raised h hlater e) fun x hplanned => ?_
        have hr' := ProcessingRecord.make_eq_ok_iff.mp hrecord
        have hx := ExecutionAttempt.make_eq_ok_iff.mp hplanned
        obtain ⟨hkept, hview⟩ := (h.later hlater).plan r' x operationKey
          hr hunowned hfresh (by rw [hx]) (by rw [hx]) (by rw [hr'])
          (by rw [hr']) (by rw [hr'])
        refine does_of_moved (c := .storePlan processingId decision incident request selectedBackend
            attemptId operationKey) (z := some ⟨r', x⟩)
          (m.plan processingId r' attemptId x operationKey) hs hfits hkept hentry ?_ ?_ hview
          ?_ rfl trivial ?_ ?_
        · rw [Entry.advance, if_pos ⟨hid, hstate⟩, hr', hx,
            durable_storePlan (Option.map_eq_none_iff.mp hunplanned.result)]
          rfl
        · intro k e he hattemptId
          obtain ⟨b, hb, rfl⟩ := Option.map_eq_some_iff.mp hattemptId
          obtain ⟨y, -, hy, -⟩ := h.lookup_of_view he hb
          rw [hfresh] at hy
          cases hy
        · show r'.processingId = processingId
          rw [hr']
          exact hid
        · simp [RepositoryCall.records]
        · simp [RepositoryCall.attempts]

/-- An acceptance stores the record under its ID and under its identity. -/
def accept (m : Memory) (k : UUID) (r : ProcessingRecord) (scope key : String) : Memory :=
  { m with
    records := m.records.insert k r
    idempotency := m.idempotency.insert (scope, key) k }

theorem Kept.accept (h : m.Kept time) {k : UUID} (r : ProcessingRecord) (scope key : String)
    (hfresh : m.records.lookup k = none) (hnew : m.idempotency.lookup (scope, key) = none)
    (hscope : r.idempotencyScope = some scope) (hkey : r.idempotencyKey = some key)
    (hupdated : r.updatedAt.instant ≤ time) :
    Kept (m.accept k r scope key) time ∧ view (m.accept k r scope key) =
      Function.update m.view k (some ⟨r.toProcessingFields.durable, none⟩) := by
  have hunowned : m.attemptByProcessing.lookup k = none := by
    cases ha : m.attemptByProcessing.lookup k with
    | none => rfl
    | some a =>
        have hrecord := (h.owner k a ha).1
        simp [hfresh] at hrecord
  refine ⟨⟨h.attempt, ?_, ?_, ?_⟩, ?_⟩
  · intro k' a ha
    obtain ⟨hrecord, hattempt⟩ := h.owner k' a ha
    refine ⟨?_, hattempt⟩
    rw [Memory.accept, Table.lookup_insert]
    split
    · rfl
    · exact hrecord
  · intro scope' key' k'
    rw [Memory.accept, Table.lookup_insert, Table.lookup_insert]
    by_cases hidentity : (scope', key') = (scope, key)
    · rw [if_pos hidentity]
      obtain ⟨rfl, rfl⟩ := Prod.mk.inj hidentity
      constructor
      · intro hk
        obtain rfl := Option.some.inj hk
        exact ⟨r, if_pos rfl, hscope, hkey⟩
      · rintro ⟨r', hr', hscope', hkey'⟩
        split at hr'
        · next heq => rw [heq]
        · have hknown := (h.identity scope' key' k').mpr ⟨r', hr', hscope', hkey'⟩
          rw [hnew] at hknown
          cases hknown
    · rw [if_neg hidentity, h.identity]
      split
      · next heq =>
        subst heq
        constructor
        · rintro ⟨r', hr', -⟩
          rw [hfresh] at hr'
          cases hr'
        · rintro ⟨r', hr', hscope', hkey'⟩
          cases hr'
          rw [hscope] at hscope'
          rw [hkey] at hkey'
          cases hscope'
          cases hkey'
          exact absurd rfl hidentity
      · rfl
  · intro k' r' hr'
    rw [Memory.accept, Table.lookup_insert] at hr'
    split at hr'
    · cases hr'
      exact hupdated
    · exact h.timely k' r' hr'
  · funext k'
    by_cases hk : k' = k
    · subst hk
      simp [view, attemptOf, Memory.accept, hunowned]
    · simp [view, attemptOf, Memory.accept, hk]

theorem acceptProcessing_does (h : m.Kept time) (hs : m.view.Coherent)
    (hlater : time ≤ now.instant) {processingId : UUID} {alert : CanonicalAlert}
    {scope key : String} {version : Int} {digest : List UInt8} :
    Ensures (acceptProcessing processingId alert scope key version digest now) m
      (m.Does now (.acceptProcessing processingId alert scope key version digest)) := by
  unfold acceptProcessing
  refine ensures_ofExcept_bind (fun e _ => does_of_raised h hlater e) fun _ _ =>
    ensures_getMemory_bind ?_
  cases hidentity : m.idempotency.lookup (scope, key) with
  | some existingId =>
      obtain ⟨r, hr, hscope, hkey⟩ := (h.identity scope key existingId).mp hidentity
      refine ensures_ofExcept_bind (fun e _ => does_of_raised h hlater e) fun r₁ hitem => ?_
      obtain rfl : r = r₁ := by
        rw [hr] at hitem
        exact Except.ok.inj hitem
      have hid := processingId_of_lookup hs hr
      refine does_of_read (c := .acceptProcessing processingId alert scope key version digest)
        (z := ⟨r, false⟩) h hlater ⟨?_, by simp [RepositoryCall.attempts]⟩ rfl
        (fun _ _ _ => rfl) trivial
      intro y hy
      obtain rfl := List.mem_singleton.mp hy
      rw [hid]
      exact ⟨_, view_of_lookup hr, rfl, hscope, hkey⟩
  | none =>
      dsimp only
      split
      · exact does_of_raised h hlater _
      · next hexists =>
        have hfresh : m.records.lookup processingId = none := by simpa using hexists
        refine ensures_ofExcept_bind (fun e _ => does_of_raised h hlater e) fun r hmake => ?_
        have hr := ProcessingRecord.make_eq_ok_iff.mp hmake
        obtain ⟨hkept, hview⟩ := (h.later hlater).accept r scope key
          hfresh hidentity (by rw [hr]) (by rw [hr]) (by rw [hr])
        have haccepted : (⟨r.toProcessingFields.durable, none⟩ : Entry) =
            .accepted now.instant processingId alert scope key version digest := by
          rw [hr]
          rfl
        have hmoves : m.view.Moves now.instant
            (.acceptProcessing processingId alert scope key version digest)
            (m.accept processingId r scope key).view := by
          rw [hview, haccepted]
          refine .accept ?_ ?_
          · rw [view, hfresh]
            rfl
          · rintro k e he ⟨hscope, hkey⟩
            obtain ⟨r₁, hr₁, hprocessing, -⟩ := view_eq_some_iff.mp he
            rw [hprocessing] at hscope hkey
            have hknown := (h.identity scope key k).mpr ⟨r₁, hr₁, hscope, hkey⟩
            rw [hidentity] at hknown
            cases hknown
        have hself : (m.accept processingId r scope key).view processingId =
            some ⟨r.toProcessingFields.durable, none⟩ := by
          rw [hview, Function.update_self]
        refine ⟨hkept, .moved
          (c := .acceptProcessing processingId alert scope key version digest)
          (x := (⟨r, true⟩ : ProcessingAcceptance)) hmoves
          (hmoves.coherent hs fun _ _ _ _ => trivial) hself ⟨by rw [hr]; rfl, by rw [hr]; rfl⟩ rfl
          trivial ?_ ?_⟩
        · simp [RepositoryCall.records]
        · simp [RepositoryCall.attempts]

theorem get_does (h : m.Kept time) (hs : m.view.Coherent) (hlater : time ≤ now.instant)
    (processingId : UUID) :
    m.Does now (.get processingId) (.ok (m.records.lookup processingId)) m := by
  refine does_of_read h hlater ⟨?_, by simp [RepositoryCall.attempts]⟩ rfl (fun _ _ _ => rfl) ?_
  · intro r hr
    have hr : m.records.lookup processingId = some r := by
      simpa [RepositoryCall.records] using hr
    have hid := processingId_of_lookup hs hr
    rw [hid]
    exact ⟨_, view_of_lookup hr, rfl, hid⟩
  · intro hnone
    have hnone : m.records.lookup processingId = none := hnone
    rw [view, hnone]
    rfl

theorem getAttemptForProcessing_does (h : m.Kept time) (hs : m.view.Coherent)
    (hlater : time ≤ now.instant) (processingId : UUID) :
    Ensures (getAttemptForProcessing processingId) m
      (m.Does now (.getAttemptForProcessing processingId)) := by
  unfold getAttemptForProcessing
  refine ensures_getMemory_bind ?_
  cases ha : m.attemptByProcessing.lookup processingId with
  | none =>
      rw [attemptForProcessing, ha]
      refine does_of_read (c := .getAttemptForProcessing processingId) (z := none) h hlater
        ⟨by simp [RepositoryCall.records], by simp [RepositoryCall.attempts]⟩ rfl
        (fun _ _ _ => rfl) ?_
      intro _ e he
      obtain ⟨r, -, -, hattempt⟩ := view_eq_some_iff.mp he
      rw [hattempt, attemptOf, ha]
      rfl
  | some a =>
      obtain ⟨-, x, hx, hxk⟩ := h.owner _ _ ha
      obtain ⟨r, hr⟩ := h.record_of_attempt hx
      rw [attemptForProcessing, ha]
      dsimp only
      rw [hx]
      refine does_of_read (c := .getAttemptForProcessing processingId) (z := some x) h hlater
        ⟨by simp [RepositoryCall.records], ?_⟩ rfl (fun _ _ _ => rfl) nofun
      intro y hy
      have hy : y = x := by simpa [RepositoryCall.attempts, eq_comm] using hy
      subst hy
      refine ⟨_, h.view_of_attempt hx hr, rfl, ?_⟩
      exact (processingId_of_lookup hs hr).trans hxk

end Operations

/-! ### The search for work -/

instance : Std.Total precedes where
  total r s := by
    unfold precedes
    rw [uuidString_le_iff, uuidString_le_iff, BitVec.le_def, BitVec.le_def]
    omega

instance : IsTrans ProcessingRecord precedes where
  trans r s t hrs hst := by
    unfold precedes at *
    rw [uuidString_le_iff, BitVec.le_def] at *
    omega

/-- The search finds what the store calls reconcilable, if it can compare the start times at all. -/
theorem isReconcilable_eq_true_iff (h : m.Kept time) (hs : m.view.Coherent) {k : UUID}
    {r : ProcessingRecord} (hr : m.records.lookup k = some r) {staleBefore : Datetime}
    (hok : ∃ b, m.isReconcilable staleBefore r = .ok b) :
    m.isReconcilable staleBefore r = .ok true ↔
      ∃ e, m.view k = some e ∧ e.Reconcilable staleBefore.instant := by
  have hid := processingId_of_lookup hs hr
  have hentry := view_of_lookup hr
  have hreconcilable : (∃ e, m.view k = some e ∧ e.Reconcilable staleBefore.instant) ↔
      Entry.Reconcilable ⟨r.toProcessingFields.durable,
        (m.attemptOf k).map fun a => a.toAttemptFields.durable⟩ staleBefore.instant := by
    rw [hentry]
    simp
  rw [hreconcilable, Entry.Reconcilable]
  have hstate : r.toProcessingFields.durable.state = r.state := rfl
  unfold isReconcilable at hok ⊢
  rw [hstate]
  cases hs' : r.state with
  | accepted | planned | submitted => simp
  | completed | failed | recoveryRequired => simp
  | submitting =>
      rw [hs', hid] at hok
      rw [hid]
      cases ha : m.attemptByProcessing.lookup k with
      | none => simp [attemptForProcessing, attemptOf, ha, pure, Except.pure, bind, Except.bind]
      | some a =>
          obtain ⟨-, x, hx, -⟩ := h.owner k a ha
          have hfound : m.attemptForProcessing k = .ok (some x) := by
            rw [attemptForProcessing, ha]
            dsimp only
            rw [hx]
            rfl
          have hattempt : m.attemptOf k = some x := by
            rw [attemptOf, ha, Option.bind_some, hx]
          rw [hfound] at hok ⊢
          rw [hattempt]
          cases hstarted : x.startedAt with
          | none => simp [hstarted, AttemptFields.durable, pure, Except.pure, bind, Except.bind]
          | some startedAt =>
              simp only [hstarted, bind, Except.bind] at hok ⊢
              have hdurable : x.toAttemptFields.durable.startedAt = some startedAt.utc := by
                simp [AttemptFields.durable, hstarted]
              unfold datetimeLe at hok ⊢
              split at hok
              · next haware => simp [haware, hdurable]
              · obtain ⟨b, hb⟩ := hok
                cases hb

theorem findReconcilable_does (h : m.Kept time) (hs : m.view.Coherent)
    (hlater : time ≤ now.instant) {limit : Int} {staleBefore : Datetime} :
    Ensures (findReconcilable limit staleBefore) m
      (m.Does now (.findReconcilable limit staleBefore)) := by
  unfold Ensures
  rw [findReconcilable_run]
  cases hlimit : checks [(decide (1 ≤ limit), "reconciliation limit must be positive")] with
  | error e => exact does_of_raised h hlater e
  | ok _ =>
      cases hvalues : m.records.rows.filterM (m.isReconcilable staleBefore) with
      | error e => exact does_of_raised h hlater e
      | ok values =>
          obtain ⟨hsublist, hok, hmem⟩ := filterM_eq_ok hvalues
          have hperm := List.perm_insertionSort precedes values
          have hvalue : ∀ r ∈ values.insertionSort precedes, ∃ k, m.records.lookup k = some r ∧
              r.processingId = k := by
            intro r hr
            obtain ⟨k, hlookup⟩ := Table.mem_rows.mp ((hmem r).mp (hperm.mem_iff.mp hr)).1
            exact ⟨k, hlookup, processingId_of_lookup hs hlookup⟩
          refine does_of_read (c := .findReconcilable limit staleBefore)
            (z := (values.insertionSort precedes).take limit.toNat) h hlater
            ⟨fun r hr => ?_, by simp [RepositoryCall.attempts]⟩ rfl (fun _ _ _ => rfl) ?_
          · obtain ⟨k, hlookup, rfl⟩ := hvalue r (List.mem_of_mem_take hr)
            exact ⟨_, view_of_lookup hlookup, rfl, trivial⟩
          · refine ⟨(values.insertionSort precedes).map (·.processingId), ?_, ?_, fun k => ?_,
              (List.map_take ..)⟩
            · refine ((hperm.map _).nodup_iff).mpr ?_
              refine List.Nodup.sublist (hsublist.map _) ?_
              refine Table.nodup_map_rows m.records _ fun k r k' r' hr hr' heq => ?_
              rw [processingId_of_lookup hs hr, processingId_of_lookup hs hr'] at heq
              exact heq
            · rw [List.pairwise_map]
              refine (List.pairwise_insertionSort precedes values).imp_of_mem
                fun {r r'} hr hr' hprecedes e e' he he' => ?_
              obtain ⟨k, hlookup, rfl⟩ := hvalue r hr
              obtain ⟨k', hlookup', rfl⟩ := hvalue r' hr'
              obtain rfl := Option.some.inj ((view_of_lookup hlookup).symm.trans he)
              obtain rfl := Option.some.inj ((view_of_lookup hlookup').symm.trans he')
              rw [precedes, uuidString_le_iff] at hprecedes
              simpa [ProcessingFields.durable] using hprecedes
            · rw [List.mem_map]
              constructor
              · rintro ⟨r, hr, rfl⟩
                obtain ⟨k, hlookup, rfl⟩ := hvalue r hr
                obtain ⟨hrow, htrue⟩ := (hmem r).mp (hperm.mem_iff.mp hr)
                exact (isReconcilable_eq_true_iff h hs hlookup (hok r hrow)).mp htrue
              · rintro ⟨e, he, hreconcilable⟩
                obtain ⟨r, hlookup, -⟩ := view_eq_some_iff.mp he
                have hrow := Table.mem_rows.mpr ⟨k, hlookup⟩
                have htrue := (isReconcilable_eq_true_iff h hs hlookup (hok r hrow)).mpr
                  ⟨e, he, hreconcilable⟩
                exact ⟨r, hperm.mem_iff.mpr ((hmem r).mpr ⟨hrow, htrue⟩),
                  processingId_of_lookup hs hlookup⟩

/-! ### The repository -/

/-- **Every call keeps the law**, while the clock is not set back. -/
theorem exec_does (h : m.Kept time) (hs : m.view.Coherent) (hlater : time ≤ now.instant)
    (haware : now.isAware = true) (hfits : m.view.Fits c) {y : Except PyError c.Result}
    (hexec : exec now c m = (y, m')) : m.Does now c y m' := by
  have hensures : ∀ {x : Op c.Result}, x.run.run m = (y, m') → Ensures x m (m.Does now c) →
      m.Does now c y m' := by
    intro x hx hdoes
    have hdoes : m.Does now c (x.run.run m).1 (x.run.run m).2 := hdoes
    rw [hx] at hdoes
    exact hdoes
  cases c with
  | acceptProcessing => exact hensures hexec (acceptProcessing_does h hs hlater)
  | get processingId =>
      cases hexec
      exact get_does h hs hlater processingId
  | storeNoActionResult => exact hensures hexec (storeNoActionResult_does h hs hlater hfits)
  | storePlan => exact hensures hexec (storePlan_does h hs hlater hfits)
  | getAttemptForProcessing processingId =>
      exact hensures hexec (getAttemptForProcessing_does h hs hlater processingId)
  | claimAttemptForSubmission => exact claimAttemptForSubmission_does h hs hlater haware hexec
  | markAttemptSubmitted => exact markAttemptSubmitted_does h hs hlater haware hexec
  | recordPoll => exact recordPoll_does h hs hlater haware hexec
  | completeProcessing => exact hensures hexec (completeProcessing_does h hs hlater hfits)
  | failProcessing => exact hensures hexec (failProcessing_does h hs hlater hfits)
  | markRecoveryRequired => exact markRecoveryRequired_does h hs hlater haware hfits hexec
  | findReconcilable => exact hensures hexec (findReconcilable_does h hs hlater)

/-- **The in-memory repository is lawful**, over a clock that is never set back. -/
def lawfulRepository (start : Int) : LawfulRepository (clockedRepository start) where
  view s := s.memory.view
  Good s := s.memory.Kept s.time ∧ s.memory.view.Coherent
  good_init := by
    refine ⟨.empty start, ?_⟩
    rw [clockedRepository, view_empty]
    exact .empty
  view_init := view_empty
  coherent h := h.2
  good_step := by
    rintro s c r s' ⟨hkept, hs⟩ hfits ⟨now, haware, hlater, hexec, htime⟩
    obtain ⟨hkept', hlawful⟩ := exec_does hkept hs hlater haware hfits hexec
    rw [htime]
    exact ⟨hkept', hlawful.coherent hs hfits⟩
  lawful := by
    rintro s c r s' ⟨hkept, hs⟩ hfits ⟨now, haware, hlater, hexec, -⟩
    exact ⟨now.instant, (exec_does hkept hs hlater haware hfits hexec).2⟩

end Memory

end Alert2IR
