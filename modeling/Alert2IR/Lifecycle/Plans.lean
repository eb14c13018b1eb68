import Alert2IR.Lifecycle.Keys

/-!
# What a backend is called for

A backend is called only for the plan that is stored, under the key of its attempt or the ID of its
operation, and all of that stays as it is. So whoever answered a call answered it for the processing
as it is found much later.
-/

namespace Alert2IR

open Interleaving

/-- The processing a backend is called for, if the call is one of a backend. -/
def Call.backs : Call → Option UUID
  | .submit processingId .. => some processingId
  | .poll processingId .. => some processingId
  | .collectResult processingId .. => some processingId
  | _ => none

/-- The entry has been planned to execute the request on the backend. -/
structure Entry.Plans (e : Entry) (backend : Backend) (request : InvestigationRequest) : Prop where
  request : e.processing.investigationRequest = some request.utc
  backend : e.processing.selectedBackend = some backend.name
  attempt : e.attempt.isSome = true

/-- What an entry has to say for a call of a backend. -/
def Call.Executes (e : Entry) : Call → Prop
  | .submit _ backend request operationKey _ =>
      e.Plans backend request ∧ e.attempt.map (·.operationKey) = some operationKey
  | .poll _ backend request externalOperationId _ =>
      e.Plans backend request ∧ e.attempt.bind (·.externalOperationId) = some externalOperationId
  | .collectResult _ backend request externalOperationId =>
      e.Plans backend request ∧ e.attempt.bind (·.externalOperationId) = some externalOperationId
  | _ => True

section Evolution

variable {e e' : Entry} {backend : Backend} {request : InvestigationRequest} {c : Call}

theorem Entry.Plans.mono (h : e.Plans backend request) (hevolves : e.EvolvesTo e') :
    e'.Plans backend request := by
  obtain ⟨hrequest, hbackend, hattempt⟩ := h
  obtain ⟨a, ha⟩ := Option.isSome_iff_exists.mp hattempt
  obtain ⟨hplan, a', ha', -⟩ := hevolves.plan a ha
  exact ⟨hplan.request.trans hrequest, hplan.backend.trans hbackend, by simp [ha']⟩

theorem Entry.EvolvesTo.operationKey (hevolves : e.EvolvesTo e') {key : UUID}
    (h : e.attempt.map (·.operationKey) = some key) :
    e'.attempt.map (·.operationKey) = some key := by
  obtain ⟨a, ha, hkey⟩ := Option.map_eq_some_iff.mp h
  obtain ⟨-, a', ha', hsame⟩ := hevolves.plan a ha
  rw [ha', Option.map_some, hsame.operationKey, hkey]

theorem Entry.EvolvesTo.external (hevolves : e.EvolvesTo e') {x : String}
    (h : e.attempt.bind (·.externalOperationId) = some x) :
    e'.attempt.bind (·.externalOperationId) = some x := by
  obtain ⟨a, ha, hx⟩ := Option.bind_eq_some_iff.mp h
  obtain ⟨-, a', ha', hsame⟩ := hevolves.plan a ha
  rw [ha', Option.bind_some, hsame.external x hx]

/-- What an entry has said for a call, it goes on saying. -/
theorem Call.Executes.mono (h : c.Executes e) (hevolves : e.EvolvesTo e') : c.Executes e' := by
  cases c with
  | submit => exact ⟨h.1.mono hevolves, hevolves.operationKey h.2⟩
  | poll => exact ⟨h.1.mono hevolves, hevolves.external h.2⟩
  | collectResult => exact ⟨h.1.mono hevolves, hevolves.external h.2⟩
  | _ => trivial

/-- Only what has been planned is executed. -/
theorem Call.Executes.attempted (h : c.Executes e) {k : UUID} (hbacks : c.backs = some k) :
    e.attempt.isSome = true := by
  cases c with
  | submit => exact h.1.attempt
  | poll => exact h.1.attempt
  | collectResult => exact h.1.attempt
  | _ => cases hbacks

end Evolution

/-- A processing with a backend has been planned. -/
theorem Entry.Coherent.selected {e : Entry} (h : e.Coherent) {name : String}
    (hname : e.processing.selectedBackend = some name) : ∃ a, e.attempt = some a := by
  cases ha : e.attempt with
  | some a => exact ⟨a, rfl⟩
  | none =>
      have hphase := h.phase
      rw [ha] at hphase
      cases hphase with
      | accepted _ hplan => cases hname.symm.trans hplan.backend
      | noAction _ _ _ _ _ hnone => cases hname.symm.trans hnone
      | rejected _ hplan => cases hname.symm.trans hplan.backend

/-- The backend one knows is the backend of the processing. -/
theorem Store.Knows.backend {s : Store} {r : ProcessingRecord} {e : Entry} {name : String}
    (h : s.Knows r) (he : s r.processingId = some e) (hname : r.selectedBackend = some name) :
    e.processing.selectedBackend = some name := by
  obtain ⟨e₀, e', he', hevolves, hcoherent, hr⟩ := h
  obtain rfl := Option.some.inj (he.symm.trans he')
  have hselected : e₀.processing.selectedBackend = some name := by
    rw [hr]
    exact hname
  obtain ⟨a, ha⟩ := hcoherent.selected hselected
  exact (hevolves.plan a ha).1.backend.trans hselected

namespace LawfulRepository

variable {σ : Type} {M : Repository σ} {L : LawfulRepository M}
  {fp : CanonicalAlert → Except PyError (Int × List UInt8)} {is : List Invocation}
  {h : List (Event σ)} {w : World σ} {event : Event σ} {t : Nat} {i : Invocation} {k : UUID}

/-- What there was before an event has come to what there is. -/
theorem Sound.evolved (hsound : L.Sound h w) (hmem : event ∈ h) :
    (L.store event.before).EvolvesTo (L.store w) :=
  (hsound.events event hmem).evolves.trans (hsound.evolves event hmem)

/-- A caller that executes a plan has the plan of the processing in hand. -/
theorem Sound.plans (hsound : L.Sound h w) {record : ProcessingRecord} {attempt : ExecutionAttempt}
    {backend : Backend} {request : InvestigationRequest} {name : String}
    (hexecuting : Executing i (own t h) record attempt backend request name) :
    ∃ e, L.store w record.processingId = some e ∧ e.Plans backend request := by
  obtain ⟨e, a, he, ha, -⟩ := (hsound.knowsAttempt hexecuting.belongs).current
  obtain ⟨-, -, hrequest, hbackend⟩ :=
    (hsound.knows hexecuting.handed).plan he hexecuting.requested
  refine ⟨e, he, hrequest, ?_, by simp [ha]⟩
  rw [hbackend, hexecuting.selected]
  exact congrArg some (BackendRouter.get_name hexecuting.resolved).symm

/-- Nobody calls a backend but for what is stored. -/
theorem Sound.executes (hsound : L.Sound h w) {c : Call} (hissues : Issues fp i (own t h) c)
    (hbacks : c.backs = some k) : ∃ e, L.store w k = some e ∧ c.Executes e := by
  have hpolling : ∀ {record attempt backend request name x},
      Polling i (own t h) record attempt backend request name x →
      ∃ e, L.store w record.processingId = some e ∧ e.Plans backend request ∧
        e.attempt.bind (·.externalOperationId) = some x := by
    intro record attempt backend request name x hpolling
    obtain ⟨e, he, hplans⟩ := hsound.plans hpolling.toExecuting
    obtain ⟨e', a, he', ha, -, hx, -⟩ := hsound.polling hpolling
    obtain rfl := Option.some.inj (he.symm.trans he')
    exact ⟨e, he, hplans, by rw [ha]; exact hx⟩
  cases hissues with
  | quiet hquiet => cases c <;> cases hbacks <;> cases hquiet
  | submit _ hexecuting hclaimed =>
      cases hbacks
      obtain ⟨e, he, hplans⟩ := hsound.plans hexecuting
      obtain ⟨e', a, he', ha, -, hkey, -⟩ := (hsound.knowsAttempt
        (.claimed hexecuting.belongs (mem_of_acts_suffix hclaimed (.head _)))).current
      obtain rfl := Option.some.inj (he.symm.trans he')
      exact ⟨e, he, hplans, by rw [ha, Option.map_some, hkey]⟩
  | poll _ hpolls =>
      cases hbacks
      exact hpolling hpolls
  | collectResult _ hpolls =>
      cases hbacks
      exact hpolling hpolls
  | _ => cases hbacks

/-- **A backend is called for what is stored**, and for what is stored ever after. -/
theorem executes_of_trace (L : LawfulRepository M) (htrace : (M.system fp).Trace (Issues fp) is h w)
    (hmem : event ∈ h) (hbacks : event.call.backs = some k) :
    ∃ e, L.store w k = some e ∧ event.call.Executes e := by
  have hsound : L.Sound h w := sound_of_trace htrace
  obtain ⟨h₁, h₂, hsplit⟩ := List.append_of_mem hmem
  obtain ⟨is₁, i, htrace₁, -, hissues, -⟩ := htrace.split hsplit
  have hsound₁ : L.Sound h₁ event.before := sound_of_trace htrace₁
  obtain ⟨e, he, hexecutes⟩ := hsound₁.executes hissues hbacks
  obtain ⟨e', he', hevolves⟩ := hsound.evolved hmem k e he
  exact ⟨e', he', hexecutes.mono hevolves⟩

/-- **No two processings share an operation key.** -/
theorem operationKey_unique (L : LawfulRepository M)
    (htrace : (M.system fp).Trace (Issues fp) is h w) {k' : UUID} {e e' : Entry}
    {a a' : AttemptFields} (he : L.store w k = some e) (ha : e.attempt = some a)
    (he' : L.store w k' = some e') (ha' : e'.attempt = some a')
    (hkey : a.operationKey = a'.operationKey) : k = k' := by
  -- The key was handed out once, and the ID of the attempt right before it.
  have hnew : ∀ {k e a}, L.store w k = some e → e.attempt = some a →
      ∃ g₁ event g₂ first, h = g₁ ++ event :: g₂ ∧
        event.observed = Observation.newUuid .operation a.operationKey ∧
        own event.thread g₁ = first ++ [Observation.newUuid .attempt a.attemptId] := by
    intro k e a he ha
    obtain ⟨h₁, planning, h₂, c, hsplit, -, first, hfirst⟩ := exists_planned L htrace he ha
    obtain ⟨g₁, event, g₂, rfl, hthread, hobserved, hown, -⟩ := exists_of_own_eq
      (show own planning.thread h₁ = (first ++ [Observation.newUuid .attempt a.attemptId]) ++
          [Observation.newUuid .operation a.operationKey] by
        rw [← hfirst, List.append_assoc]
        rfl)
    refine ⟨g₁, event, g₂ ++ planning :: h₂, first, ?_, hobserved, by rw [hthread, hown]⟩
    rw [hsplit, List.append_assoc, List.cons_append]
  obtain ⟨g₁, event, g₂, first, hsplit, hobserved, hown⟩ := hnew he ha
  obtain ⟨g₁', event', g₂', first', hsplit', hobserved', hown'⟩ := hnew he' ha'
  rw [← hkey] at hobserved'
  obtain ⟨rfl, rfl, -⟩ := newUuid_unique htrace hsplit hsplit' hobserved hobserved'
  have hlast := List.singleton_inj.mp (List.append_inj' (hown.symm.trans hown') rfl).2
  have hid : a.attemptId = a'.attemptId := eq_of_heq (Interleaving.Observation.mk.inj hlast).2
  have hsound : L.Sound h w := sound_of_trace htrace
  refine hsound.coherent.attempts k e k' e' he he' (by rw [ha]; rfl) ?_
  rw [ha, ha', Option.map_some, Option.map_some, hid]

end LawfulRepository

end Alert2IR
