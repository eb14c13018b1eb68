import Alert2IR.Application.Discipline
import Alert2IR.Lifecycle.Store

/-!
# Runs of processors over a lawful repository

Over a repository that keeps the law, every run of any number of processors keeps the store
coherent, and each of its entries only ever evolves. What a processor was once told about a
processing therefore stays true as far as the lifecycle fixes it, and that is enough for every call
it makes to fit.
-/

namespace Alert2IR

open Interleaving

/-! ### What a caller knows -/

/-- A record is that of an earlier stage of its entry. -/
def Store.Knows (s : Store) (r : ProcessingRecord) : Prop :=
  ∃ e₀ e : Entry, s r.processingId = some e ∧ e₀.EvolvesTo e ∧ e₀.Coherent ∧
    e₀.processing = r.toProcessingFields.durable

/-- An attempt is that of an earlier stage of the entry of `k`. -/
def Store.KnowsAttempt (s : Store) (k : UUID) (a : ExecutionAttempt) : Prop :=
  a.processingId = k ∧ ∃ e₀ e : Entry, s k = some e ∧ e₀.EvolvesTo e ∧ e₀.Coherent ∧
    e₀.attempt = some a.toAttemptFields.durable

namespace Store

variable {s s' : Store} {r : ProcessingRecord} {a : ExecutionAttempt} {k : UUID}

theorem Knows.mono (h : s.Knows r) (hevolves : s.EvolvesTo s') : s'.Knows r := by
  obtain ⟨e₀, e, he, hevolved, hcoherent, hr⟩ := h
  obtain ⟨e', he', hevolved'⟩ := hevolves _ e he
  exact ⟨e₀, e', he', hevolved.trans hevolved', hcoherent, hr⟩

theorem KnowsAttempt.mono (h : s.KnowsAttempt k a) (hevolves : s.EvolvesTo s') :
    s'.KnowsAttempt k a := by
  obtain ⟨hid, e₀, e, he, hevolved, hcoherent, ha⟩ := h
  obtain ⟨e', he', hevolved'⟩ := hevolves _ e he
  exact ⟨hid, e₀, e', he', hevolved.trans hevolved', hcoherent, ha⟩

/-- The attempt one knows is still the attempt of the processing. -/
theorem KnowsAttempt.current (h : s.KnowsAttempt k a) :
    ∃ e b, s k = some e ∧ e.attempt = some b ∧ b.attemptId = a.attemptId ∧
      b.operationKey = a.operationKey ∧
      ∀ x, a.externalOperationId = some x → b.externalOperationId = some x := by
  obtain ⟨-, e₀, e, he, hevolves, -, ha⟩ := h
  obtain ⟨-, b, hb, hsame⟩ := hevolves.plan _ ha
  exact ⟨e, b, he, hb, hsame.attemptId, hsame.operationKey, hsame.external⟩

/-- The alert one knows is the alert of the processing. -/
theorem Knows.alert (h : s.Knows r) {e : Entry} (he : s r.processingId = some e) :
    e.processing.alert = r.alert.utc := by
  obtain ⟨e₀, e', he', hevolves, -, hr⟩ := h
  obtain rfl := Option.some.inj (he.symm.trans he')
  rw [hevolves.identity.alert, hr]
  rfl

/-- The plan one knows is the plan of the processing. -/
theorem Knows.plan (h : s.Knows r) {e : Entry} (he : s r.processingId = some e)
    {q : InvestigationRequest} (hrequest : r.investigationRequest = some q) :
    e.processing.decision = r.decision ∧ e.processing.incident = r.incident.map Incident.utc ∧
      e.processing.investigationRequest = some q.utc ∧
      e.processing.selectedBackend = r.selectedBackend := by
  obtain ⟨e₀, e', he', hevolves, hcoherent, hr⟩ := h
  obtain rfl := Option.some.inj (he.symm.trans he')
  have hplanned : e₀.processing.investigationRequest = some q.utc := by simp [hr, hrequest]
  obtain ⟨a, ha⟩ := hcoherent.planned hplanned
  obtain ⟨⟨hd, hi, hq, hb⟩, -⟩ := hevolves.plan a ha
  exact ⟨by simp [hd, hr], by simp [hi, hr], hq.trans hplanned, by rw [hb, hr]; rfl⟩

theorem knows_of_reports {c : RepositoryCall} {x : c.Result} (hcoherent : s.Coherent)
    (hreports : c.Reports s x) (hr : r ∈ c.records x) : s.Knows r := by
  obtain ⟨e, he, hdurable, -⟩ := hreports.records r hr
  exact ⟨e, e, he, .refl e, hcoherent.entry _ e he, hdurable⟩

theorem knowsAttempt_of_reports {c : RepositoryCall} {x : c.Result} (hcoherent : s.Coherent)
    (hreports : c.Reports s x) (ha : a ∈ c.attempts x) : s.KnowsAttempt a.processingId a := by
  obtain ⟨e, he, hdurable, -⟩ := hreports.attempts a ha
  exact ⟨rfl, e, e, he, .refl e, hcoherent.entry _ e he, hdurable⟩

/-- Attempts are told apart by their IDs, whenever they were read. -/
theorem KnowsAttempt.unique {k' : UUID} {a' : ExecutionAttempt} (hcoherent : s.Coherent)
    (h : s.KnowsAttempt k a) (h' : s.KnowsAttempt k' a') (hid : a'.attemptId = a.attemptId) :
    k' = k := by
  obtain ⟨e, b, he, hb, hsame, -⟩ := h.current
  obtain ⟨e', b', he', hb', hsame', -⟩ := h'.current
  refine hcoherent.attempts _ _ _ _ he' he (by simp [hb']) ?_
  rw [hb, hb', Option.map_some, Option.map_some, hsame, hsame', hid]

end Store

/-! ### Sound histories -/

section Runs

variable {σ : Type} {M : Repository σ} (L : LawfulRepository M)

/-- An event of a run of processors. -/
abbrev Event (σ : Type) := Interleaving.Event (World σ) Call Call.Response

/-- The store a world holds. -/
def LawfulRepository.store (w : World σ) : Store := L.view w.store

/-- An event as the law has it: a fitting call of the repository, or one that changes nothing. -/
def LawfulRepository.SoundCall (w : World σ) : (c : Call) → c.Response → World σ → Prop
  | .repository c, r, w' =>
      (L.store w).Fits c ∧ ∃ now, (L.store w).Lawful now c r (L.store w')
  | _, _, w' => w'.store = w.store

structure LawfulRepository.SoundEvent (event : Event σ) : Prop where
  good : L.Good event.before.store
  call : L.SoundCall event.before event.call event.response event.after

/-- What holds of the history of a run and of the world it has reached. -/
structure LawfulRepository.Sound (h : List (Event σ)) (w : World σ) : Prop where
  good : L.Good w.store
  events : ∀ event ∈ h, L.SoundEvent event
  evolves : ∀ event ∈ h, (L.store event.after).EvolvesTo (L.store w)

namespace LawfulRepository

variable {L} {h : List (Event σ)} {w : World σ} {event : Event σ} {t : Nat}

theorem Sound.coherent (hsound : L.Sound h w) : (L.store w).Coherent := L.coherent hsound.good

theorem SoundEvent.evolves (hevent : L.SoundEvent event) :
    (L.store event.before).EvolvesTo (L.store event.after) := by
  obtain ⟨t, w, c, r, w'⟩ := event
  obtain ⟨hgood, hcall⟩ := hevent
  cases c with
  | repository c =>
      obtain ⟨hfits, now, hlawful⟩ := hcall
      exact hlawful.evolves (L.coherent hgood) hfits
  | _ =>
      have hsame : w'.store = w.store := hcall
      simp only [store, hsame]
      exact .refl _

theorem SoundEvent.coherent (hevent : L.SoundEvent event) :
    (L.store event.after).Coherent := by
  obtain ⟨t, w, c, r, w'⟩ := event
  obtain ⟨hgood, hcall⟩ := hevent
  cases c with
  | repository c =>
      obtain ⟨hfits, now, hlawful⟩ := hcall
      exact hlawful.coherent (L.coherent hgood) hfits
  | _ =>
      have hsame : w'.store = w.store := hcall
      simp only [store, hsame]
      exact L.coherent hgood

/-- **What an event does to an entry**: nothing, or one lifecycle operation. -/
theorem SoundEvent.entry (hevent : L.SoundEvent event) {k : UUID} {e : Entry}
    (he : L.store event.before k = some e) : L.store event.after k = some e ∨
      ∃ c now e', event.call = .repository c ∧ L.store event.after k = some e' ∧ c.Fits e ∧
        e.advance now c = some e' ∧
        processingTransitionAllowed e.processing.state e'.processing.state = true ∧
        e.processing.state.isSettled = false := by
  obtain ⟨t, w, c, r, w'⟩ := event
  obtain ⟨hgood, hcall⟩ := hevent
  cases c with
  | repository c =>
      obtain ⟨hfits, now, hlawful⟩ := hcall
      rcases hlawful.changes with hsame | hmoves
      · exact .inl (by rw [hsame, he])
      · rcases hmoves.entry (L.coherent hgood) hfits he with hsame |
          ⟨e', he', hadvance, hallowed, hunsettled, -⟩
        · exact .inl hsame
        · exact .inr ⟨c, now, e', rfl, he',
            hfits k e he (Entry.concerns_of_advance hadvance), hadvance, hallowed, hunsettled⟩
  | _ =>
      have hsame : w'.store = w.store := hcall
      exact .inl (by simp only [store, hsame]; exact he)

/-- An operation that answers has moved the entry it finds in a state it expects. -/
theorem SoundEvent.moved (hevent : L.SoundEvent event) {c : RepositoryCall} {x : c.Result}
    (hobserved : event.observed = Observation.repository c (.ok x)) {k : UUID} {e : Entry}
    (he : L.store event.before k = some e) (hadvance : ∀ now, (e.advance now c).isSome = true) :
    ∃ now e', L.store event.after k = some e' ∧ e.advance now c = some e' := by
  obtain ⟨t, w, _, _, w'⟩ := event
  cases hobserved
  obtain ⟨hgood, hfits, now, hlawful⟩ := hevent
  have hwrote : c.wrote x = true := by
    by_contra hfalse
    have hrefused := (hlawful.refused x rfl (by simpa using hfalse)).2 k e he
    have hsome := hadvance now
    rw [hrefused] at hsome
    cases hsome
  have hmoves := hlawful.wrote x rfl hwrote
  dsimp only at *
  generalize L.store w' = s' at *
  cases hmoves with
  | accept => cases hadvance now
  | @advance _ k' e₀ e' hentry hadvance' hfresh =>
      obtain ⟨e₁, he₁⟩ := Option.isSome_iff_exists.mp (hadvance now)
      obtain rfl := (L.coherent hgood).advance_unique he hentry he₁ hadvance'
      obtain rfl := Option.some.inj (he.symm.trans hentry)
      exact ⟨now, e', Function.update_self .., hadvance'⟩

/-- Only an acceptance brings an entry into being. -/
theorem SoundEvent.fresh (hevent : L.SoundEvent event) {k : UUID} {e : Entry}
    (hnone : L.store event.before k = none) (he : L.store event.after k = some e) :
    ∃ now alert scope key version digest, e = .accepted now k alert scope key version digest ∧
      event.call = .repository (.acceptProcessing k alert scope key version digest) := by
  obtain ⟨t, w, c, r, w'⟩ := event
  obtain ⟨hgood, hcall⟩ := hevent
  cases c with
  | repository c =>
      obtain ⟨hfits, now, hlawful⟩ := hcall
      rcases hlawful.changes with hsame | hmoves
      · simp only [hsame] at he
        rw [hnone] at he
        cases he
      · generalize hs' : L.store w' = s' at he hmoves
        cases hmoves with
        | @accept processingId alert scope key version digest hfresh hnew =>
            by_cases hk : k = processingId
            · subst hk
              simp only [Function.update_self, Option.some.injEq] at he
              exact ⟨now, alert, scope, key, version, digest, he.symm, rfl⟩
            · rw [Function.update_of_ne hk, hnone] at he
              cases he
        | @advance _ k' e₀ e' hentry hadvance hfresh =>
            by_cases hk : k = k'
            · subst hk
              rw [hnone] at hentry
              cases hentry
            · rw [Function.update_of_ne hk, hnone] at he
              cases he
  | _ =>
      have hsame : w'.store = w.store := hcall
      simp only [store, hsame] at he hnone
      rw [hnone] at he
      cases he

/-- What an answer reported was durable right after it. -/
theorem Sound.reported (hsound : L.Sound h w) {c : RepositoryCall} {x : c.Result}
    (hown : Observation.repository c (.ok x) ∈ own t h) :
    ∃ event ∈ h, (L.store event.after).Coherent ∧ c.Reports (L.store event.after) x := by
  obtain ⟨⟨t', w₀, c', r, w₁⟩, hmem, rfl, hobserved⟩ := mem_own.mp hown
  cases hobserved
  have hevent := hsound.events _ hmem
  obtain ⟨-, now, hlawful⟩ := hevent.call
  exact ⟨_, hmem, hevent.coherent, hlawful.reports x rfl⟩

/-- An operation on the attempt one knows answers with that attempt. -/
theorem Sound.knowsAttempt_of_operation (hsound : L.Sound h w) {c : RepositoryCall} {x : c.Result}
    {k : UUID} {a a' : ExecutionAttempt} (hown : Observation.repository c (.ok x) ∈ own t h)
    (hknown : (L.store w).KnowsAttempt k a) (ha' : a' ∈ c.attempts x)
    (hconcerns : ∀ e : Entry, c.Concerns e → e.attempt.map (·.attemptId) = some a.attemptId) :
    (L.store w).KnowsAttempt k a' := by
  obtain ⟨event, hevent, hcoherent, hreports⟩ := hsound.reported hown
  obtain ⟨e, -, hdurable, hconcerned⟩ := hreports.attempts a' ha'
  have hknown' := (Store.knowsAttempt_of_reports hcoherent hreports ha').mono
    (hsound.evolves event hevent)
  have hid : a'.attemptId = a.attemptId := by
    have hsome := hconcerns e hconcerned
    rw [hdurable] at hsome
    exact Option.some.inj hsome
  rwa [hknown.unique hsound.coherent hknown' hid] at hknown'

/-- **Records stay known.** -/
theorem Sound.knows (hsound : L.Sound h w) {r : ProcessingRecord} (hr : Handed (own t h) r) :
    (L.store w).Knows r := by
  obtain ⟨⟨c, answer⟩, ho, hmem⟩ := hr
  cases c with
  | repository c =>
      rcases answer with e | x
      · cases hmem
      · obtain ⟨event, hevent, hcoherent, hreports⟩ := hsound.reported ho
        exact (Store.knows_of_reports hcoherent hreports hmem).mono (hsound.evolves event hevent)
  | _ => cases hmem

/-- **Attempts stay known**, and each belongs to the processing it was obtained for. -/
theorem Sound.knowsAttempt (hsound : L.Sound h w) {k : UUID} {a : ExecutionAttempt}
    (ha : Belongs (own t h) k a) : (L.store w).KnowsAttempt k a := by
  induction ha with
  | @planned processingId _ _ _ _ _ _ planned hplanned =>
      obtain ⟨event, hevent, hcoherent, hreports⟩ := hsound.reported hplanned
      obtain ⟨e, he, -, hconcerns⟩ := hreports.records planned.record
        (by simp [RepositoryCall.records])
      obtain ⟨e', he', -, hconcerns'⟩ :=
        hreports.attempts planned.attempt (by simp [RepositoryCall.attempts])
      have hid : planned.attempt.processingId = planned.record.processingId := by
        rw [← hcoherent.id _ e he, ← hcoherent.id _ e' he']
        exact hconcerns'.trans hconcerns.symm
      rw [← hid]
      exact (Store.knowsAttempt_of_reports hcoherent hreports
        (by simp [RepositoryCall.attempts])).mono (hsound.evolves event hevent)
  | @read processingId attempt hread =>
      obtain ⟨event, hevent, hcoherent, hreports⟩ := hsound.reported hread
      obtain ⟨e, he, -, hconcerns⟩ := hreports.attempts attempt (by simp [RepositoryCall.attempts])
      have hid : attempt.processingId = processingId :=
        (hcoherent.id _ e he).symm.trans hconcerns
      rw [← hid]
      exact (Store.knowsAttempt_of_reports hcoherent hreports
        (by simp [RepositoryCall.attempts])).mono (hsound.evolves event hevent)
  | claimed _ hclaimed ih =>
      exact hsound.knowsAttempt_of_operation hclaimed ih (by simp [RepositoryCall.attempts])
        fun _ hconcerns => hconcerns
  | submitted _ hsubmitted ih =>
      exact hsound.knowsAttempt_of_operation hsubmitted ih (by simp [RepositoryCall.attempts])
        fun _ hconcerns => hconcerns
  | @reread processingId attempt record _ hread ih =>
      obtain ⟨event, hevent, hcoherent, hreports⟩ := hsound.reported hread
      obtain ⟨e, he, -, hconcerns⟩ := hreports.records record (by simp [RepositoryCall.records])
      have hid : record.processingId = processingId :=
        (hcoherent.id _ e he).symm.trans hconcerns
      rwa [hid]

/-- **Every call a processor makes fits.** -/
theorem Sound.fits (hsound : L.Sound h w) {fp : CanonicalAlert → Except PyError (Int × List UInt8)}
    {i : Invocation} {c : RepositoryCall} (hissues : Issues fp i (own t h) (.repository c)) :
    (L.store w).Fits c := by
  intro k e he hconcerns
  have hid := hsound.coherent.id k e he
  cases hissues with
  | quiet hquiet => cases hquiet
  | @storeNoActionResult record result _ hrecord houtcome hsource =>
      have hk : k = record.processingId := hid.symm.trans hconcerns
      subst hk
      refine ⟨houtcome, ?_⟩
      rw [(hsound.knows hrecord).alert he]
      exact hsource
  | @storePlan record decision incident request backend _ _ _ hrecord _ halert hdecision
    hincident =>
      have hk : k = record.processingId := hid.symm.trans hconcerns
      subst hk
      exact ⟨by rw [halert, (hsound.knows hrecord).alert he], hdecision, hincident⟩
  | @complete record attempt _ request _ _ _ _ _ _ result _ hpolling _ _ _ hdecision hincident
      hrequest =>
      obtain ⟨e', b, he', hb, hsame, -⟩ := (hsound.knowsAttempt hpolling.belongs).current
      have hk : k = record.processingId := by
        refine hsound.coherent.attempts k e _ e' he he' ?_ ?_
        · rw [← Option.isSome_map, hconcerns]
          rfl
        · rw [hb, Option.map_some, hsame]
          exact hconcerns
      subst hk
      obtain ⟨hd, hi, hq, -⟩ := (hsound.knows hpolling.handed).plan he hpolling.requested
      exact ⟨hd.trans hdecision, by rw [hi, hincident], by rw [hq, hrequest]; rfl⟩
  | failPlanning => exact rfl
  | failUnconfigured => simp [RepositoryCall.Fits]
  | failRejected => simp [RepositoryCall.Fits]
  | failExecution => simp [RepositoryCall.Fits]
  | recoverExpired => simp [RepositoryCall.Fits]
  | recoverUnknown => simp [RepositoryCall.Fits]
  | recoverUnpersisted => simp [RepositoryCall.Fits]
  | recoverStale => simp [RepositoryCall.Fits]
  | recoverIncomplete => simp [RepositoryCall.Fits]
  | recoverStatus => simp [RepositoryCall.Fits]
  | recoverCollection => simp [RepositoryCall.Fits]
  | _ => trivial

/-- **Every run is sound.** -/
theorem sound_of_trace {fp : CanonicalAlert → Except PyError (Int × List UInt8)}
    {is : List Invocation} (htrace : (M.system fp).Trace (Issues fp) is h w) : L.Sound h w := by
  induction htrace with
  | start => exact ⟨L.good_init, by simp, by simp⟩
  | spawn i _ ih => exact ih
  | @call is h w t i c r w' hprev hinvocation hissues hstep ih =>
      have hcall : L.SoundCall w c r w' ∧ L.Good w'.store := by
        cases c with
        | repository c =>
            have hfits := ih.fits hissues
            exact ⟨⟨hfits, L.lawful ih.good hfits hstep.1⟩, L.good_step ih.good hfits hstep.1⟩
        | newUuid kind =>
            obtain ⟨-, rfl⟩ := hstep
            exact ⟨rfl, ih.good⟩
        | _ =>
            have hsame : w' = w := hstep
            subst hsame
            exact ⟨rfl, ih.good⟩
      have hevent : L.SoundEvent ⟨t, w, c, r, w'⟩ := ⟨ih.good, hcall.1⟩
      refine ⟨hcall.2, ?_, ?_⟩
      · rintro event hmem
        rcases List.mem_append.mp hmem with hmem | hmem
        · exact ih.events event hmem
        · obtain rfl := List.mem_singleton.mp hmem
          exact hevent
      · rintro event hmem
        rcases List.mem_append.mp hmem with hmem | hmem
        · exact (ih.evolves event hmem).trans hevent.evolves
        · obtain rfl := List.mem_singleton.mp hmem
          exact .refl _

end LawfulRepository

end Runs

end Alert2IR
