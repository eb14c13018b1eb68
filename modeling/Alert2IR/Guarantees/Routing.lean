import Alert2IR.Application.Passes
import Alert2IR.Guarantees.Surfacing
import Alert2IR.Lifecycle.Runs

/-!
# The state a routing error reports

A processor that cannot route an alert fails its processing and reports the state it takes the
processing to be in: failed if it was the one to fail it, and accepted if it was not. It reports
accepted only when the processing has been left in that state by nobody, which is when it is wrong.
-/

namespace Alert2IR

open Interleaving Interleaving.Proc Proc

/-- What a procedure raises has nothing attached, unless the repository has raised it so. -/
def Unattached {α : Type} (p : Proc α) : Prop :=
  ∀ h r, Returns p h r → ∀ e, r = .error e → e.attached.isSome = true →
    ∃ c : RepositoryCall, (⟨.repository c, (.error e : Except PyError c.Result)⟩ : Observation) ∈ h

theorem closed_unattached : Closed fun p => Unattached p where
  pure a := by
    rintro h r hreturns e rfl -
    obtain ⟨-, heq⟩ := returns_pure_iff.mp hreturns
    cases heq
  throw hnone := by
    rintro h r hreturns e rfl hsome
    obtain ⟨-, heq⟩ := returns_throw_iff.mp hreturns
    cases heq
    rw [hnone] at hsome
    cases hsome
  bind hp hf := by
    rintro h r hreturns e rfl hsome
    rcases returns_bind_iff.mp hreturns with ⟨e', hraises, heq⟩ | ⟨h₁, a, h₂, rfl, -, hrest⟩
    · cases heq
      exact hp h _ hraises e rfl hsome
    · obtain ⟨c, hc⟩ := hf a h₂ _ hrest e rfl hsome
      exact ⟨c, List.mem_append_right _ hc⟩
  catching _ := by
    rintro h r hreturns e rfl -
    obtain ⟨x, -, heq⟩ := returns_catching_iff.mp hreturns
    cases heq
  repository {c} _ := by
    rintro h r hreturns e rfl -
    obtain rfl := returns_repository_iff.mp hreturns
    exact ⟨c, List.mem_singleton.mpr rfl⟩
  perform _ := by
    rintro h r hreturns e rfl -
    obtain ⟨x, -, heq⟩ := returns_perform_iff.mp hreturns
    cases heq

namespace PersistentAlertProcessor

variable {o : AlertOrchestrator} {record : ProcessingRecord} {deadline : Option Rat}
  {category detail : String} {h : List Observation}

/-- The calls of `_fail_without_attempt` that returned. -/
theorem returns_failWithoutAttempt {failed : Option ProcessingRecord}
    (hreturns : Returns (failWithoutAttempt record category detail) h (.ok failed)) :
    ∃ counted : List Observation, (∀ o ∈ counted, o.call.isRepository = false) ∧
      h = ⟨.repository (.failProcessing record.processingId [.accepted] category detail none),
        (.ok failed : Except PyError (Option ProcessingRecord))⟩ :: counted := by
  obtain ⟨h₁, x, h₂, rfl, hcall, hrest⟩ := returns_catching_bind_iff.mp hreturns
  obtain rfl := returns_repository_iff.mp hcall
  rcases x with e | _ | failed'
  · obtain ⟨-, heq⟩ := returns_throw_iff.mp hrest
    cases heq
  · obtain ⟨rfl, heq⟩ := returns_pure_iff.mp hrest
    cases heq
    exact ⟨[], by simp, rfl⟩
  · obtain ⟨h₃, rfl, hlast⟩ := returns_observe_bind_iff.mp hrest
    obtain ⟨rfl, heq⟩ := returns_pure_iff.mp hlast
    cases heq
    exact ⟨[⟨.observe _, ()⟩], by simp [Call.isRepository], rfl⟩

/-- The state attached to a routing error is inferred from the answer of `fail_processing`. -/
theorem routing_inversion {e : PyError} {k : UUID} {s : ProcessingState}
    (hreturns : Returns (advanceAccepted o record deadline) h (.error e))
    (hattached : e.attached = some (k, s))
    (hown : ∀ c : RepositoryCall,
      (⟨.repository c, (.error e : Except PyError c.Result)⟩ : Observation) ∉ h) :
    k = record.processingId ∧ ∃ planning category detail failed counted,
      h = planning ++ (⟨.repository (.failProcessing k [.accepted] category detail none),
        (.ok failed : Except PyError (Option ProcessingRecord))⟩ :: counted : List Observation) ∧
      (∀ o ∈ planning, o.call.isRepository = false) ∧ (∀ o ∈ counted, o.call.isRepository = false) ∧
      s = stateAfterFailing failed := by
  have hsome : e.attached.isSome = true := by rw [hattached]; rfl
  obtain ⟨h₁, plan, h₂, rfl, hplan, hrest⟩ := returns_catching_bind_iff.mp hreturns
  have hunattached : ∀ {p : Proc ProcessingRecord}, Returns p h₂ (.error e) → ¬ Unattached p := by
    intro p hp hunattached
    obtain ⟨c, hc⟩ := hunattached h₂ _ hp e rfl hsome
    exact hown c (List.mem_append_right _ hc)
  have hrouting : ∀ {category detail : String}
      (attach : Option (UUID × ProcessingState) → PyError),
      (∀ x, (attach x).attached = x) →
      Returns (do
        let failed ← failWithoutAttempt record category detail
        throw (attach (some (record.processingId, stateAfterFailing failed))) :
          Proc ProcessingRecord)
        h₂ (.error e) →
      k = record.processingId ∧ ∃ failed counted,
        h₂ = (⟨.repository (.failProcessing k [.accepted] category detail none),
          (.ok failed : Except PyError (Option ProcessingRecord))⟩ :: counted : List Observation) ∧
        (∀ o ∈ counted, o.call.isRepository = false) ∧ s = stateAfterFailing failed := by
    intro category detail attach hattach hraises
    rcases returns_bind_iff.mp hraises with ⟨e', hfails, heq⟩ |
      ⟨h₃, failed, h₄, rfl, hfails, hthrows⟩
    · cases heq
      obtain ⟨c, hc⟩ := closed_unattached.failWithoutAttempt category detail h₂ _ hfails e rfl
        hsome
      exact absurd (List.mem_append_right _ hc) (hown c)
    · obtain ⟨rfl, heq⟩ := returns_throw_iff.mp hthrows
      cases heq
      rw [hattach, Option.some.injEq, Prod.mk.injEq] at hattached
      obtain ⟨rfl, rfl⟩ := hattached
      obtain ⟨counted, hcounted, rfl⟩ := returns_failWithoutAttempt hfails
      exact ⟨rfl, failed, counted, by rw [List.append_nil], hcounted, rfl⟩
  have hplanning : ∀ o ∈ h₁, o.call.isRepository = false :=
    Prog.Returns.only (P := fun c : Call => c.isRepository = false) hplan (away_plan _)
  rcases plan with error | plan
  · cases error with
    | unsupportedCapabilities requested _ =>
        obtain ⟨hk, failed, counted, rfl, hcounted, hs⟩ := hrouting
          (fun x => .unsupportedCapabilities requested x) (fun _ => rfl) hrest
        exact ⟨hk, h₁, _, _, failed, counted, rfl, hplanning, hcounted, hs⟩
    | ambiguousBackend requested eligible _ =>
        obtain ⟨hk, failed, counted, rfl, hcounted, hs⟩ := hrouting
          (fun x => .ambiguousBackend requested eligible x) (fun _ => rfl) hrest
        exact ⟨hk, h₁, _, _, failed, counted, rfl, hplanning, hcounted, hs⟩
    | _ => exact absurd closed_unattached.failPlanning (hunattached hrest)
  · exact absurd closed_unattached.kind.carryOut (hunattached hrest)

end PersistentAlertProcessor

section Runs

variable {σ : Type} {M : Repository σ} {L : LawfulRepository M}
  {fp : CanonicalAlert → Except PyError (Int × List UInt8)} {is : List Invocation}
  {h h₁ h₂ : List (Event σ)} {w : World σ} {event : Event σ} {k : UUID} {s : ProcessingState}

/-- The processing `k` durably has the state `s`. -/
def LawfulRepository.InState (L : LawfulRepository M) (w : World σ) (k : UUID)
    (s : ProcessingState) : Prop := ∃ e, L.store w k = some e ∧ e.processing.state = s

namespace LawfulRepository

theorem InState.unique {s' : ProcessingState} (hstate : L.InState w k s)
    (hstate' : L.InState w k s') : s = s' := by
  obtain ⟨e, he, rfl⟩ := hstate
  obtain ⟨e', he', rfl⟩ := hstate'
  rw [Option.some.inj (he.symm.trans he')]

/-- Everything after an event has evolved from what it left. -/
theorem evolves_of_trace (htrace : (M.system fp).Trace (Issues fp) is (h₁ ++ event :: h₂) w)
    {event' : Event σ} (hmem : event' ∈ h₂) :
    (L.store event.after).EvolvesTo (L.store event'.after) := by
  obtain ⟨g₁, g₂, rfl⟩ := List.append_of_mem hmem
  obtain ⟨is₁, htrace₁⟩ := htrace.upto (h₁ ++ event :: g₁) event' g₂ (by simp)
  have hsound : L.Sound _ _ := sound_of_trace htrace₁
  exact hsound.evolves event (by simp)

/-- **The answer of `fail_processing` tells only whether the processing was still accepted.** -/
theorem failed_of_event (hsound : L.Sound h event.before) (hevent : L.SoundEvent event)
    (hissues : ∃ i, Issues fp i (own event.thread h) event.call) {category detail : String}
    {failed : Option ProcessingRecord}
    (hobserved : event.observed = Observation.repository
      (.failProcessing k [.accepted] category detail none) (.ok failed)) :
    (∃ e, L.store event.before k = some e) ∧
      (L.InState event.before k .accepted ↔ failed.isSome = true) ∧
      ∀ record, failed = some record → record.state = .failed ∧
        L.InState event.after k .failed := by
  obtain ⟨i, hissues⟩ := hissues
  have hknown : ∃ e, L.store event.before k = some e := by
    have hcall : event.call = .repository (.failProcessing k [.accepted] category detail none) :=
      congrArg Observation.call hobserved
    rw [hcall] at hissues
    cases hissues with
    | quiet hquiet => cases hquiet
    | failPlanning _ hrecord =>
        obtain ⟨-, e, he, -⟩ := hsound.knows hrecord
        exact ⟨e, he⟩
  have hcoherent' := hevent.coherent
  obtain ⟨t, w, c, r, w'⟩ := event
  cases hobserved
  obtain ⟨hgood, hfits, now, hlawful⟩ := hevent
  have hcoherent := L.coherent hgood
  dsimp only at *
  obtain ⟨e, he⟩ := hknown
  have hadvance : ∀ now, e.advance now (.failProcessing k [.accepted] category detail none) =
      if e.processing.state = .accepted then
        some { e with processing := e.processing.fail now category detail } else none := by
    intro now
    simp [Entry.advance, hcoherent.id k e he]
  refine ⟨⟨e, he⟩, ?_⟩
  cases failed with
  | none =>
      obtain ⟨-, hrefused⟩ := hlawful.refused none rfl rfl
      have hnot : e.processing.state ≠ .accepted := by
        intro hstate
        have hnone := hrefused k e he
        rw [hadvance, if_pos hstate] at hnone
        cases hnone
      refine ⟨⟨?_, by simp⟩, by simp⟩
      rintro ⟨e', he', hstate⟩
      rw [Option.some.inj (he.symm.trans he')] at hnot
      exact absurd hstate hnot
  | some record =>
      have hmoves := hlawful.wrote (some record) rfl rfl
      obtain ⟨e', he', hdurable, hconcerns⟩ :=
        (hlawful.reports _ rfl).records record (by simp [RepositoryCall.records])
      have hid : record.processingId = k := (hcoherent'.id _ e' he').symm.trans hconcerns
      rw [hid] at he'
      generalize hs' : L.store w' = s' at *
      cases hmoves with
      | @advance _ k' e₀ e₁ hentry hmoved hfresh =>
          have hk : k' = k := by
            rw [← hcoherent.id k' e₀ hentry]
            exact Entry.concerns_of_advance hmoved
          subst hk
          obtain rfl := Option.some.inj (he.symm.trans hentry)
          have hstate : e.processing.state = .accepted := by
            by_contra hnot
            rw [hadvance, if_neg hnot] at hmoved
            cases hmoved
          rw [hadvance, if_pos hstate] at hmoved
          cases hmoved
          rw [Function.update_self] at he'
          cases he'
          refine ⟨⟨fun _ => rfl, fun _ => ⟨e, he, hstate⟩⟩, ?_⟩
          rintro _ ⟨⟩
          have hfailed : record.state = .failed := (congrArg ProcessingFields.state hdurable).symm
          exact ⟨hfailed, _, by rw [hs', Function.update_self], rfl⟩

/-- Who is not accepted will not be accepted. -/
theorem not_accepted_of_evolves {s s' : Store} (hevolves : s.EvolvesTo s') {e : Entry}
    (he : s k = some e) (hnot : e.processing.state ≠ .accepted) :
    ¬ ∃ e', s' k = some e' ∧ e'.processing.state = .accepted := by
  rintro ⟨e', he', hstate⟩
  obtain ⟨e'', he'', hevolved⟩ := hevolves k e he
  obtain rfl := Option.some.inj (he'.symm.trans he'')
  have hrank := hevolved.rank
  rw [hstate] at hrank
  apply hnot
  cases hbefore : e.processing.state <;> simp [hbefore, ProcessingState.rank] at hrank ⊢

end LawfulRepository

/-- A call of `fail_processing` that `_advance_accepted` makes in its run `run`, after what its
thread did `before`, and what all threads do from then until it raises. -/
structure FailsRouting (cfg : Configuration σ) (t : Nat) (before run : List Observation) (k : UUID)
    (h₁ : List (Event σ)) (event : Event σ) (between : List (Event σ)) : Prop where
  history : h₁ ++ event :: between <+: cfg.history
  thread : event.thread = t
  call : ∃ category detail,
    event.call = .repository (.failProcessing k [.accepted] category detail none)
  started : before <+: own t h₁
  raised : own t (h₁ ++ event :: between) = before ++ run

/-- At some moment of these the processing `k` durably had the state `s`. -/
def LawfulRepository.HadState (L : LawfulRepository M) (k : UUID) (s : ProcessingState)
    (event : Event σ) (between : List (Event σ)) : Prop :=
  ∃ w ∈ event.before :: event.after :: between.map (·.after), L.InState w k s

namespace PersistentAlertProcessor

variable {cfg : Configuration σ} {t : Nat} {o : AlertOrchestrator} {record : ProcessingRecord}
  {deadline : Option Rat} {before run after : List Observation} {e : PyError}

/-- What the attached state says, and what was so. -/
theorem routing_cases (L : LawfulRepository M) (hreach : (M.system fp).Reachable cfg)
    (hraises : Returns (advanceAccepted o record deadline) run (.error e))
    (hattached : e.attached = some (k, s))
    (hforeign : ∀ c : RepositoryCall,
      (⟨.repository c, (.error e : Except PyError c.Result)⟩ : Observation) ∉ run)
    {between : List (Event σ)} (hfails : FailsRouting cfg t before run k h₁ event between) :
    (s = .failed ∧ L.InState event.before k .accepted ∧ L.HadState k s event between) ∨
      (s = .accepted ∧ ¬ L.InState event.before k .accepted ∧ ¬ L.HadState k s event between) := by
  obtain ⟨rfl, planning, category, detail, failed, counted, rfl, hplanning, hcounted, rfl⟩ :=
    routing_inversion hraises hattached hforeign
  obtain ⟨⟨rest, hhistory⟩, rfl, ⟨category', detail', hcall⟩, ⟨x, hx⟩, hraised⟩ := hfails
  have hdisciplined := hreach.disciplined invocation_disciplined
  have hhistory : cfg.history = h₁ ++ event :: (between ++ rest) := by
    rw [← hhistory, List.append_assoc, List.cons_append]
  have hsound : L.Sound cfg.history cfg.state := LawfulRepository.sound_of_trace hdisciplined.trace
  have hevent := hsound.events event (by simp [hhistory])
  obtain ⟨is₁, i, htrace₁, -, hissues, -⟩ := hdisciplined.trace.split hhistory
  -- The run makes one call of the repository, so this event is it.
  have hmem : event.observed ∈ planning ++
      Observation.repository (.failProcessing record.processingId [.accepted] category detail none)
        (.ok failed) :: counted := by
    rw [own_cons_self rfl, ← hx, List.append_assoc] at hraised
    refine List.append_cancel_left hraised ▸ ?_
    simp
  have hobserved : event.observed = Observation.repository
      (.failProcessing record.processingId [.accepted] category detail none) (.ok failed) := by
    have hrepository : event.call.isRepository ≠ false := by simp [hcall, Call.isRepository]
    rcases List.mem_append.mp hmem with hmem | hmem
    · exact absurd (hplanning _ hmem) hrepository
    rcases List.mem_cons.mp hmem with heq | hmem
    · exact heq
    · exact absurd (hcounted _ hmem) hrepository
  obtain ⟨⟨e₀, he₀⟩, hiff, hfailed⟩ := LawfulRepository.failed_of_event
    (LawfulRepository.sound_of_trace htrace₁) hevent ⟨i, hissues⟩ hobserved
  cases failed with
  | some failed =>
      obtain ⟨hstate, hafter⟩ := hfailed failed rfl
      refine .inl ⟨hstate, hiff.mpr rfl, event.after, by simp, ?_⟩
      rwa [stateAfterFailing, hstate]
  | none =>
      have hnot : ¬ L.InState event.before record.processingId .accepted := by simp [hiff]
      have hne : e₀.processing.state ≠ .accepted := fun hstate => hnot ⟨e₀, he₀, hstate⟩
      refine .inr ⟨rfl, hnot, ?_⟩
      rintro ⟨w, hw, hstate⟩
      refine absurd hstate ?_
      have hevolves : (L.store event.before).EvolvesTo (L.store w) := by
        rcases List.mem_cons.mp hw with rfl | hw
        · exact .refl _
        rcases List.mem_cons.mp hw with rfl | hw
        · exact hevent.evolves
        obtain ⟨event', hmem', rfl⟩ := List.mem_map.mp hw
        exact hevent.evolves.trans (LawfulRepository.evolves_of_trace
          (hhistory ▸ hdisciplined.trace) (List.mem_append_left _ hmem'))
      exact LawfulRepository.not_accepted_of_evolves hevolves he₀ hne

/-- Such a call there is in every run that raises so. -/
theorem exists_failsRouting {cfg : Configuration σ}
    (hown : own t cfg.history = before ++ run ++ after)
    (hraises : Returns (advanceAccepted o record deadline) run (.error e))
    (hattached : e.attached = some (k, s))
    (hforeign : ∀ c : RepositoryCall,
      (⟨.repository c, (.error e : Except PyError c.Result)⟩ : Observation) ∉ run) :
    ∃ h₁ event between, FailsRouting cfg t before run k h₁ event between := by
  obtain ⟨rfl, planning, category, detail, failed, counted, rfl, hplanning, hcounted, rfl⟩ :=
    routing_inversion hraises hattached hforeign
  have hown : own t cfg.history = (before ++ planning) ++
      Observation.repository (.failProcessing record.processingId [.accepted] category detail none)
        (.ok failed) :: (counted ++ after) := by
    rw [hown]
    simp only [List.append_assoc, List.cons_append]
    rfl
  obtain ⟨h₁, event, h₂, hhistory, hthread, hobserved, hown₁, hown₂⟩ := exists_of_own_eq hown
  obtain ⟨between, rest, rfl, hbetween, -⟩ := exists_of_own_append hown₂
  refine ⟨h₁, event, between, ⟨rest, by simp [hhistory]⟩, hthread,
    ⟨category, detail, congrArg Observation.call hobserved⟩, ⟨planning, hown₁.symm⟩, ?_⟩
  rw [own_cons_self hthread, hown₁, hobserved, hbetween, List.append_assoc]
  rfl

/-- **A routing error tells the truth exactly if the processing was still accepted** when
`fail_processing` was called. Whoever came first, the state attached otherwise is one it has
left. -/
theorem routing_state_true_iff (L : LawfulRepository M) (hreach : (M.system fp).Reachable cfg)
    (hown : own t cfg.history = before ++ run ++ after)
    (hraises : Returns (advanceAccepted o record deadline) run (.error e))
    (hattached : e.attached = some (k, s))
    (hforeign : ∀ c : RepositoryCall,
      (⟨.repository c, (.error e : Except PyError c.Result)⟩ : Observation) ∉ run) :
    (∃ h₁ event between, FailsRouting cfg t before run k h₁ event between) ∧
      ∀ h₁ event between, FailsRouting cfg t before run k h₁ event between →
        (L.HadState k s event between ↔ L.InState event.before k .accepted) := by
  refine ⟨exists_failsRouting hown hraises hattached hforeign, fun h₁ event between hfails => ?_⟩
  rcases routing_cases L hreach hraises hattached hforeign hfails with
    ⟨-, hstate, hhad⟩ | ⟨-, hstate, hhad⟩
  · exact iff_of_true hhad hstate
  · exact iff_of_false hhad hstate

/-- `process` raises with something attached where `_advance_accepted` does. -/
theorem routing_of_process (fp : CanonicalAlert → Except PyError (Int × List UInt8))
    {alert : CanonicalAlert} {key : String} {version : Int}
    {digest : List UInt8} (hfp : fp alert = .ok (version, digest)) {h : List Observation}
    (hreturns : Returns (process o fp alert key) h (.error e))
    (hattached : e.attached.isSome = true) :
    ∃ before run record, h = before ++ run ∧
      Returns (advanceAccepted o record none) run (.error e) := by
  unfold process at hreturns
  rw [hfp] at hreturns
  obtain ⟨processingId, h₁, rfl, haccepts⟩ := returns_perform_bind_iff.mp hreturns
  obtain ⟨h₂, accepted, h₃, rfl, -, hrest⟩ := returns_catching_bind_iff.mp haccepts
  rcases accepted with e' | acceptance
  · obtain ⟨-, heq⟩ := returns_throw_iff.mp hrest
    cases heq
    cases hattached
  dsimp only at hrest
  split at hrest
  · obtain ⟨h₄, rfl, hthrows⟩ := returns_observe_bind_iff.mp hrest
    obtain ⟨-, heq⟩ := returns_throw_iff.mp hthrows
    cases heq
    cases hattached
  split at hrest
  · obtain ⟨h₄, rfl, hpure⟩ := returns_observe_bind_iff.mp hrest
    obtain ⟨-, heq⟩ := returns_pure_iff.mp hpure
    cases heq
  · obtain ⟨h₄, rfl, hcounted⟩ := returns_observe_bind_iff.mp hrest
    obtain ⟨h₅, rfl, hadvances⟩ := returns_observe_bind_iff.mp hcounted
    rcases returns_bind_iff.mp hadvances with ⟨e', hraises, heq⟩ | ⟨h₆, record, h₇, rfl, -, hpure⟩
    · cases heq
      exact ⟨_ :: (h₂ ++ [_, _]), h₅, acceptance.record,
        by rw [List.cons_append, List.append_assoc]; rfl, hraises⟩
    · obtain ⟨-, heq⟩ := returns_pure_iff.mp hpure
      cases heq

end PersistentAlertProcessor

end Runs

namespace Scenario

open Postgres PersistentAlertProcessor

/-- The alert arrives where no backend is configured, and thread 0 has planned it. -/
def unroutable : List (Move system) := [.spawn (.process ⟨⟨[]⟩⟩ alert "key"), run 0 6 1 answers]

/-- A pass fails the processing before thread 0 does. -/
def forestalled : Configuration Db := system.replay (unroutable ++ [
  .spawn (.reconcileOnce ⟨⟨[]⟩⟩ 10 60 0), run 1 30 2 answers, run 0 10 3 answers])

def unforestalled : Configuration Db := system.replay (unroutable ++ [run 0 10 3 answers])

/-- What a thread that delivered the alert to no backend has come to. -/
theorem routing_of_replay {cfg : Configuration Db} (hreach : system.Reachable cfg)
    {s : ProcessingState}
    (hinvocation : (cfg.threads[0]?).map Thread.invocation = some (.process ⟨⟨[]⟩⟩ alert "key"))
    (hraised : (cfg.returned 0).any (fun r => ((raised r).bind PyError.attached).map Prod.snd =
      some s) = true)
    (hsteady : (own 0 cfg.history).any Observation.repositoryRaised = false) :
    ∃ before run record k e, own 0 cfg.history = before ++ run ∧
      Returns (advanceAccepted ⟨⟨[]⟩⟩ record none) run (.error e) ∧ e.attached = some (k, s) ∧
      ∀ c : RepositoryCall,
        (⟨.repository c, (.error e : Except PyError c.Result)⟩ : Observation) ∉ run := by
  obtain ⟨r, hr, hattached⟩ := (Option.any_eq_true ..).mp hraised
  obtain ⟨i, hthread⟩ := Config.returned_eq_some_iff.mp hr
  rw [hthread, Option.map_some, Option.some.injEq] at hinvocation
  obtain rfl : i = .process ⟨⟨[]⟩⟩ alert "key" := hinvocation
  obtain ⟨r', hreturns, rfl⟩ := returns_process_of_reachable hreach hthread
  rcases r' with e | outcome
  · have hattached : e.attached.map Prod.snd = some s := of_decide_eq_true hattached
    obtain ⟨⟨k, _⟩, hsome, rfl⟩ := Option.map_eq_some_iff.mp hattached
    obtain ⟨before, run, record, hown, hraises⟩ :=
      routing_of_process fingerprint rfl hreturns (by rw [hsome]; rfl)
    refine ⟨before, run, record, k, e, hown, hraises, hsome, fun c hc => ?_⟩
    rw [hown, List.any_append, Bool.or_eq_false_iff] at hsteady
    have hraisedNot := List.any_eq_false.mp hsteady.2 _ hc
    exact hraisedNot rfl
  · cases of_decide_eq_true hattached

/-- The pass comes first, and yet the processor that came too late reports the processing as
accepted. -/
theorem forestalled_reports_accepted : ∃ (cfg : Configuration Db) (before run : List Observation)
    (record : ProcessingRecord) (k : UUID) (s : ProcessingState) (e : PyError)
    (h₁ : List (Event Db)) (event : Event Db) (between : List (Event Db)),
    system.Reachable cfg ∧ own 0 cfg.history = before ++ run ∧
      Returns (advanceAccepted ⟨⟨[]⟩⟩ record none) run (.error e) ∧ e.attached = some (k, s) ∧
      FailsRouting cfg 0 before run k h₁ event between ∧
      ¬ (lawfulRepository dialect).HadState k s event between := by
  have hreach : system.Reachable forestalled := System.reachable_replay _
  obtain ⟨before, run, record, k, e, hown, hraises, hattached, hforeign⟩ := routing_of_replay hreach
    (s := .accepted) (by decide +kernel) (by decide +kernel) (by decide +kernel)
  obtain ⟨h₁, event, between, hfails⟩ :=
    exists_failsRouting (hown.trans (List.append_nil _).symm) hraises hattached hforeign
  rcases routing_cases (lawfulRepository dialect) hreach hraises hattached hforeign hfails with
    ⟨heq, -⟩ | ⟨-, -, hnot⟩
  · cases heq
  · exact ⟨_, before, run, record, k, .accepted, e, h₁, event, between, hreach, hown, hraises,
      hattached, hfails, hnot⟩

/-- Alone it fails the processing itself, and reports it as failed. -/
theorem unforestalled_reports_failed : ∃ (cfg : Configuration Db) (before run : List Observation)
    (k : UUID) (h₁ : List (Event Db)) (event : Event Db) (between : List (Event Db)),
    system.Reachable cfg ∧ FailsRouting cfg 0 before run k h₁ event between ∧
      ((lawfulRepository dialect).HadState k .failed event between ↔
        (lawfulRepository dialect).InState event.before k .accepted) := by
  have hreach : system.Reachable unforestalled := System.reachable_replay _
  obtain ⟨before, run, record, k, e, hown, hraises, hattached, hforeign⟩ := routing_of_replay hreach
    (s := .failed) (by decide +kernel) (by decide +kernel) (by decide +kernel)
  obtain ⟨⟨h₁, event, between, hfails⟩, htrue⟩ := routing_state_true_iff
    (lawfulRepository dialect) hreach (hown.trans (List.append_nil _).symm) hraises
      hattached hforeign
  exact ⟨_, before, run, k, h₁, event, between, hreach, hfails, htrue _ _ _ hfails⟩

end Scenario

end Alert2IR
