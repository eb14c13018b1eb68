import Alert2IR.Application.Endings
import Alert2IR.Guarantees.Acceptance
import Alert2IR.Guarantees.Outcomes
import Alert2IR.Guarantees.Surfacing

/-!
# A replay repeats the terminal answer

A delivery that has ended its processing is answered from what its processor has just seen, and a
later one from what is durable. The answers agree in their status: by way of the record where the
first delivery was handed one, and otherwise because the table of durable failures maps the category
of a failure of planning to the status of its exception.
-/

namespace Alert2IR

open Interleaving PersistentAlertProcessor

/-! ### What the boundary makes of both -/

namespace Api

variable {dump : ProcessingRecord → List UInt8} {record record' : ProcessingRecord}

/-- The status of a record depends on its state and its error category. -/
theorem statusCode_public_congr (hstate : record.state = record'.state)
    (hcategory : record.errorCategory = record'.errorCategory) (replayed replayed' : Bool) :
    (publicProcessingResponse dump record replayed).statusCode =
      (publicProcessingResponse dump record' replayed').statusCode := by
  unfold publicProcessingResponse
  rw [hstate, hcategory]
  cases record'.state with
  | failed =>
      cases record'.errorCategory with
      | none => rfl
      | some category =>
          cases hlookup : durableClientFailures.lookup category with
          | none => simp only [hlookup]
          | some entry => simp only [hlookup, errorResponse]
  | _ => rfl

/-- A replay names its processing in its headers. -/
theorem headers_public (record : ProcessingRecord) :
    (publicProcessingResponse dump record true).headers =
      [("Location", statusUrl record.processingId), ("Idempotency-Replayed", "true")] := by
  unfold publicProcessingResponse
  cases record.state with
  | failed =>
      cases record.errorCategory with
      | none => rfl
      | some category =>
          cases hlookup : durableClientFailures.lookup category with
          | none => simp only [hlookup]; rfl
          | some entry => simp only [hlookup, errorResponse]; rfl
  | _ => rfl

/-- **The table of durable failures agrees with the handlers**: what a failure of planning is
answered with first, and from its stored category later, has one status. -/
theorem statusCode_planningError {k : UUID} {category : String} {e : PyError} {replayed : Bool}
    (herror : PlanningError k .failed category e) (hstate : record.state = .failed)
    (hcategory : record.errorCategory = some category) :
    (processAlert dump (.error e)).statusCode =
      (publicProcessingResponse dump record replayed).statusCode := by
  unfold publicProcessingResponse
  rw [hstate, hcategory]
  cases herror with
  | unsupported requested => rfl
  | ambiguous requested eligible =>
      have hlookup : durableClientFailures.lookup "backend_selection_error" = none := by decide
      simp only [hlookup]
      rfl
  | planning =>
      have hlookup : durableClientFailures.lookup "backend_selection_error" = none := by decide
      simp only [hlookup]
      rfl

end Api

/-! ### Who has ended a processing -/

theorem RepositoryCall.exists_of_ends {c : RepositoryCall} {x : c.Result} (hends : c.ends = true)
    (hwrote : c.wrote x = true) : ∃ record, c.records x = [record] := by
  have hsome : ∀ updated : Option ProcessingRecord, updated.isSome = true →
      ∃ record, updated.toList = [record] := by
    rintro (_ | record) hsome
    · cases hsome
    · exact ⟨record, rfl⟩
  cases c with
  | storeNoActionResult | completeProcessing | failProcessing => exact hsome x hwrote
  | markRecoveryRequired a expected =>
      rcases expected with _ | ⟨s, _ | ⟨s', expected⟩⟩ <;> cases hends
  | _ => cases hends

section Runs

variable {σ : Type} {M : Repository σ} {fp : CanonicalAlert → Except PyError (Int × List UInt8)}
  {cfg : Configuration σ} {L : LawfulRepository M} {event : Event σ} {k : UUID}

namespace LawfulRepository

/-- With this event the processing `k` becomes completed or failed. -/
def Ends (L : LawfulRepository M) (event : Event σ) (k : UUID) : Prop :=
  ∃ τ : Transition, τ.1 ≠ some τ.2 ∧ τ.2 ∈ [ProcessingState.completed, .failed] ∧
    L.Takes τ event k

/-- Its call answers with the processing as it has ended it. -/
theorem SoundEvent.ended (hevent : L.SoundEvent event)
    (hnamed : ∀ c, event.call = .repository c → c.Named)
    (hsteady : Observation.repositoryRaised event.observed = false) (hends : L.Ends event k) :
    ∃ record e, Observation.ended event.observed = some record ∧ record.processingId = k ∧
      L.store event.after k = some e ∧ e.processing = record.toProcessingFields.durable ∧
      record.state ∈ [ProcessingState.completed, .failed] := by
  have hcoherent' := hevent.coherent
  obtain ⟨τ, hdistinct, hterminal, htakes⟩ := hends
  obtain ⟨t, w, c, r, w'⟩ := event
  obtain ⟨hgood, hcall⟩ := hevent
  have hchanged : L.store w' ≠ L.store w := by
    intro hsame
    obtain ⟨hbefore, hafter⟩ := htakes
    dsimp only at hbefore hafter
    rw [hsame] at hafter
    exact hdistinct (hbefore.symm.trans hafter)
  cases c with
  | repository c =>
      rcases r with error | x
      · cases hsteady
      obtain ⟨hfits, now, hlawful⟩ := hcall
      have hwrote : c.wrote x = true := by
        by_contra hfalse
        exact hchanged (hlawful.refused x rfl (by simpa using hfalse)).1
      obtain ⟨k', e, hafter, hconcerns, hmoved⟩ :=
        moves_cases (L.coherent hgood) (hnamed c rfl) (hlawful.wrote x rfl hwrote)
      obtain ⟨rfl, hτ⟩ := (takes_iff hafter hdistinct).mp htakes
      have htransition : c.transition = some τ := by
        rcases hmoved with hmoved | ⟨-, hsame⟩
        · rw [hmoved]
          exact congrArg some hτ.symm
        · rw [hτ] at hdistinct
          exact absurd hsame hdistinct
      have hends : c.ends = true := by
        rw [RepositoryCall.ends, htransition]
        simpa using hterminal
      obtain ⟨record, hrecords⟩ := RepositoryCall.exists_of_ends hends hwrote
      have hself : L.store w' k = some e := by rw [hafter, Function.update_self]
      have hdurable := durable_of_won hcoherent' hwrote (hlawful.reports x rfl) hself hconcerns
        (by rw [hrecords]; exact List.mem_singleton.mpr rfl)
      have hstate : record.state = τ.2 := by
        rw [hτ]
        exact (congrArg ProcessingFields.state hdurable).symm
      refine ⟨record, e, ?_, ?_, hself, hdurable, by rwa [hstate]⟩
      · rw [Event.observed, Observation.ended, hends, hwrote, hrecords]
        rfl
      · rw [← hcoherent'.id k e hself, hdurable]
        rfl
  | _ =>
      have hsame : w'.store = w.store := hcall
      exact absurd (congrArg L.view hsame) hchanged

/-- A processing that was failed is answered with the category it was failed with. -/
theorem SoundEvent.failed (hevent : L.SoundEvent event) {expected : List ProcessingState}
    {category detail : String} {attemptId : Option UUID} {record : ProcessingRecord}
    (hobserved : event.observed = Observation.repository
      (.failProcessing k expected category detail attemptId) (.ok (some record))) :
    k = record.processingId ∧ record.state = .failed ∧ record.errorCategory = some category := by
  have hcoherent := hevent.coherent
  obtain ⟨t, w, _, _, w'⟩ := event
  cases hobserved
  obtain ⟨hgood, hfits, now, hlawful⟩ := hevent
  have hmoves := hlawful.wrote (some record) rfl rfl
  have hreports := hlawful.reports (some record) rfl
  dsimp only at hcoherent hmoves hreports
  generalize L.store w' = s' at hcoherent hmoves hreports
  cases hmoves with
  | @advance _ k' e e' hentry hadvance hfresh =>
      have hconcerned : e'.processing.processingId = k := Entry.concerns_of_advanced hadvance
      have hdurable := durable_of_won
        (c := .failProcessing k expected category detail attemptId) (x := some record) hcoherent rfl
        hreports (Function.update_self ..) (Entry.concerns_of_advanced hadvance)
        (List.mem_singleton.mpr rfl)
      obtain ⟨-, hfails⟩ := Option.ite_none_right_eq_some.mp hadvance
      have hfailed : e'.processing = e.processing.fail now category detail := by
        cases attemptId with
        | none =>
            cases hfails
            rfl
        | some attemptId =>
            obtain ⟨a, -, -, -, rfl⟩ := Entry.move_eq_some_iff.mp hfails
            rfl
      rw [hdurable] at hfailed hconcerned
      exact ⟨hconcerned.symm, congrArg ProcessingFields.state hfailed,
        congrArg ProcessingFields.errorCategory hfailed⟩

end LawfulRepository

section Repeats

variable {t t' : Nat} {alert alert' : CanonicalAlert} {key : String}
  {acceptance acceptance' : ProcessingAcceptance} {h₁ h₂ : List (Event σ)}

/-- What is answered to the delivery that has ended a processing, and what to a later one. -/
structure Repeats (dump : ProcessingRecord → List UInt8) (r : Except PyError ProcessingOutcome)
    (record : ProcessingRecord) : Prop where
  statusCode : (Api.processAlert dump r).statusCode =
    (Api.processAlert dump (.ok ⟨record, true⟩)).statusCode
  headers : (Api.processAlert dump (.ok ⟨record, true⟩)).headers =
    [("Location", Api.statusUrl record.processingId), ("Idempotency-Replayed", "true")]
  returned : ∀ outcome, r = .ok outcome →
    outcome.record.toProcessingFields.durable = record.toProcessingFields.durable
  raised : ∀ e k s, r = .error e → e.attached = some (k, s) →
    k = record.processingId ∧ s = record.state

/-- Who has announced how the processing ended is repeated by every record of it. -/
theorem Announces.repeats (dump : ProcessingRecord → List UInt8) {seen : Observation}
    {ended record : ProcessingRecord} {r : Except PyError ProcessingRecord}
    (hannounces : Announces k seen ended r) (hid : ended.processingId = record.processingId)
    (hsame : ended.toProcessingFields.durable = record.toProcessingFields.durable)
    (hfailed : ∀ k' expected category detail attemptId, seen = Observation.repository
        (.failProcessing k' expected category detail attemptId) (.ok (some ended)) →
      k' = ended.processingId ∧ ended.state = .failed ∧ ended.errorCategory = some category) :
    Repeats dump ((fun record => ⟨record, false⟩) <$> r) record := by
  have hstate : ended.toProcessingFields.durable.state = record.toProcessingFields.durable.state :=
    by rw [hsame]
  have hcategory : ended.toProcessingFields.durable.errorCategory =
      record.toProcessingFields.durable.errorCategory := by rw [hsame]
  have hheaders : (Api.processAlert dump (.ok ⟨record, true⟩)).headers =
      [("Location", Api.statusUrl record.processingId), ("Idempotency-Replayed", "true")] :=
    Api.headers_public record
  cases hannounces with
  | record =>
      refine ⟨Api.statusCode_public_congr hstate hcategory false true, hheaders, ?_, ?_⟩
      · rintro _ ⟨⟩
        exact hsame
      · rintro e k s ⟨⟩
  | planning hseen herror =>
      obtain ⟨rfl, hends, hstored⟩ := hfailed _ _ _ _ _ hseen
      rw [hends] at herror
      refine ⟨Api.statusCode_planningError herror (hstate ▸ hends) (hcategory ▸ hstored), hheaders,
        ?_, ?_⟩
      · rintro outcome ⟨⟩
      · rintro e k s ⟨⟩ hattached
        cases herror with
        | planning => cases hattached
        | _ =>
            cases hattached
            exact ⟨hid, hends.symm.trans hstate⟩

/-- Who ends the processing of its delivery has created it, for the alert it delivers. -/
theorem Accepted.print_of_ends (hreach : (M.system fp).Reachable cfg)
    (haccepted : Accepted cfg t alert key acceptance) (hmem : event ∈ cfg.history)
    (hthread : event.thread = t) (hends : L.Ends event acceptance.record.processingId) :
    ∃ version digest, fp alert = .ok (version, digest) ∧
      acceptance.record.fingerprintVersion = some version ∧
      acceptance.record.requestFingerprint = some digest := by
  have htrace := (hreach.disciplined invocation_disciplined).trace
  obtain ⟨h₁, event', h₂, k, version, digest, -, -, -, hfp, -⟩ :=
    LawfulRepository.exists_of_accepted htrace haccepted
  have hcreated : acceptance.created = true := by
    by_contra hfalse
    obtain ⟨hpassive, -⟩ := haccepted.declined (L := L) hreach hfp
      (.inr (.inr (by simpa using hfalse)))
    obtain ⟨τ, hdistinct, -, hbefore, hafter⟩ := hends
    rw [hpassive.unchanged event hmem hthread] at hafter
    exact hdistinct (hbefore.symm.trans hafter)
  obtain ⟨-, -, -, -, -, hprint⟩ := haccepted.created (L := L) hreach hcreated
  exact hprint

/-- **A replay repeats the terminal answer.** Where the delivery that created a processing has
itself completed or failed it, whatever the policy, the router and the backends did, every delivery
of an equal alert under its source and key that comes later is a replay: it changes nothing, calls
no backend, and is answered with the status, the processing and the state of the first. -/
theorem replay_repeats_terminal_answer (L : LawfulRepository M)
    (dump : ProcessingRecord → List UInt8) (hreach : (M.system fp).Reachable cfg)
    {r : Except PyError ProcessingOutcome} (hcreator : Accepted cfg t alert key acceptance)
    (hreturned : cfg.returned t = some (Outcome.processed <$> r))
    (hsteady : ∀ event ∈ cfg.history, event.thread = t →
      Observation.repositoryRaised event.observed = false)
    (hhistory : cfg.history = h₁ ++ event :: h₂) (hthread : event.thread = t)
    (hends : L.Ends event acceptance.record.processingId)
    (hlater : acts (own t' h₁) = []) (hreplay : Accepted cfg t' alert' key acceptance')
    (hsource : alert'.source.source = alert.source.source) (hfp : fp alert' = fp alert) :
    acceptance'.record.processingId = acceptance.record.processingId ∧
      Repeats dump r acceptance'.record ∧ Passive L cfg t' alert' key acceptance' ∧
      Concludes fp M cfg t' (.ok (.processed ⟨acceptance'.record, true⟩)) ∧
      ∃ e, L.store event.after acceptance.record.processingId = some e ∧
        L.store cfg.state acceptance.record.processingId = some e ∧
        e.processing = acceptance'.record.toProcessingFields.durable := by
  have htrace := (hreach.disciplined invocation_disciplined).trace
  have hsound : L.Sound cfg.history cfg.state := LawfulRepository.sound_of_trace htrace
  have hmem : event ∈ cfg.history := by simp [hhistory]
  have hevent := hsound.events event hmem
  obtain ⟨is₁, i, -, -, hissues, -⟩ := htrace.split hhistory
  obtain ⟨ended, e, hended, hid, he, hdurable, hterminal⟩ := hevent.ended
    (fun c hc => Issues.named (hc ▸ hissues)) (hsteady event hmem hthread) hends
  have hsettled : e.processing.state.isSettled = true := by
    rw [hdurable]
    rcases List.mem_pair.mp hterminal with hstate | hstate <;>
      exact congrArg ProcessingState.isSettled hstate
  -- Whoever ends the processing of its delivery has created it.
  obtain ⟨version, digest, hprint, hversion, hdigest⟩ := hcreator.print_of_ends hreach hmem hthread
    hends
  obtain ⟨e', he', hscope, hkey, hversion', hdigest'⟩ := hcreator.stored (L := L) hreach
  obtain rfl : e' = e := hsound.settled hmem he hsettled he'
  -- The later acceptance is answered while the processing is as it was ended.
  obtain ⟨g₁, event', g₂, k', version₂, digest₂, hhistory', hthread', hobserved, hprint', -⟩ :=
    LawfulRepository.exists_of_accepted htrace hreplay
  obtain ⟨between, rest, hrest⟩ : ∃ between rest, h₂ = between ++ event' :: rest := by
    have hmem' : event' ∈ h₁ ++ event :: h₂ := by simp [← hhistory, hhistory']
    rcases List.mem_append.mp hmem' with hfirst | hlast
    · have hact : event'.observed ∈ acts (own t' h₁) := by
        refine List.mem_filter.mpr ⟨mem_own.mpr ⟨event', hfirst, hthread', rfl⟩, ?_⟩
        rw [hobserved]
        rfl
      rw [hlater] at hact
      cases hact
    rcases List.mem_cons.mp hlast with rfl | hlast
    · rw [hobserved] at hended
      cases hended
    · exact List.append_of_mem hlast
  have hsplit : cfg.history = (h₁ ++ event :: between) ++ event' :: rest := by
    rw [hhistory, hrest, List.append_assoc, List.cons_append]
  obtain ⟨is₂, i', htrace', -⟩ := htrace.split hsplit
  have hsound' : L.Sound _ event'.before := LawfulRepository.sound_of_trace htrace'
  have hevent' := hsound.events event' (by simp [hsplit])
  obtain ⟨e₂, he₂, hevolves⟩ := hsound'.evolves event (by simp) _ e' he
  obtain rfl : e₂ = e' := hevolves.settled hsettled
  obtain ⟨e₃, he₃, hdurable₃, hscope₃, hkey₃, haccepts⟩ := hevent'.accepted hobserved
  have hunsettled : L.store event'.after acceptance.record.processingId = some e₂ := by
    obtain ⟨e₄, he₄, hevolves⟩ := hevent'.evolves _ e₂ he₂
    rwa [hevolves.settled hsettled] at he₄
  have hsame : acceptance'.record.processingId = acceptance.record.processingId :=
    hevent'.coherent.identities _ _ _ _ he₃ hunsettled (hscope₃.trans (hsource ▸ hscope.symm))
      (hkey₃.trans hkey.symm)
  rw [hsame] at he₃ haccepts
  obtain rfl := Option.some.inj (he₃.symm.trans hunsettled)
  have hcreated : acceptance'.created = false := by
    by_contra hfalse
    rw [if_pos (by simpa using hfalse), he₂] at haccepts
    cases haccepts.1
  obtain ⟨hpassive, hconcludes⟩ :=
    hreplay.declined (L := L) hreach (hfp.trans hprint) (.inr (.inr hcreated))
  rw [if_neg (by
    rw [hdurable₃] at hversion' hdigest'
    have hversion : acceptance'.record.fingerprintVersion = some version := hversion'.trans hversion
    have hdigest : acceptance'.record.requestFingerprint = some digest := hdigest'.trans hdigest
    simp [hversion, hdigest])] at hconcludes
  -- What the first delivery returned is about the processing as it has ended it.
  obtain ⟨o, p, hprogram⟩ := hcreator.delivers
  obtain ⟨invocation, hpure⟩ := Config.returned_eq_some_iff.mp hreturned
  obtain ⟨rfl, rfl⟩ : invocation = .process o alert key ∧ p = .pure (Outcome.processed <$> r) := by
    cases hprogram.symm.trans hpure
    exact ⟨rfl, rfl⟩
  obtain ⟨r', hreturns, heq⟩ := returns_process_of_reachable hreach hprogram
  obtain rfl : r = r' := by
    cases r <;> cases r' <;> cases heq <;> rfl
  obtain ⟨k, r₀, hannounces, rfl⟩ := announces_process hreturns
    (mem_own.mpr ⟨event, hmem, hthread, rfl⟩) hended
  have hrepeats := hannounces.repeats dump (hid.trans hsame.symm) (hdurable.symm.trans hdurable₃)
    fun k' expected category detail attemptId hseen => hevent.failed hseen
  exact ⟨hsame, hrepeats, hpassive, hconcludes, e₃, he, he', hdurable₃⟩

end Repeats

end Runs

namespace Scenario

open Postgres

/-- The alert is delivered twice where no backend is configured. -/
def unroutedTwice : Configuration Db := system.replay [.spawn (.process ⟨⟨[]⟩⟩ alert "key"),
  run 0 30 1 answers, .spawn (.process ⟨⟨[]⟩⟩ alert "key"), run 1 30 2 answers]

theorem unroutedTwice_reachable : system.Reachable unroutedTwice := System.reachable_replay _

/-- Whether with this event thread 0 fails the processing 0, which was accepted. -/
def failsAccepted (event : Event Db) : Bool :=
  event.thread = 0 &&
    (view event.before.store 0).map (fun e => e.processing.state) = some .accepted &&
    (view event.after.store 0).map (fun e => e.processing.state) = some .failed

theorem replay_repeats_unroutedTwice : ∃ (r : Except PyError ProcessingOutcome)
    (record : ProcessingRecord), unroutedTwice.returned 0 = some (Outcome.processed <$> r) ∧
      Repeats (fun _ => []) r record ∧
      Concludes fingerprint (repository dialect) unroutedTwice 1
        (.ok (.processed ⟨record, true⟩)) := by
  have hrun : ([0, 1].all (fun t =>
      (unroutedTwice.threads[t]?).map Thread.invocation =
        some (.process ⟨⟨[]⟩⟩ Scenario.alert "key") &&
        (own t unroutedTwice.history).any (isAccepted 0)) &&
      (unroutedTwice.returned 0).isSome &&
      unroutedTwice.history.all (fun event => !Observation.repositoryRaised event.observed) &&
      (unroutedTwice.history[6]?).any failsAccepted &&
      (acts (own 1 (unroutedTwice.history.take 6))).isEmpty) = true := by
    decide +kernel
  simp only [Bool.and_eq_true, List.all_cons, List.all_nil, decide_eq_true_eq,
    List.isEmpty_iff] at hrun
  obtain ⟨⟨⟨⟨⟨⟨hfirst, hfirst'⟩, ⟨hsecond, hsecond'⟩, -⟩, hreturned⟩, hsteady⟩, hfails⟩,
    hlater⟩ := hrun
  obtain ⟨acceptance, haccepted, hid⟩ := exists_accepted unroutedTwice_reachable hfirst hfirst'
  obtain ⟨acceptance', haccepted', -⟩ := exists_accepted unroutedTwice_reachable hsecond hsecond'
  obtain ⟨r₀, hr₀⟩ := Option.isSome_iff_exists.mp hreturned
  obtain ⟨i, hthread⟩ := Config.returned_eq_some_iff.mp hr₀
  rw [hthread, Option.map_some, Option.some.injEq] at hfirst
  obtain rfl : i = .process ⟨⟨[]⟩⟩ Scenario.alert "key" := hfirst
  obtain ⟨r, -, rfl⟩ := returns_process_of_reachable unroutedTwice_reachable hthread
  obtain ⟨event, hevent, hfails⟩ := (Option.any_eq_true ..).mp hfails
  obtain ⟨hlt, rfl⟩ := List.getElem?_eq_some_iff.mp hevent
  have hsplit : unroutedTwice.history = unroutedTwice.history.take 6 ++
      unroutedTwice.history[6] :: unroutedTwice.history.drop 7 := by
    rw [← List.drop_eq_getElem_cons hlt, List.take_append_drop]
  simp only [failsAccepted, Bool.and_eq_true, decide_eq_true_eq] at hfails
  obtain ⟨⟨hzero, hbefore⟩, hafter⟩ := hfails
  obtain ⟨-, hrepeats, -, hconcludes, -⟩ := replay_repeats_terminal_answer
    (lawfulRepository dialect) (fun _ => []) unroutedTwice_reachable haccepted hr₀
    (fun event hmem _ => by simpa using List.all_eq_true.mp hsteady event hmem) hsplit hzero
    ⟨(some .accepted, .failed), by decide, by decide, by rw [hid]; exact ⟨hbefore, hafter⟩⟩ hlater
    haccepted' rfl rfl
  exact ⟨r, acceptance'.record, hr₀, hrepeats, hconcludes⟩

end Scenario

end Alert2IR
