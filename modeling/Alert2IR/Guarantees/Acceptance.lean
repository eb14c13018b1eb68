import Alert2IR.Guarantees.Counting
import Alert2IR.Lifecycle.Operations
import Alert2IR.Persistence.Scenario

/-!
# Idempotent acceptance

All deliveries under one source and key agree on one processing, which one of them has created. The
others change nothing and reach no backend: they are told of the processing, or that theirs was
another alert.
-/

namespace Alert2IR

open Interleaving PersistentAlertProcessor

variable {σ : Type} {M : Repository σ} {fp : CanonicalAlert → Except PyError (Int × List UInt8)}
  {cfg : Configuration σ} {t t' : Nat} {alert alert' : CanonicalAlert} {key key' : String}
  {acceptance acceptance' : ProcessingAcceptance}

/-! ### One delivery by itself -/

section Run

variable {o : AlertOrchestrator} {version : Int} {digest : List UInt8} {h : List Observation}
  {label : String} {r : Except PyError Outcome}
  {q : Prog Call Call.Response (Except PyError Outcome)}

/-- Counting the outcome of an acceptance, and returning. -/
def told (label : String) (r : Except PyError Outcome) :
    Prog Call Call.Response (Except PyError Outcome) :=
  .call (.observe (.idempotency label)) fun _ => .pure r

theorem leads_told (hleads : (told label r).Leads h q) : acts h = [] ∧
    (q = told label r ∨ q = .pure r) := by
  rcases Prog.leads_call_iff.mp hleads with ⟨rfl, rfl⟩ | ⟨u, h', rfl, hrest⟩
  · exact ⟨rfl, .inl rfl⟩
  · obtain ⟨rfl, rfl⟩ := Prog.leads_pure_iff.mp hrest
    exact ⟨rfl, .inr rfl⟩

/-- What a delivery comes to if it is not to advance the processing. -/
theorem leads_process {k : UUID} {rest : List Observation}
    (hfp : fp alert = .ok (version, digest))
    (hleads : ((Invocation.process o alert key).procedure fp).run.Leads h q)
    (hacts : acts h = Observation.repository
      (.acceptProcessing k alert alert.source.source key version digest) (.ok acceptance) :: rest)
    (hdeclined : acceptance.record.fingerprintVersion ≠ some version ∨
      acceptance.record.requestFingerprint ≠ some digest ∨ acceptance.created = false) :
    rest = [] ∧ ∃ label r, (q = told label r ∨ q = .pure r) ∧
      r = if acceptance.record.fingerprintVersion ≠ some version ∨
          acceptance.record.requestFingerprint ≠ some digest
        then .error (.idempotencyConflict acceptance.record.processingId)
        else .ok (.processed ⟨acceptance.record, true⟩) := by
  simp only [Invocation.procedure, process] at hleads
  rw [hfp] at hleads
  rcases Prog.leads_call_iff.mp hleads with ⟨rfl, -⟩ | ⟨id, h₁, rfl, hleads₁⟩
  · cases hacts
  rcases Prog.leads_call_iff.mp hleads₁ with ⟨rfl, -⟩ | ⟨answer, h₂, rfl, hleads₂⟩
  · cases hacts
  obtain ⟨⟨rfl, rfl⟩, rfl⟩ := List.cons.inj hacts
  have hleads₂ : (ExceptT.run (do
      let outcome ← (if acceptance.record.fingerprintVersion ≠ some version ∨
          acceptance.record.requestFingerprint ≠ some digest then do
        Proc.observe (.idempotency "conflict")
        throw (.idempotencyConflict acceptance.record.processingId)
      else if acceptance.created = false then do
        Proc.observe (.idempotency "replayed")
        return ⟨acceptance.record, true⟩
      else do
        Proc.observe (.idempotency "accepted")
        Proc.observe (.transition "unknown" "accepted")
        let advanced ← advanceAccepted o acceptance.record none
        return ⟨advanced, false⟩ : Proc ProcessingOutcome)
      return Outcome.processed outcome : Proc Outcome)).Leads h₂ q := hleads₂
  by_cases hconflict : acceptance.record.fingerprintVersion ≠ some version ∨
      acceptance.record.requestFingerprint ≠ some digest
  · rw [if_pos hconflict] at hleads₂
    have htold : (told "conflict" (.error (.idempotencyConflict
      acceptance.record.processingId))).Leads h₂ q := hleads₂
    obtain ⟨hrest, hq⟩ := leads_told htold
    exact ⟨hrest, _, _, hq, (if_pos hconflict).symm⟩
  · have hcreated : acceptance.created = false := by
      rcases hdeclined with hversion | hdigest | hcreated
      · exact absurd (.inl hversion) hconflict
      · exact absurd (.inr hdigest) hconflict
      · exact hcreated
    rw [if_neg hconflict, if_pos hcreated] at hleads₂
    have htold : (told "replayed" (.ok (.processed ⟨acceptance.record, true⟩))).Leads h₂ q :=
      hleads₂
    obtain ⟨hrest, hq⟩ := leads_told htold
    exact ⟨hrest, _, _, hq, (if_neg hconflict).symm⟩

end Run

/-! ### All deliveries together -/

/-- Thread `t` delivers `alert` under `key`, and its acceptance has been answered. -/
structure Accepted (cfg : Configuration σ) (t : Nat) (alert : CanonicalAlert) (key : String)
    (acceptance : ProcessingAcceptance) : Prop where
  delivers : ∃ o p, cfg.threads[t]? = some ⟨.process o alert key, p⟩
  answered : ∃ k version digest, Observation.repository
    (.acceptProcessing k alert alert.source.source key version digest) (.ok acceptance) ∈
      own t cfg.history

/-- Thread `t` has changed nothing, and calls neither a repository nor a backend but for its
acceptance. -/
structure Passive (L : LawfulRepository M) (cfg : Configuration σ) (t : Nat)
    (alert : CanonicalAlert) (key : String) (acceptance : ProcessingAcceptance) : Prop where
  unchanged : ∀ event ∈ cfg.history, event.thread = t → L.store event.after = L.store event.before
  only : ∃ k version digest, acts (own t cfg.history) = [Observation.repository
    (.acceptProcessing k alert alert.source.source key version digest) (.ok acceptance)]

/-- Thread `t` has returned `r`, or will with its next call, which is telemetry. -/
def Concludes (fp : CanonicalAlert → Except PyError (Int × List UInt8)) (M : Repository σ)
    (cfg : Configuration σ) (t : Nat) (r : Except PyError Outcome) : Prop :=
  cfg.returned t = some r ∨
    (∃ label, cfg.calling t = some (.observe (.idempotency label))) ∧
      ∀ cfg', (M.system fp).StepOf t cfg cfg' → cfg'.returned t = some r

namespace LawfulRepository

variable {L : LawfulRepository M} {is : List Invocation} {h : List (Event σ)} {w : World σ}
  {event : Event σ} {k : UUID} {version : Int} {digest : List UInt8} {scope : String}

/-- What an acceptance that was answered has done. -/
theorem SoundEvent.accepted (hevent : L.SoundEvent event)
    (hobserved : event.observed = Observation.repository
      (.acceptProcessing k alert scope key version digest) (.ok acceptance)) :
    ∃ e, L.store event.after acceptance.record.processingId = some e ∧
      e.processing = acceptance.record.toProcessingFields.durable ∧
      e.processing.idempotencyScope = some scope ∧ e.processing.idempotencyKey = some key ∧
      if acceptance.created = true then
        L.store event.before acceptance.record.processingId = none ∧
          e.processing.fingerprintVersion = some version ∧
          e.processing.requestFingerprint = some digest
      else L.store event.after = L.store event.before := by
  have hcoherent := hevent.coherent
  obtain ⟨t, w, _, _, w'⟩ := event
  cases hobserved
  obtain ⟨hgood, hfits, now, hlawful⟩ := hevent
  have hreports := hlawful.reports acceptance rfl
  obtain ⟨e, he, hdurable, hscope, hkey⟩ := hreports.records acceptance.record
    (List.mem_singleton.mpr rfl)
  refine ⟨e, he, hdurable, hscope, hkey, ?_⟩
  cases hcreated : acceptance.created with
  | false =>
      rw [if_neg Bool.false_ne_true]
      exact (hlawful.refused acceptance rfl hcreated).1
  | true =>
      rw [if_pos rfl]
      have hmoves := hlawful.wrote acceptance rfl hcreated
      dsimp only at hmoves he hcoherent ⊢
      generalize hs : L.store w' = s' at hmoves he hcoherent
      cases hmoves with
      | accept hfresh hnew =>
          have hk : acceptance.record.processingId = k :=
            hcoherent.identities _ _ _ _ he (Function.update_self ..) hscope hkey
          rw [hk, Function.update_self] at he
          obtain rfl := Option.some.inj he
          exact ⟨hk ▸ hfresh, rfl, rfl⟩
      | advance hentry hadvance hfresh => cases hadvance

/-- Where in the history the answer to an acceptance lies. -/
theorem exists_of_accepted (htrace : (M.system fp).Trace (Issues fp) (cfg.threads.map
    Thread.invocation) cfg.history cfg.state) (haccepted : Accepted cfg t alert key acceptance) :
    ∃ h₁ event h₂ k version digest, cfg.history = h₁ ++ event :: h₂ ∧ event.thread = t ∧
      event.observed = Observation.repository
        (.acceptProcessing k alert alert.source.source key version digest) (.ok acceptance) ∧
      fp alert = .ok (version, digest) ∧ acts (own t h₁) = [] := by
  obtain ⟨k, version, digest, hmem⟩ := haccepted.answered
  obtain ⟨event, hevent, rfl, hobserved⟩ := mem_own.mp hmem
  obtain ⟨h₁, h₂, hhistory⟩ := List.append_of_mem hevent
  obtain ⟨is₁, i, -, -, hissues, -⟩ := htrace.split hhistory
  have hcall : event.call = .repository
      (.acceptProcessing k alert alert.source.source key version digest) :=
    congrArg Interleaving.Observation.call hobserved
  rw [hcall] at hissues
  cases hissues with
  | quiet hquiet => cases hquiet
  | accept _ hfingerprint hfirst _ =>
      exact ⟨h₁, event, h₂, k, version, digest, hhistory, rfl, hobserved, hfingerprint, hfirst⟩

/-- An entry comes into being once. -/
theorem created_once (htrace : (M.system fp).Trace (Issues fp) is h w) {event' : Event σ}
    (hmem : event ∈ h) (hmem' : event' ∈ h) (hbefore : L.store event.before k = none)
    (hafter : (L.store event.after k).isSome = true) (hbefore' : L.store event'.before k = none)
    (hafter' : (L.store event'.after k).isSome = true) : event' = event := by
  have hlater : ∀ (h₁ h₂ : List (Event σ)) {first last : Event σ}, h = h₁ ++ last :: h₂ →
      first ∈ h₁ → (L.store first.after k).isSome = true → L.store last.before k ≠ none := by
    intro h₁ h₂ first last hhistory hfirst hsome hnone
    obtain ⟨is₁, i, htrace₁, -⟩ := htrace.split hhistory
    have hsound₁ : L.Sound h₁ last.before := sound_of_trace htrace₁
    obtain ⟨e, he⟩ := Option.isSome_iff_exists.mp hsome
    obtain ⟨e', he', -⟩ := hsound₁.evolves first hfirst k e he
    rw [hnone] at he'
    cases he'
  obtain ⟨h₁, h₂, rfl⟩ := List.append_of_mem hmem
  rcases List.mem_append.mp hmem' with hfirst | hlast
  · exact absurd hbefore (hlater h₁ h₂ rfl hfirst hafter')
  rcases List.mem_cons.mp hlast with rfl | hlast
  · rfl
  · obtain ⟨h₃, h₄, rfl⟩ := List.append_of_mem hlast
    refine absurd hbefore' (hlater (h₁ ++ event :: h₃) h₄ ?_ ?_ hafter)
    · rw [List.append_assoc, List.cons_append]
    · exact List.mem_append_right _ List.mem_cons_self

end LawfulRepository

section Deliveries

variable {L : LawfulRepository M}

/-- What a delivery was told of is the processing of its source and key, to this day. -/
theorem Accepted.stored (hreach : (M.system fp).Reachable cfg)
    (haccepted : Accepted cfg t alert key acceptance) :
    ∃ e, L.store cfg.state acceptance.record.processingId = some e ∧
      e.processing.idempotencyScope = some alert.source.source ∧
      e.processing.idempotencyKey = some key ∧
      e.processing.fingerprintVersion = acceptance.record.fingerprintVersion ∧
      e.processing.requestFingerprint = acceptance.record.requestFingerprint := by
  have htrace := (hreach.disciplined invocation_disciplined).trace
  have hsound : L.Sound cfg.history cfg.state := LawfulRepository.sound_of_trace htrace
  obtain ⟨h₁, event, h₂, k, version, digest, hhistory, -, hobserved, -⟩ :=
    LawfulRepository.exists_of_accepted htrace haccepted
  have hmem : event ∈ cfg.history := by simp [hhistory]
  obtain ⟨e, he, hdurable, hscope, hkey, -⟩ := (hsound.events event hmem).accepted hobserved
  obtain ⟨e', he', hevolves⟩ := hsound.evolves event hmem _ e he
  refine ⟨e', he', hevolves.identity.scope.trans hscope, hevolves.identity.key.trans hkey, ?_, ?_⟩
  · rw [hevolves.identity.version, hdurable]
    rfl
  · rw [hevolves.identity.fingerprint, hdurable]
    rfl

/-- The one that created the processing stored its own fingerprint. -/
theorem Accepted.created (hreach : (M.system fp).Reachable cfg)
    (haccepted : Accepted cfg t alert key acceptance) (hcreated : acceptance.created = true) :
    ∃ event ∈ cfg.history, event.thread = t ∧
      L.store event.before acceptance.record.processingId = none ∧
      (L.store event.after acceptance.record.processingId).isSome = true ∧
      ∃ version digest, fp alert = .ok (version, digest) ∧
        acceptance.record.fingerprintVersion = some version ∧
        acceptance.record.requestFingerprint = some digest := by
  have htrace := (hreach.disciplined invocation_disciplined).trace
  have hsound : L.Sound cfg.history cfg.state := LawfulRepository.sound_of_trace htrace
  obtain ⟨h₁, event, h₂, k, version, digest, hhistory, hthread, hobserved, hfp, -⟩ :=
    LawfulRepository.exists_of_accepted htrace haccepted
  have hmem : event ∈ cfg.history := by simp [hhistory]
  obtain ⟨e, he, hdurable, -, -, hcreates⟩ := (hsound.events event hmem).accepted hobserved
  rw [if_pos hcreated, hdurable] at hcreates
  obtain ⟨hnone, hversion, hdigest⟩ := hcreates
  exact ⟨event, hmem, hthread, hnone, by rw [he]; rfl, version, digest, hfp, hversion, hdigest⟩

/-- A delivery that is told of another's processing, or of another alert, is passive and ends. -/
theorem Accepted.declined (hreach : (M.system fp).Reachable cfg)
    (haccepted : Accepted cfg t alert key acceptance) {version : Int} {digest : List UInt8}
    (hfp : fp alert = .ok (version, digest))
    (hdeclined : acceptance.record.fingerprintVersion ≠ some version ∨
      acceptance.record.requestFingerprint ≠ some digest ∨ acceptance.created = false) :
    Passive L cfg t alert key acceptance ∧ Concludes fp M cfg t
      (if acceptance.record.fingerprintVersion ≠ some version ∨
          acceptance.record.requestFingerprint ≠ some digest
        then .error (.idempotencyConflict acceptance.record.processingId)
        else .ok (.processed ⟨acceptance.record, true⟩)) := by
  have htrace := (hreach.disciplined invocation_disciplined).trace
  have hsound : L.Sound cfg.history cfg.state := LawfulRepository.sound_of_trace htrace
  obtain ⟨h₁, event, h₂, k, version', digest', hhistory, hthread, hobserved, hfp', hfirst⟩ :=
    LawfulRepository.exists_of_accepted htrace haccepted
  cases hfp.symm.trans hfp'
  obtain ⟨o, p, hprogram⟩ := haccepted.delivers
  have hacts : acts (own t cfg.history) = Observation.repository
      (.acceptProcessing k alert alert.source.source key version digest) (.ok acceptance) ::
        acts (own t h₂) := by
    rw [hhistory, own_cons_self hthread, hobserved, acts_append, hfirst]
    rfl
  obtain ⟨hrest, label, r, hp, hr⟩ :=
    leads_process hfp (hreach.leads hprogram) hacts hdeclined
  have hnotCreated : acceptance.created = false := by
    by_contra hcreated
    obtain ⟨-, -, -, -, -, version', digest', hfp', hversion, hdigest⟩ :=
      haccepted.created (L := L) hreach (by simpa using hcreated)
    cases hfp.symm.trans hfp'
    rcases hdeclined with hdiffers | hdiffers | hfalse
    · exact hdiffers hversion
    · exact hdiffers hdigest
    · exact hcreated hfalse
  refine ⟨⟨fun other hother hthread' => ?_, ⟨k, version, digest, ?_⟩⟩, ?_⟩
  · have hown : other.observed ∈ own t cfg.history := mem_own.mpr ⟨other, hother, hthread', rfl⟩
    by_cases hact : other.call.isAct = true
    · have hsame : other.observed = Observation.repository
          (.acceptProcessing k alert alert.source.source key version digest) (.ok acceptance) := by
        have hmem : other.observed ∈ acts (own t cfg.history) :=
          List.mem_filter.mpr ⟨hown, hact⟩
        rw [hacts, hrest] at hmem
        exact List.mem_singleton.mp hmem
      obtain ⟨_, -, -, -, -, hunchanged⟩ := (hsound.events other hother).accepted hsame
      rw [hnotCreated, if_neg Bool.false_ne_true] at hunchanged
      exact hunchanged
    · obtain ⟨hgood, hcall⟩ := hsound.events other hother
      obtain ⟨t', w, c, x, w'⟩ := other
      cases c with
      | repository => exact absurd rfl hact
      | _ =>
          have hstore : w'.store = w.store := hcall
          exact congrArg L.view hstore
  · rw [hacts, hrest]
  · rw [← hr]
    rcases hp with rfl | rfl
    · refine .inr ⟨⟨label, Config.calling_eq_some_iff.mpr ⟨_, _, hprogram⟩⟩, fun cfg' hstep => ?_⟩
      cases hstep with
      | call hthread' hstep =>
          cases hprogram.symm.trans hthread'
          refine Config.returned_eq_some_iff.mpr ⟨.process o alert key, ?_⟩
          exact List.getElem?_set_self (List.getElem?_eq_some_iff.mp hprogram).1
    · exact .inl (Config.returned_eq_some_iff.mpr ⟨_, hprogram⟩)

/-- Where every acceptance of a source and key is answered, one of them is told that it created. -/
theorem Accepted.exists_created (L : LawfulRepository M) (hreach : (M.system fp).Reachable cfg)
    (haccepted : Accepted cfg t alert key acceptance)
    (hsteady : ∀ event ∈ cfg.history, ∀ k alert' version digest e,
      alert'.source.source = alert.source.source →
      event.observed ≠ Observation.repository
        (.acceptProcessing k alert' alert'.source.source key version digest) (.error e)) :
    ∃ t' alert' acceptance', Accepted cfg t' alert' key acceptance' ∧
      alert'.source.source = alert.source.source ∧ acceptance'.created = true := by
  have htrace := (hreach.disciplined invocation_disciplined).trace
  have hsound : L.Sound cfg.history cfg.state := LawfulRepository.sound_of_trace htrace
  obtain ⟨e, he, hscope, hkey, -⟩ := haccepted.stored (L := L) hreach
  obtain ⟨h₁, event, h₂, alert', scope, key', version, digest, hhistory, haccepts⟩ :=
    LawfulRepository.exists_accepts L htrace he
  have hmem : event ∈ cfg.history := by simp [hhistory]
  obtain ⟨now, hafter⟩ := haccepts.after
  obtain ⟨e', he', hevolves⟩ := hsound.evolves event hmem _ _ hafter
  obtain rfl := Option.some.inj (he.symm.trans he')
  have hscope' : alert.source.source = scope :=
    Option.some.inj (hscope.symm.trans hevolves.identity.scope)
  obtain rfl : key = key' := Option.some.inj (hkey.symm.trans hevolves.identity.key)
  obtain ⟨is₁, i, -, hinvocation, hissues, -⟩ := htrace.split hhistory
  have hevent := hsound.events event hmem
  have hbefore := haccepts.before
  have hcall := haccepts.call
  obtain ⟨t', w, c, r, w'⟩ := event
  obtain rfl : c = _ := hcall
  cases hissues with
  | quiet hquiet => cases hquiet
  | @accept o _ _ _ _ _ hi hfp _ _ =>
  have hi : i = .process o alert' key := hi
  subst hi
  cases r with
  | error e => exact absurd rfl (hsteady _ hmem _ alert' version digest e hscope'.symm)
  | ok acceptance' =>
      obtain ⟨thread, hthread, heq⟩ := (List.getElem?_map ..).symm.trans hinvocation |>
        Option.map_eq_some_iff.mp
      refine ⟨t', alert', acceptance', ⟨⟨o, thread.program, ?_⟩, _, _, _, mem_own.mpr
        ⟨_, hmem, rfl, rfl⟩⟩, hscope'.symm, ?_⟩
      · rw [hthread, ← heq]
      · by_contra hcreated
        obtain ⟨_, -, -, -, -, hunchanged⟩ := hevent.accepted rfl
        rw [if_neg hcreated] at hunchanged
        have hnone := congrFun hunchanged acceptance.record.processingId
        dsimp only at hnone hafter hbefore
        rw [hafter, hbefore] at hnone
        cases hnone

/-- Deliveries under one source and key are told of one processing. -/
theorem Accepted.processingId_eq (L : LawfulRepository M) (hreach : (M.system fp).Reachable cfg)
    (haccepted : Accepted cfg t alert key acceptance)
    (haccepted' : Accepted cfg t' alert' key acceptance')
    (hsource : alert.source.source = alert'.source.source) :
    acceptance.record.processingId = acceptance'.record.processingId := by
  have htrace := (hreach.disciplined invocation_disciplined).trace
  have hsound : L.Sound cfg.history cfg.state := LawfulRepository.sound_of_trace htrace
  obtain ⟨e, he, hscope, hkey, -⟩ := haccepted.stored (L := L) hreach
  obtain ⟨e', he', hscope', hkey', -⟩ := haccepted'.stored (L := L) hreach
  exact hsound.coherent.identities _ _ _ _ he he' (by rw [hscope, hscope', hsource])
    (by rw [hkey, hkey'])

/-- One delivery creates a processing. -/
theorem Accepted.thread_eq (L : LawfulRepository M) (hreach : (M.system fp).Reachable cfg)
    (haccepted : Accepted cfg t alert key acceptance)
    (haccepted' : Accepted cfg t' alert' key' acceptance')
    (hid : acceptance.record.processingId = acceptance'.record.processingId)
    (hcreated : acceptance.created = true) (hcreated' : acceptance'.created = true) : t = t' := by
  have htrace := (hreach.disciplined invocation_disciplined).trace
  obtain ⟨event, hmem, rfl, hnone, hsome, -⟩ := haccepted.created (L := L) hreach hcreated
  obtain ⟨event', hmem', rfl, hnone', hsome', -⟩ := haccepted'.created (L := L) hreach hcreated'
  rw [← hid] at hnone' hsome'
  rw [LawfulRepository.created_once htrace hmem hmem' hnone hsome hnone' hsome']

/-- **Deliveries under one source and key agree on one processing**, whoever else is at work.
Two of them are told of the same processing, at most one that it created it, and one does where
every acceptance of theirs is answered. A delivery of the stored fingerprint that did not create is
a replay and a delivery of another is a conflict: both change nothing, reach no backend and return.
Another source or key is never told of that processing. -/
theorem idempotent_acceptance (L : LawfulRepository M) (hreach : (M.system fp).Reachable cfg) :
    (∀ t t' alert alert' key acceptance acceptance', Accepted cfg t alert key acceptance →
      Accepted cfg t' alert' key acceptance' → alert.source.source = alert'.source.source →
      acceptance.record.processingId = acceptance'.record.processingId ∧
        (acceptance.created = true → acceptance'.created = true → t = t')) ∧
    (∀ t alert key acceptance, Accepted cfg t alert key acceptance →
      (∀ event ∈ cfg.history, ∀ k alert' version digest e,
        alert'.source.source = alert.source.source →
        event.observed ≠ Observation.repository
          (.acceptProcessing k alert' alert'.source.source key version digest) (.error e)) →
      ∃ t' alert' acceptance', Accepted cfg t' alert' key acceptance' ∧
        alert'.source.source = alert.source.source ∧ acceptance'.created = true) ∧
    (∀ t alert key acceptance version digest, Accepted cfg t alert key acceptance →
      fp alert = .ok (version, digest) →
      ∃ e, L.store cfg.state acceptance.record.processingId = some e ∧
        if e.processing.fingerprintVersion = some version ∧
            e.processing.requestFingerprint = some digest then
          acceptance.created = false → Passive L cfg t alert key acceptance ∧
            Concludes fp M cfg t (.ok (.processed ⟨acceptance.record, true⟩))
        else Passive L cfg t alert key acceptance ∧
          Concludes fp M cfg t (.error (.idempotencyConflict acceptance.record.processingId))) ∧
    (∀ t t' alert alert' key key' acceptance acceptance', Accepted cfg t alert key acceptance →
      Accepted cfg t' alert' key' acceptance' →
      acceptance.record.processingId = acceptance'.record.processingId →
      alert.source.source = alert'.source.source ∧ key = key') := by
  refine ⟨?_, fun t alert key acceptance haccepted => haccepted.exists_created L hreach, ?_, ?_⟩
  · intro t t' alert alert' key acceptance acceptance' haccepted haccepted' hsource
    have hid := haccepted.processingId_eq L hreach haccepted' hsource
    exact ⟨hid, haccepted.thread_eq L hreach haccepted' hid⟩
  · intro t alert key acceptance version digest haccepted hfp
    obtain ⟨e, he, -, -, hversion, hdigest⟩ := haccepted.stored (L := L) hreach
    refine ⟨e, he, ?_⟩
    rw [hversion, hdigest]
    by_cases hsame : acceptance.record.fingerprintVersion = some version ∧
        acceptance.record.requestFingerprint = some digest
    · rw [if_pos hsame]
      intro hcreated
      have hdeclined := haccepted.declined (L := L) hreach hfp (.inr (.inr hcreated))
      rwa [if_neg (by simp [hsame])] at hdeclined
    · rw [if_neg hsame]
      rw [not_and_or] at hsame
      have hdeclined := haccepted.declined (L := L) hreach hfp
        (hsame.elim .inl fun hdiffers => .inr (.inl hdiffers))
      rwa [if_pos hsame] at hdeclined
  · intro t t' alert alert' key key' acceptance acceptance' haccepted haccepted' hid
    obtain ⟨e, he, hscope, hkey, -⟩ := haccepted.stored (L := L) hreach
    obtain ⟨e', he', hscope', hkey', -⟩ := haccepted'.stored (L := L) hreach
    rw [← hid] at he'
    obtain rfl := Option.some.inj (he.symm.trans he')
    exact ⟨Option.some.inj (hscope.symm.trans hscope'), Option.some.inj (hkey.symm.trans hkey')⟩

end Deliveries

namespace Scenario

/-- The alert is delivered twice under one key, the second time while the first is at work. -/
def deliveredTwice : Configuration Db := system.replay [.spawn (arrival "key"),
  .spawn (arrival "key"), run 0 5 1 answers, run 1 5 2 answers, run 0 30 3 answers]

theorem deliveredTwice_reachable : system.Reachable deliveredTwice := System.reachable_replay _

/-- Whether this was an acceptance that was answered with the processing `k`. -/
def isAccepted (k : UUID) : Observation → Bool
  | ⟨.repository (.acceptProcessing ..), .ok (acceptance : ProcessingAcceptance)⟩ =>
      acceptance.record.processingId = k
  | _ => false

theorem exists_accepted {cfg : Configuration Db} {t : Nat} {k : UUID} {o : AlertOrchestrator}
    {alert : CanonicalAlert} {key : String}
    (hreach : ((Postgres.repository dialect).system fp).Reachable cfg)
    (hinvocation : (cfg.threads[t]?).map Thread.invocation = some (.process o alert key))
    (hanswered : (own t cfg.history).any (isAccepted k) = true) :
    ∃ acceptance, Accepted cfg t alert key acceptance ∧ acceptance.record.processingId = k := by
  obtain ⟨seen, hseen, haccepts⟩ := List.any_eq_true.mp hanswered
  obtain ⟨event, hmem, rfl, rfl⟩ := mem_own.mp hseen
  obtain ⟨h₁, h₂, hhistory⟩ := List.append_of_mem hmem
  obtain ⟨is₁, i, -, hthread, hissues, -⟩ :=
    (hreach.disciplined invocation_disciplined).trace.split hhistory
  rw [List.getElem?_map, hinvocation, Option.some.injEq] at hthread
  subst hthread
  obtain ⟨t, w, c, r, w'⟩ := event
  cases hissues with
  | quiet hquiet =>
      cases c with
      | repository c => cases hquiet
      | _ => cases haccepts
  | accept hi hfp =>
      cases hi
      rcases r with e | acceptance
      · cases haccepts
      obtain ⟨⟨_, p⟩, hprogram, heq⟩ := Option.map_eq_some_iff.mp hinvocation
      cases heq
      exact ⟨acceptance, ⟨⟨o, p, hprogram⟩, _, _, _, mem_own.mpr ⟨_, hmem, rfl, rfl⟩⟩,
        of_decide_eq_true haccepts⟩
  | _ => cases haccepts

theorem idempotent_acceptance_deliveredTwice : ∃ acceptance acceptance',
    Accepted deliveredTwice 0 Scenario.alert "key" acceptance ∧
      Accepted deliveredTwice 1 Scenario.alert "key" acceptance' ∧
      acceptance.record.processingId = acceptance'.record.processingId := by
  have hboth : ([0, 1].all fun t =>
      (deliveredTwice.threads[t]?).map Thread.invocation = some (arrival "key") &&
        (own t deliveredTwice.history).any (isAccepted 0)) = true := by
    decide +kernel
  have hfirst := (Bool.and_eq_true ..).mp (List.all_eq_true.mp hboth 0 (by decide))
  have hsecond := (Bool.and_eq_true ..).mp (List.all_eq_true.mp hboth 1 (by decide))
  obtain ⟨acceptance, haccepted, -⟩ :=
    exists_accepted deliveredTwice_reachable (of_decide_eq_true hfirst.1) hfirst.2
  obtain ⟨acceptance', haccepted', -⟩ :=
    exists_accepted deliveredTwice_reachable (of_decide_eq_true hsecond.1) hsecond.2
  exact ⟨acceptance, acceptance', haccepted, haccepted',
    ((idempotent_acceptance (Postgres.lawfulRepository dialect) deliveredTwice_reachable).1 0 1
      Scenario.alert Scenario.alert "key" acceptance acceptance' haccepted haccepted' rfl).1⟩

end Scenario

end Alert2IR
