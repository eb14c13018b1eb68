import Alert2IR.Guarantees.Reconciliation
import Alert2IR.Lifecycle.Resumption

/-!
# Interrupted work is resumed

Wherever processors have crashed, one pass by itself that has the time and is not failed by the
repository leaves nothing behind that is accepted, planned or stale. It submits what was accepted or
planned, and gives up what may have been submitted already.
-/

namespace Alert2IR

open Interleaving Interleaving.Proc PersistentAlertProcessor

/-! ### The loop of a lone pass -/

namespace Store

variable {Clock : Store → Int → Prop} {A : UUID → Prop} {s s' s'' : Store} {k : UUID}
  {ids : List UUID} {o : AlertOrchestrator} {deadline : Rat} {record : ProcessingRecord}
  {records : List ProcessingRecord} {report : ReconciliationReport}

/-- A lone pass has gone over the entries of `ids`, and stamped each at a time of the clock at which
it had not touched any other. -/
structure Passed (Clock : Store → Int → Prop) (ids : List UUID) (s s' : Store) : Prop where
  coherent : s'.Coherent
  others : ∀ k ∉ ids, s' k = s k
  examined : ∀ k ∈ ids, ∃ e e', s k = some e ∧ s' k = some e' ∧ e.Resumes e' ∧
    ∃ s₁ now, Clock s₁ now ∧ (∀ k' ∉ ids, s₁ k' = s k') ∧ e'.processing.updatedAt = .ofInstant now

theorem Passed.nil (hs : s.Coherent) : s.Passed Clock [] s :=
  ⟨hs, fun _ _ => rfl, by simp⟩

theorem Passed.cons {e : Entry} (he : s k = some e) (hworked : s.Worked Clock e.Resumes k s')
    (hk : k ∉ ids) (hrest : s'.Passed Clock ids s'') : s.Passed Clock (k :: ids) s'' := by
  obtain ⟨e₁, e', now, rfl, hresumes, hclock, hupdated⟩ := hworked
  refine ⟨hrest.coherent, fun k' hk' => ?_, fun k' hk' => ?_⟩
  · rw [List.mem_cons, not_or] at hk'
    rw [hrest.others k' hk'.2, Function.update_of_ne hk'.1]
  · rcases List.mem_cons.mp hk' with rfl | hmem
    · refine ⟨e, e', he, ?_, hresumes, _, now, hclock, fun k₂ hk₂ => ?_, hupdated⟩
      · rw [hrest.others k' hk, Function.update_self]
      · rw [List.mem_cons, not_or] at hk₂
        exact Function.update_of_ne hk₂.1 ..
    · obtain ⟨e₂, e₂', he₂, he₂', hresumes₂, s₁, now₂, hclock₂, hsame, hupdated₂⟩ :=
        hrest.examined k' hmem
      have hne : k' ≠ k := by
        rintro rfl
        exact hk hmem
      rw [Function.update_of_ne hne] at he₂
      refine ⟨e₂, e₂', he₂, he₂', hresumes₂, s₁, now₂, hclock₂, fun k₂ hk₂ => ?_, hupdated₂⟩
      rw [List.mem_cons, not_or] at hk₂
      rw [hsame k₂ hk₂.2, Function.update_of_ne hk₂.1]

section Found

variable {limit stale : Int} {e : Entry}

theorem open_of_reconcilable (h : e.Reconcilable stale) : e.Open := by
  rw [Entry.Open]
  rcases h with hstate | ⟨hstate, -⟩
  · revert hstate
    cases e.processing.state <;> simp
  · simp [hstate]

theorem Found.nodup (h : s.Found limit stale ids) : ids.Nodup := by
  obtain ⟨all, hnodup, -, -, rfl⟩ := h
  exact (List.take_sublist _ _).nodup hnodup

theorem Found.reconcilable (h : s.Found limit stale ids) (hk : k ∈ ids) :
    ∃ e, s k = some e ∧ e.Reconcilable stale := by
  obtain ⟨all, -, -, hall, rfl⟩ := h
  exact (hall k).mp (List.mem_of_mem_take hk)

/-- A batch that may hold everything there is to be found does. -/
theorem Found.all (h : s.Found limit stale ids)
    (hlimit : ∀ all : List UUID, all.Nodup →
      (∀ k ∈ all, ∃ e, s k = some e ∧ e.Reconcilable stale) → (all.length : Int) ≤ limit)
    {e : Entry} (he : s k = some e) (hreconcilable : e.Reconcilable stale) : k ∈ ids := by
  obtain ⟨all, hnodup, -, hall, rfl⟩ := h
  have hlength := hlimit all hnodup fun k hk => (hall k).mp hk
  rw [List.take_of_length_le (by omega)]
  exact (hall k).mpr ⟨e, he, hreconcilable⟩

end Found

/-- What a pass may still submit. -/
def Submittable (s : Store) (k : UUID) : Prop :=
  ∃ e, s k = some e ∧ e.processing.state ∈ [ProcessingState.accepted, .planned]

/-- A record of the batch that the loop has not come to. -/
structure Current (s : Store) (A : UUID → Prop) (record : ProcessingRecord) (e : Entry) : Prop where
  entry : s record.processingId = some e
  durable : e.processing = record.toProcessingFields.durable
  unended : e.Open
  allowed : e.processing.state ∈ [.accepted, .planned] → A record.processingId

/-- **The loop goes over its whole batch**, whatever policy and backend answer. -/
theorem examine_passes (hs : s.Coherent) (hnodup : (records.map (·.processingId)).Nodup)
    (hcurrent : ∀ record ∈ records, ∃ e, s.Current A record e) :
    s.Alone Clock (some deadline) A (examine o deadline records report) fun r s' =>
      (∃ report', r = .ok report' ∧ report'.examined = report.examined + records.length) ∧
        s.Passed Clock (records.map (·.processingId)) s' := by
  induction records generalizing s report with
  | nil => exact ⟨⟨report, rfl, rfl⟩, .nil hs⟩
  | cons record rest ih =>
      rw [List.map_cons, List.nodup_cons] at hnodup
      obtain ⟨e, hrecord⟩ := hcurrent record List.mem_cons_self
      unfold examine
      refine alone_remaining fun budget hbudget => ?_
      rw [if_neg (by simp [hbudget])]
      refine alone_read rfl fun _ => alone_catching_iff.mpr ?_
      refine Interleaving.Proc.wp_mono (reconcileRecord_worksOn hs hrecord.entry rfl hrecord.durable
        hrecord.unended hrecord.allowed) ?_
      rintro r s₁ ⟨hs₁, hworked⟩
      have hcurrent₁ : ∀ record' ∈ rest, ∃ e', s₁.Current A record' e' := by
        intro record' hmem
        obtain ⟨e', hrecord'⟩ := hcurrent record' (List.mem_cons_of_mem _ hmem)
        obtain ⟨e₁, e₂, now, rfl, -⟩ := hworked
        have hne : record'.processingId ≠ record.processingId := by
          intro heq
          exact hnodup.1 (heq ▸ List.mem_map_of_mem hmem)
        refine ⟨e', ?_, hrecord'.durable, hrecord'.unended, hrecord'.allowed⟩
        rw [Function.update_of_ne hne, hrecord'.entry]
      -- What is left of the pass, whichever count the record has gone to.
      have hrest : ∀ report₁ : ReconciliationReport, report₁.examined = report.examined + 1 →
          s₁.Alone Clock (some deadline) A (do
            let remaining ← remainingReconciliationSeconds (some deadline)
            if exhausted remaining then return { report₁ with timeLimitReached := true }
            else examine o deadline rest report₁) fun r s' =>
              (∃ report', r = .ok report' ∧
                report'.examined = report.examined + (record :: rest).length) ∧
                s.Passed Clock ((record :: rest).map (·.processingId)) s' := by
        intro report₁ hcount
        refine alone_remaining fun budget hbudget => ?_
        rw [if_neg (by simp [hbudget])]
        refine Interleaving.Proc.wp_mono (ih hs₁ hnodup.2 hcurrent₁) ?_
        rintro r' s₂ ⟨⟨report', hr', hexamined⟩, hpassed⟩
        refine ⟨⟨report', hr', ?_⟩, .cons hrecord.entry hworked hnodup.1 hpassed⟩
        rw [hexamined, hcount, List.length_cons]
        omega
      cases r with
      | error error => exact alone_perform rfl fun _ => hrest _ rfl
      | ok after =>
          refine alone_perform rfl fun _ => ?_
          split
          · exact hrest _ rfl
          · exact hrest _ rfl

end Store

/-! ### Lone passes -/

variable {σ : Type} {M : Repository σ} {fp : CanonicalAlert → Except PyError (Int × List UInt8)}
  {cfg cfg' : Configuration σ} {t : Nat} {o : AlertOrchestrator} {limit staleAfter : Int}
  {maxSeconds : Rat} {now : Datetime} {r : Except PyError Outcome}

/-- An invocation arrives. -/
def Configuration.arrive (M : Repository σ)
    (fp : CanonicalAlert → Except PyError (Int × List UInt8)) (cfg : Configuration σ)
    (i : Invocation) : Configuration σ :=
  { cfg with threads := cfg.threads ++ [⟨i, (M.system fp).entry i⟩] }

/-- A pass that ran by itself from its start to its end, was not failed by the repository and did
not come to its deadline. It read the time `now`. -/
structure LonePass (M : Repository σ) (fp : CanonicalAlert → Except PyError (Int × List UInt8))
    (t : Nat) (o : AlertOrchestrator) (limit : Int) (maxSeconds : Rat) (staleAfter : Int)
    (now : Datetime) (r : Except PyError Outcome) (cfg cfg' : Configuration σ) : Prop where
  fresh : own t cfg.history = []
  alone : (M.system fp).Alone t cfg cfg'
  returned : cfg'.threads[t]? = some ⟨.reconcileOnce o limit maxSeconds staleAfter, .pure r⟩
  clock : (own t cfg'.history)[1]? = some ⟨.wallClock, now⟩
  steady : ∀ seen ∈ own t cfg'.history, Observation.repositoryRaised seen = false
  inTime : ∀ started m : Rat, (own t cfg'.history).head? = some ⟨.monotonic, started⟩ →
    ⟨.monotonic, m⟩ ∈ own t cfg'.history → m < started + maxSeconds

/-- Submissions that started at this time or before are stale. -/
def staleBefore (now : Datetime) (staleAfter : Int) : Datetime :=
  { now with micros := now.micros - staleAfter }

/-- The prologue of a pass that the repository has not failed. -/
theorem prologue_of_pass {h : List Observation}
    (hreturns : ((Invocation.reconcileOnce o limit maxSeconds staleAfter).procedure fp).run.Returns
      h r) (hclock : h[1]? = some ⟨.wallClock, now⟩)
    (hsteady : ∀ seen ∈ h, Observation.repositoryRaised seen = false) :
    ∃ (started : Rat) (records : List ProcessingRecord) (h' : List Observation)
      (r' : Except PyError ReconciliationReport),
      h = ⟨.monotonic, started⟩ :: ⟨.wallClock, now⟩ ::
        Observation.repository (.findReconcilable limit (staleBefore now staleAfter))
          (.ok records) ::
        h' ∧ Returns (examine o (started + maxSeconds) records ⟨0, 0, 0, false⟩) h' r' ∧
      r = r'.map Outcome.reconciled := by
  obtain ⟨r', hpass, rfl⟩ : ∃ r', Returns (reconcileOnce o limit maxSeconds staleAfter) h r' ∧
      r = r'.map Outcome.reconciled := by
    rcases returns_bind_iff.mp hreturns with ⟨e, hpass, rfl⟩ | ⟨h₁, report, h₂, rfl, hpass, hrest⟩
    · exact ⟨.error e, hpass, rfl⟩
    · obtain ⟨rfl, rfl⟩ := returns_pure_iff.mp hrest
      rw [List.append_nil]
      exact ⟨.ok report, hpass, rfl⟩
  unfold reconcileOnce at hpass
  split at hpass
  · obtain ⟨rfl, -⟩ := returns_throw_iff.mp hpass
    cases hclock
  rw [returns_monotonic_bind_iff] at hpass
  obtain ⟨started, h₁, rfl, hpass⟩ := hpass
  rw [returns_wallClock_bind_iff] at hpass
  obtain ⟨now', h₂, rfl, hpass⟩ := hpass
  cases hclock
  rw [returns_repository_bind_iff] at hpass
  rcases hpass with ⟨e, rfl, -⟩ | ⟨records, h₃, rfl, hpass⟩
  · have hraised := hsteady _
      (List.mem_cons_of_mem _ (List.mem_cons_of_mem _ (List.mem_singleton_self _)))
    cases hraised
  · exact ⟨started, records, h₃, r', rfl, hpass, rfl⟩

section Sound

variable {L : LawfulRepository M} {Clock : Store → Int → Prop} {event : Event σ}

/-- An event of a pass that goes well is calm. -/
theorem LawfulRepository.SoundEvent.calm {deadline : Option Rat} (hevent : L.SoundEvent event)
    (hsteady : Observation.repositoryRaised event.observed = false)
    (hclock : ∀ c r, event.observed = Observation.repository c r → ∃ now,
      Clock (L.store event.before) now ∧
        (L.store event.before).Lawful now c r (L.store event.after))
    (hearly : ∀ m : Rat, event.observed = ⟨.monotonic, m⟩ → Store.InTime deadline m) :
    (L.store event.before).Calm Clock deadline event.call event.response (L.store event.after) := by
  obtain ⟨t, w, c, r, w'⟩ := event
  obtain ⟨-, hcall⟩ := hevent
  cases c with
  | repository c =>
      obtain ⟨now, htime, hlawful⟩ := hclock c r rfl
      rcases r with e | x
      · cases hsteady
      · exact ⟨hcall.1, x, now, rfl, htime, hlawful⟩
  | monotonic => exact ⟨congrArg L.view hcall, hearly r rfl⟩
  | _ => exact congrArg L.view hcall

theorem LawfulRepository.SoundEvent.lawful {c : RepositoryCall} {r : Except PyError c.Result}
    (hevent : L.SoundEvent event) (hobserved : event.observed = Observation.repository c r) :
    ∃ now, True ∧ (L.store event.before).Lawful now c r (L.store event.after) := by
  obtain ⟨t, w, _, _, w'⟩ := event
  cases hobserved
  obtain ⟨-, -, now, hlawful⟩ := hevent
  exact ⟨now, trivial, hlawful⟩

/-- An event that is no call of the repository changes nothing. -/
theorem LawfulRepository.SoundEvent.quiet (hevent : L.SoundEvent event)
    (hcall : event.observed.call.isRepository = false) :
      L.store event.after = L.store event.before := by
  obtain ⟨t, w, c, r, w'⟩ := event
  obtain ⟨-, hsame⟩ := hevent
  cases c with
  | repository c => cases hcall
  | _ => exact congrArg L.view hsame

/-- A batch is what there is to be found, as it stands. -/
theorem LawfulRepository.SoundEvent.found {limit : Int} {stale : Datetime}
    {records : List ProcessingRecord} (hevent : L.SoundEvent event)
    (hobserved : event.observed = Observation.repository (.findReconcilable limit stale)
      (.ok records)) :
    L.store event.after = L.store event.before ∧
      (L.store event.before).Found limit stale.instant (records.map (·.processingId)) ∧
      ∀ record ∈ records, ∃ e, L.store event.before record.processingId = some e ∧
        e.processing = record.toProcessingFields.durable := by
  obtain ⟨t, w, _, _, w'⟩ := event
  cases hobserved
  obtain ⟨-, -, now, hlawful⟩ := hevent
  have hsame : L.store w' = L.store w := hlawful.unchanged rfl
  have hreports := (hlawful.reports records rfl).records
  rw [hsame] at hreports
  refine ⟨hsame, hlawful.complete records rfl, fun record hmem => ?_⟩
  obtain ⟨e, he, hdurable, -⟩ := hreports record hmem
  exact ⟨e, he, hdurable⟩

end Sound

/-- **What a lone pass does.** It examines the whole batch it found, and each record of it has gone
further. It submits only what was accepted or planned when it came. -/
theorem LonePass.passed (L : LawfulRepository M) (Clock : Store → Int → Prop)
    (hreach : (M.system fp).Reachable cfg)
    (hpass : LonePass M fp t o limit maxSeconds staleAfter now r cfg cfg')
    (hclock : ∀ event ∈ cfg'.history, event.thread = t → ∀ c r,
      event.observed = Observation.repository c r → ∃ now, Clock (L.store event.before) now ∧
        (L.store event.before).Lawful now c r (L.store event.after)) :
    ∃ (records : List ProcessingRecord) (report : ReconciliationReport),
      r = .ok (.reconciled report) ∧ report.examined = records.length ∧
      (own t cfg'.history)[2]? = some (Observation.repository
        (.findReconcilable limit (staleBefore now staleAfter)) (.ok records)) ∧
      (L.store cfg.state).Found limit (staleBefore now staleAfter).instant
        (records.map (·.processingId)) ∧
      (L.store cfg.state).Passed Clock (records.map (·.processingId)) (L.store cfg'.state) ∧
      ∀ event ∈ cfg'.history, event.thread = t → ∀ k ∈ event.call.submits,
        (L.store cfg.state).Submittable k := by
  have hreach' := hreach.alone hpass.alone
  have hsound : L.Sound cfg'.history cfg'.state :=
    LawfulRepository.sound_of_trace (hreach'.disciplined invocation_disciplined).trace
  obtain ⟨events, hhistory, hchain⟩ := hpass.alone.chain
  have hown : own t cfg'.history = events.map Event.observed := by
    rw [hhistory, own_append, hpass.fresh, hchain.own, List.nil_append]
  have hthread : ∀ event ∈ cfg'.history, event.thread = t → event ∈ events := by
    intro event hmem heq
    rw [hhistory] at hmem
    rcases List.mem_append.mp hmem with hearlier | hnew
    · have hseen : event.observed ∈ own t cfg.history := mem_own.mpr ⟨event, hearlier, heq, rfl⟩
      rw [hpass.fresh] at hseen
      cases hseen
    · exact hnew
  have hnew : ∀ event ∈ events, event ∈ cfg'.history ∧ event.thread = t := fun event hmem =>
    ⟨hhistory ▸ List.mem_append_right _ hmem, hchain.thread event hmem⟩
  have hruns : ((Invocation.reconcileOnce o limit maxSeconds staleAfter).procedure fp).run.Returns
      (own t cfg'.history) r := hreach'.leads hpass.returned
  obtain ⟨started, records, h', r', hseen, hexamined, rfl⟩ :=
    prologue_of_pass hruns hpass.clock hpass.steady
  have hearly : ∀ m : Rat, ⟨.monotonic, m⟩ ∈ own t cfg'.history → m < started + maxSeconds :=
    fun m hmem => hpass.inTime started m (by rw [hseen]; rfl) hmem
  have hfound : (own t cfg'.history)[2]? = some (Observation.repository
      (.findReconcilable limit (staleBefore now staleAfter)) (.ok records)) := by rw [hseen]; rfl
  -- The pass is split into its three calls before the loop, which leave the store as it was, and
  -- the loop.
  rw [hown] at hseen
  obtain ⟨first, events₁, rfl, hfirst, hseen₁⟩ := List.map_eq_cons_iff.mp hseen
  obtain ⟨second, events₂, rfl, hsecond, hseen₂⟩ := List.map_eq_cons_iff.mp hseen₁
  obtain ⟨third, loop, rfl, hthird, rfl⟩ := List.map_eq_cons_iff.mp hseen₂
  have hevent : ∀ event ∈ first :: second :: third :: loop, L.SoundEvent event :=
    fun event hmem => hsound.events event (hnew event hmem).1
  obtain ⟨hstart, -, hchain₁⟩ := chain_cons_iff.mp hchain
  obtain ⟨hbefore₁, -, hchain₂⟩ := chain_cons_iff.mp hchain₁
  obtain ⟨hbefore₂, -, hloop⟩ := chain_cons_iff.mp hchain₂
  have hquiet₁ := (hevent first (by simp)).quiet (by rw [hfirst]; rfl)
  have hquiet₂ := (hevent second (by simp)).quiet (by rw [hsecond]; rfl)
  rw [hstart] at hquiet₁
  rw [hbefore₁, hquiet₁] at hquiet₂
  have hread := hevent third (by simp)
  obtain ⟨hunread, hbatch, hrecords⟩ := hread.found hthird
  rw [hbefore₂, hquiet₂] at hunread hbatch hrecords
  have hcoherent : (L.store cfg.state).Coherent := by
    rw [← hunread]
    exact hread.coherent
  have hcurrent : ∀ record ∈ records, ∃ e,
      (L.store cfg.state).Current (L.store cfg.state).Submittable record e := by
    intro record hmem
    obtain ⟨e, he, hdurable⟩ := hrecords record hmem
    obtain ⟨e', he', hreconcilable⟩ := hbatch.reconcilable (List.mem_map_of_mem hmem)
    obtain rfl := Option.some.inj (he.symm.trans he')
    exact ⟨e, he, hdurable, Store.open_of_reconcilable hreconcilable, fun hstate => ⟨e, he, hstate⟩⟩
  have hcalm : ∀ event ∈ loop, (L.store event.before).Calm Clock (some (started + maxSeconds))
      event.call event.response (L.store event.after) := by
    intro event hmem
    have hmem' : event ∈ first :: second :: third :: loop := by simp [hmem]
    obtain ⟨hin, hthread⟩ := hnew event hmem'
    have hseen : event.observed ∈ own t cfg'.history := mem_own.mpr ⟨event, hin, hthread, rfl⟩
    refine (hevent event hmem').calm (hpass.steady _ hseen) (hclock event hin hthread) ?_
    rintro m hm d hd
    cases hd
    exact hearly m (hm ▸ hseen)
  have hloops : (L.store third.after).Alone Clock (some (started + maxSeconds))
      (L.store cfg.state).Submittable (examine o (started + maxSeconds) records ⟨0, 0, 0, false⟩)
      fun r s' => (∃ report : ReconciliationReport, r = .ok report ∧
        report.examined = 0 + records.length) ∧
          (L.store cfg.state).Passed Clock (records.map (·.processingId)) s' := by
    rw [hunread]
    exact Store.examine_passes hcoherent hbatch.nodup hcurrent
  obtain ⟨⟨⟨report, rfl, hcount⟩, hpassed⟩, hcalls⟩ := hexamined.of_chain hloop hcalm hloops
  refine ⟨records, report, rfl, hcount.trans (Nat.zero_add _), hfound, hbatch, hpassed, ?_⟩
  intro event hmem heq k hk
  have hnone : ∀ {o : Observation}, event.observed = o → o.call.submits = none → False := by
    intro o hobserved hquiet
    rw [← hobserved] at hquiet
    have hsubmits : event.call.submits = none := hquiet
    rw [hsubmits] at hk
    cases hk
  rcases List.mem_cons.mp (hthread event hmem heq) with rfl | hmem₁
  · exact (hnone hfirst rfl).elim
  rcases List.mem_cons.mp hmem₁ with rfl | hmem₂
  · exact (hnone hsecond rfl).elim
  rcases List.mem_cons.mp hmem₂ with rfl | hmem₃
  · exact (hnone hthird rfl).elim
  · exact hcalls event hmem₃ k hk

/-- A submission that started at the time `stale` or before and has not come further. -/
def Entry.Stale (e : Entry) (stale : Int) : Prop :=
  e.processing.state = .submitting ∧
    ∃ a started, e.attempt = some a ∧ a.startedAt = some started ∧ started.instant ≤ stale

/-- **Interrupted work is resumed.** Wherever any number of processors have come or crashed, over
either repository, and whatever policy and backends answer: a pass by itself that the repository
does not fail, that has the time and that may look at all there is to be found returns and leaves
nothing accepted, planned or stale. It submits only what was accepted or planned, and what was
stale is in need of recovery then. -/
theorem interrupted_work_resumed (L : LawfulRepository M) (hreach : (M.system fp).Reachable cfg)
    (hpass : LonePass M fp t o limit maxSeconds staleAfter now r cfg cfg')
    (hlimit : ∀ all : List UUID, all.Nodup → (∀ k ∈ all, ∃ e, L.store cfg.state k = some e ∧
      e.Reconcilable (staleBefore now staleAfter).instant) → (all.length : Int) ≤ limit) :
    (∃ report, r = .ok (.reconciled report)) ∧
    (∀ k e, L.store cfg'.state k = some e →
      e.processing.state ∉ [ProcessingState.accepted, .planned] ∧
        ¬ e.Stale (staleBefore now staleAfter).instant) ∧
    (∀ k e, L.store cfg.state k = some e → e.Stale (staleBefore now staleAfter).instant →
      ∃ e', L.store cfg'.state k = some e' ∧ e'.processing.state = .recoveryRequired) ∧
    ∀ event ∈ cfg'.history, event.thread = t → ∀ k ∈ event.call.submits,
      ∃ e, L.store cfg.state k = some e ∧
        e.processing.state ∈ [ProcessingState.accepted, .planned] := by
  have hsound : L.Sound cfg'.history cfg'.state := LawfulRepository.sound_of_trace
    ((hreach.alone hpass.alone).disciplined invocation_disciplined).trace
  obtain ⟨records, report, hr, -, -, hfound, hpassed, hsubmits⟩ :=
    hpass.passed L (fun _ _ => True) hreach fun event hmem _ c r hobserved =>
      (hsound.events event hmem).lawful hobserved
  have hall := fun k e => hfound.all (k := k) (e := e) hlimit
  refine ⟨⟨report, hr⟩, fun k e he => ?_, fun k e he hstale => ?_, hsubmits⟩
  · by_cases hk : k ∈ records.map (·.processingId)
    · obtain ⟨e₀, e', -, he', ⟨hresting, -⟩, -⟩ := hpassed.examined k hk
      obtain rfl := Option.some.inj (he.symm.trans he')
      rw [Entry.Resting] at hresting
      refine ⟨fun hstate => ?_, fun hstale => ?_⟩
      · revert hstate hresting
        cases e.processing.state <;> simp
      · rw [hstale.1] at hresting
        simp at hresting
    · rw [hpassed.others k hk] at he
      refine ⟨fun hstate => hk (hall k e he (.inl ?_)),
        fun hstale => hk (hall k e he (.inr hstale))⟩
      revert hstate
      cases e.processing.state <;> simp
  · obtain ⟨e₀, e', he₀, he', ⟨-, hrecovered⟩, -⟩ := hpassed.examined k (hall k e he (.inr hstale))
    obtain rfl := Option.some.inj (he.symm.trans he₀)
    exact ⟨e', he', hrecovered hstale.1⟩

namespace Scenario

open Postgres

/-- Three processors crash: one has its alert accepted, one planned and one has claimed its
attempt. -/
def interrupted : Configuration Db := system.replay [.spawn (arrival "a"), run 0 2 1 answers,
  .spawn (arrival "b"), run 1 9 2 answers, .spawn (arrival "c"), run 2 11 3 answers]

theorem interrupted_reachable : system.Reachable interrupted := System.reachable_replay _

/-- A pass arrives. -/
def crashed : Configuration Db :=
  interrupted.arrive (Postgres.repository dialect) fingerprint (pass 0)

theorem crashed_reachable : system.Reachable crashed :=
    interrupted_reachable.tail (.spawn interrupted (pass 0))

/-- The pass has come to its end. -/
def resumed : Configuration Db := System.turns 3
  (Postgres.environment fingerprint { answers with wallClock := .ofInstant 5 } dialect 4)
    100 crashed

/-- What a reading of the clock has come to. -/
def reading : Observation → Option Rat
  | ⟨.monotonic, m⟩ => some m
  | _ => none

def wallTime : Observation → Option Datetime
  | ⟨.wallClock, now⟩ => some now
  | _ => none

/-- What makes a replayed pass a lone one, at the time 0 of the clock. -/
def isLone (before after : Configuration Db) (t : Nat) (limit : Int) (now : Datetime) : Bool :=
  before.history.all (fun event => event.thread ≠ t) &&
    (after.threads[t]?).map Thread.invocation = some (.reconcileOnce orchestrator limit 60 0) &&
    (after.returned t).isSome && (own t after.history)[1]?.bind wallTime = some now &&
    (own t after.history).all fun seen =>
      Observation.repositoryRaised seen = false && (reading seen).all fun m => m = 0

theorem lonePass_of_turns {cfg : Configuration Db} {t n : Nat} {env : Environment system}
    {limit : Int} {now : Datetime}
    (hlone : isLone cfg (System.turns t env n cfg) t limit now = true) :
    ∃ r, LonePass (Postgres.repository dialect) fingerprint t orchestrator limit 60 0 now r cfg
      (System.turns t env n cfg) := by
  simp only [isLone, Bool.and_eq_true, decide_eq_true_eq] at hlone
  obtain ⟨⟨⟨⟨hfresh, hinvocation⟩, hreturned⟩, hclock⟩, hseen⟩ := hlone
  obtain ⟨r, hr⟩ := Option.isSome_iff_exists.mp hreturned
  obtain ⟨i, hthread⟩ := Config.returned_eq_some_iff.mp hr
  rw [hthread, Option.map_some, Option.some.injEq] at hinvocation
  obtain rfl : i = .reconcileOnce orchestrator limit 60 0 := hinvocation
  have hgood := fun seen hmem => (Bool.and_eq_true ..).mp (List.all_eq_true.mp hseen seen hmem)
  have hzero : ∀ m : Rat, ⟨.monotonic, m⟩ ∈ own t (System.turns t env n cfg).history → m = 0 := by
    intro m hmem
    have hreading : decide (m = 0) = true := (hgood _ hmem).2
    exact of_decide_eq_true hreading
  refine ⟨r, ?_, System.alone_turns env n cfg, hthread, ?_, fun seen hmem => ?_,
    fun started m hhead hmem => ?_⟩
  · exact own_eq_nil fun event hmem => by simpa using List.all_eq_true.mp hfresh event hmem
  · obtain ⟨⟨c, x⟩, hseen, hx⟩ := Option.bind_eq_some_iff.mp hclock
    cases c with
    | wallClock =>
        cases hx
        exact hseen
    | _ => cases hx
  · exact of_decide_eq_true (hgood seen hmem).1
  · rw [hzero m hmem, hzero started (List.mem_of_mem_head? hhead)]
    decide +kernel

/-- The keys of a store of PostgreSQL are those of its table. -/
theorem mem_keys_of_view {db : Db} {k : UUID} {e : Entry} (he : Postgres.view db k = some e) :
    k ∈ db.processings.keys := by
  rw [← AList.mem_keys, ← AList.lookup_isSome]
  unfold Postgres.view at he
  cases hrow : db.processings.lookup k with
  | none =>
      rw [hrow] at he
      cases he
  | some row => rfl

theorem length_le_of_view {db : Db} {all : List UUID} (hnodup : all.Nodup)
    (hall : ∀ k ∈ all, ∃ e, Postgres.view db k = some e) :
    all.length ≤ db.processings.keys.length := by
  refine (hnodup.subperm fun k hk => ?_).length_le
  obtain ⟨e, he⟩ := hall k hk
  exact mem_keys_of_view he

theorem interrupted_work_resumed_crashed :
    crashed.state.store.processings.rows.map (·.state) = ["submitting", "planned", "accepted"] ∧
      ∀ k e, (lawfulRepository dialect).store resumed.state k = some e →
        e.processing.state ∉ [ProcessingState.accepted, .planned] := by
  have hlone : ∃ r, LonePass (Postgres.repository dialect) fingerprint 3 orchestrator 10 60 0
      (.ofInstant 5) r crashed resumed :=
    lonePass_of_turns (by decide +kernel)
  obtain ⟨r, hpass⟩ := hlone
  refine ⟨by decide +kernel, fun k e he => ?_⟩
  refine ((interrupted_work_resumed (lawfulRepository dialect) crashed_reachable hpass
    fun all hnodup hall => ?_).2.1 k e he).1
  have hlength := length_le_of_view hnodup fun k hk => (hall k hk).imp fun e he => he.1
  have hthree : crashed.state.store.processings.keys.length = 3 := by decide +kernel
  rw [hthree] at hlength
  omega

end Scenario

end Alert2IR
