import Alert2IR.Lifecycle.Alone

/-!
# What a lone processor leaves of an entry

The procedures of a processor, one by one, over a store on which nobody else is at work. Whatever
policy and backend answer, each takes its entry to where no pass has to pick it up again.
-/

namespace Alert2IR

open Interleaving PersistentAlertProcessor

/-! ### Procedures that only read -/

section Passive

variable {α β : Type}

/-- A procedure that neither changes the store nor submits. -/
abbrev Reads (p : Proc α) : Prop := Interleaving.Proc.Only (fun c => c.isPassive = true) p

theorem reads_repository {c : RepositoryCall} (hc : c.isRead = true) : Reads (Proc.repository c) :=
  ⟨hc, fun _ => trivial⟩

theorem reads_perform {c : Call} (hc : c.isPassive = true) :
    Reads (Interleaving.Proc.perform c : Proc (Call.Response c)) :=
  .perform hc

theorem reads_observeWhen (condition : Bool) (what : Observed) :
    Reads (Proc.observeWhen condition what) := by
  unfold Proc.observeWhen
  split
  · exact reads_perform rfl
  · exact .pure ()

theorem reads_reread (k : UUID) : Reads (reread k) := by
  refine .bind (reads_repository rfl) fun found => ?_
  cases found with
  | none => exact .throw _
  | some record => exact .pure record

theorem reads_orReread (updated : Option ProcessingRecord) (k : UUID) :
    Reads (orReread updated k) := by
  cases updated with
  | none => exact reads_reread k
  | some record => exact .pure record

theorem reads_evaluate (x : Except PyError α) : Reads (Proc.evaluate x) := by
  cases x with
  | ok a => exact .pure a
  | error e => exact .throw e

/-- What follows the last operation of most procedures. -/
theorem reads_settle {f : ProcessingRecord → Proc ProcessingRecord}
    (updated : Option ProcessingRecord) (k : UUID) (hf : ∀ durable, Reads (f durable)) :
    Reads (orReread updated k >>= f) :=
  .bind (reads_orReread updated k) hf

theorem reads_count (condition : Bool) (what : Observed) (durable : ProcessingRecord) :
    Reads (Proc.observeWhen condition what >>= fun _ => pure durable) :=
  .bind (reads_observeWhen condition what) fun _ => .pure durable

end Passive

/-! ### Work on one entry -/

namespace Entry

/-- An entry no pass has to pick up before a backend has come further. -/
def Resting (e : Entry) : Prop :=
  e.processing.state ∈ [.submitted, .completed, .failed, .recoveryRequired]

/-- An entry on which there is work left to do, be it a backend's. -/
def Open (e : Entry) : Prop :=
  e.processing.state ∈ [.accepted, .planned, .submitting, .submitted]

/-- How a pass takes an entry further. What may have been submitted is given up. -/
def Resumes (e e' : Entry) : Prop :=
  e'.Resting ∧ (e.processing.state = .submitting → e'.processing.state = .recoveryRequired)

variable {e e' : Entry} {a : AttemptFields} {now : Int}

/-- Past planning, a processing that has not ended has an attempt. -/
theorem Coherent.exists_attempt (h : e.Coherent)
    (hstate : e.processing.state ∈ [ProcessingState.planned, .submitting, .submitted]) :
    ∃ a, e.attempt = some a := by
  obtain ⟨processing, attempt⟩ := e
  have hnot : ∀ state, processing.state = state →
      state ∉ [ProcessingState.accepted, .completed, .failed] := by
    rintro state rfl
    revert hstate
    cases processing.state <;> simp
  cases h.phase with
  | accepted hcase => exact absurd (by simp) (hnot _ hcase)
  | noAction _ hcase => exact absurd (by simp) (hnot _ hcase)
  | rejected hcase => exact absurd (by simp) (hnot _ hcase)
  | executing _ _ a => exact ⟨a, rfl⟩

theorem isSome_move {attemptId : UUID} {expected : List ExecutionAttemptState}
    {attemptSet : AttemptFields → AttemptFields}
      {processingSet : ProcessingFields → ProcessingFields}
    (ha : e.attempt = some a) (hid : a.attemptId = attemptId) (hstate : a.state ∈ expected) :
    (e.move attemptId expected attemptSet processingSet).isSome = true := by
  rw [Option.isSome_iff_exists]
  exact ⟨_, move_eq_some_iff.mpr ⟨a, ha, hid, hstate, rfl⟩⟩

/-- An attempt is in the state of the name its processing's has. -/
theorem Coherent.attempt_state (h : e.Coherent) (ha : e.attempt = some a)
    {state : ExecutionAttemptState} (hstate : e.processing.state = state.processingState) :
    a.state = state := by
  obtain ⟨q, b, -, hserves⟩ := h.executing ha
  apply ExecutionAttemptState.processingState_injective
  rw [← hserves.state, hstate]

/-- A poll that is recorded leaves the entry in its state. -/
theorem of_recordPoll {attemptId : UUID} {remoteState : String} {category detail : Option String}
    (ha : e.attempt = some a) (hid : a.attemptId = attemptId)
    (hadvance : e.advance now (.recordPoll attemptId remoteState category detail) = some e') :
    (∃ a', e'.attempt = some a' ∧ a'.attemptId = attemptId ∧ a'.state = a.state) ∧
      e'.processing.state = e.processing.state := by
  obtain ⟨a₀, ha₀, -, -, rfl⟩ := move_eq_some_iff.mp hadvance
  obtain rfl := Option.some.inj (ha.symm.trans ha₀)
  exact ⟨⟨_, rfl, hid, rfl⟩, rfl⟩

section Failing

variable {k : UUID} {expected : List ProcessingState} {category detail : String}

/-- A failing operation on an entry whose attempt has not ended. -/
theorem isSome_fail {attemptId : UUID} (hk : e.processing.processingId = k)
    (hstate : e.processing.state ∈ expected) (ha : e.attempt = some a)
    (hid : a.attemptId = attemptId) (hactive : a.state ∈ ExecutionAttemptState.active) :
    (e.advance now (.failProcessing k expected category detail (some attemptId))).isSome
      = true := by
  rw [advance, if_pos ⟨hk, hstate⟩]
  exact isSome_move ha hid hactive

theorem state_of_fail {attemptId : Option UUID}
    (hadvance : e.advance now (.failProcessing k expected category detail attemptId) = some e') :
    e'.processing.state = .failed := by
  simp only [advance, Option.ite_none_right_eq_some] at hadvance
  obtain ⟨-, hadvance⟩ := hadvance
  cases attemptId with
  | none =>
      cases hadvance
      rfl
  | some attemptId =>
      obtain ⟨b, -, -, -, rfl⟩ := move_eq_some_iff.mp hadvance
      rfl

end Failing

end Entry

namespace Store

variable {Clock : Store → Int → Prop} {deadline : Option Rat} {A : UUID → Prop} {T : Entry → Prop}
  {s : Store} {k : UUID} {e : Entry} {o : AlertOrchestrator} {record : ProcessingRecord}
  {attempt : ExecutionAttempt}

/-- What a processor holds of an entry is up to date. -/
structure Holds (s : Store) (k : UUID) (e : Entry) (record : ProcessingRecord)
    (attempt : ExecutionAttempt) : Prop where
  coherent : s.Coherent
  entry : s k = some e
  record : e.processing = record.toProcessingFields.durable
  attempt : e.attempt = some attempt.toAttemptFields.durable

section Reports

variable {c : RepositoryCall} {x : c.Result}

/-- The attempt an operation reports is that of the entry it is about. -/
theorem attempt_of_reports (hs : s.Coherent) (he : s k = some e) (hc : c.isLifecycle = true)
    (hconcerns : c.Concerns e) (hreports : c.Reports s x) (hx : attempt ∈ c.attempts x) :
    e.attempt = some attempt.toAttemptFields.durable := by
  obtain ⟨e', he', hdurable, hconcerns'⟩ := hreports.attempts attempt hx
  have hk : k = attempt.processingId := hs.concerned_unique hc he he' hconcerns hconcerns'
  subst hk
  rw [Option.some.inj (he.symm.trans he')]
  exact hdurable

/-- The record an operation reports is that of the entry it is about. -/
theorem record_of_reports (hs : s.Coherent) (he : s k = some e) (hc : c.isLifecycle = true)
    (hconcerns : c.Concerns e) (hreports : c.Reports s x) (hx : record ∈ c.records x) :
    record.processingId = k ∧ e.processing = record.toProcessingFields.durable := by
  obtain ⟨e', he', hdurable, hconcerns'⟩ := hreports.records record hx
  have hk : k = record.processingId := hs.concerned_unique hc he he' hconcerns hconcerns'
  subst hk
  rw [Option.some.inj (he.symm.trans he')]
  exact ⟨rfl, hdurable⟩

end Reports

theorem recover_worksOn {a : AttemptFields} {attemptId processingId : UUID}
    {expected : ExecutionAttemptState} {category detail backendName : String} (hs : s.Coherent)
    (he : s k = some e) (ha : e.attempt = some a) (hid : a.attemptId = attemptId)
    (hstate : a.state = expected) (hT : ∀ e' : Entry, e'.processing.state =
      .recoveryRequired → T e') :
    s.WorksOn Clock deadline A T k
      (recover attemptId expected category detail processingId backendName) := by
  refine worksOn_last hs he (fun now => ?_) (fun now e' hadvance => ?_) fun recovery => ?_
  · exact Entry.isSome_move ha hid (by simp [hstate])
  · obtain ⟨b, -, -, -, rfl⟩ := Entry.move_eq_some_iff.mp hadvance
    exact hT _ rfl
  · exact reads_settle _ _ fun durable => reads_count _ _ _

/-- After a poll that found the operation succeeded. -/
theorem collect_worksOn {a : AttemptFields} {backend : Backend} {request : InvestigationRequest}
    {backendName externalOperationId remoteState : String} (hs : s.Coherent) (he : s k = some e)
    (ha : e.attempt = some a) (hid : a.attemptId = attempt.attemptId)
    (hstate : a.state = .submitted) :
    s.WorksOn Clock deadline A Entry.Resting k
      (collect record attempt backend request backendName externalOperationId remoteState
        deadline) := by
  unfold collect
  refine worksOn_move hs he (fun now => Entry.isSome_move ha hid (by simp [hstate]))
    fun now x e₁ hclock hadvance hwrote hs₁ hreports => ?_
  obtain ⟨⟨a₁, ha₁, hid₁, hstate₁⟩, -⟩ := Entry.of_recordPoll ha hid hadvance
  rw [hstate] at hstate₁
  refine alone_remaining fun budget hbudget => ?_
  rw [if_neg (by simp [hbudget])]
  refine alone_catching_passive ?_ fun collected => ?_
  · refine .bind ⟨rfl, fun _ => trivial⟩ fun answer => ?_
    rcases answer with _ | result
    · exact .throw _
    dsimp only
    split
    · exact .throw _
    split
    · exact reads_evaluate _
    · exact .throw _
  cases collected with
  | error error =>
      exact recover_worksOn hs₁ (Function.update_self ..) ha₁ hid₁ hstate₁
        fun e' hrecovered => by simp [Entry.Resting, hrecovered]
  | ok result =>
      refine worksOn_last hs₁ (Function.update_self ..) (fun now => ?_) (fun now e' hadvance => ?_)
        fun completed => ?_
      · exact Entry.isSome_move ha₁ hid₁ (List.mem_singleton.mpr hstate₁)
      · obtain ⟨b, -, -, -, rfl⟩ := Entry.move_eq_some_iff.mp hadvance
        simp [Entry.Resting, ProcessingFields.complete]
      · exact reads_settle _ _ fun durable => reads_count _ _ _

/-- A poll leaves the processing submitted or settled, whatever the backend answers. -/
theorem pollSubmitted_worksOn (hcurrent : s.Holds k e record attempt)
    (hid : record.processingId = k) (hstate : e.processing.state = .submitted) :
    s.WorksOn Clock deadline A Entry.Resting k (pollSubmitted o record attempt deadline) := by
  obtain ⟨hs, he, hrecord, hattempt⟩ := hcurrent
  have hsubmitted : attempt.toAttemptFields.durable.state = .submitted :=
    (hs.entry k e he).attempt_state hattempt hstate
  have hrecovered : ∀ e' : Entry, e'.processing.state = .recoveryRequired → e'.Resting :=
    fun e' hrecovered => by simp [Entry.Resting, hrecovered]
  have hrecover : ∀ category detail backendName, s.WorksOn Clock deadline A Entry.Resting k
      (recover attempt.attemptId .submitted category detail record.processingId backendName) :=
    fun category detail backendName => recover_worksOn hs he hattempt rfl hsubmitted hrecovered
  unfold pollSubmitted
  split
  case h_2 => exact hrecover _ _ _
  next request backendName externalOperationId hrequest hselected hexternal =>
  split
  · exact hrecover _ _ _
  next backend hbackend =>
  refine alone_remaining fun pollTimeout htimeout => ?_
  rw [if_neg (by simp [htimeout])]
  refine alone_catching_passive ?_ fun polled => ?_
  · refine .bind ⟨rfl, fun _ => trivial⟩ fun answer => ?_
    rcases answer with _ | status
    · exact .throw _
    · exact .pure status
  -- A poll that is recorded and nothing more leaves the processing submitted.
  have hpoll : ∀ remoteState category detail,
      s.WorksOn Clock deadline A Entry.Resting k (do
        let _ ← Proc.repository (.recordPoll attempt.attemptId remoteState category detail)
        reread record.processingId) := by
    intro remoteState category detail
    refine worksOn_last hs he (fun now => ?_) (fun now e' hadvance => ?_) fun recorded =>
      reads_reread _
    · exact Entry.isSome_move hattempt rfl (List.mem_singleton.mpr hsubmitted)
    · obtain ⟨b, -, -, -, rfl⟩ := Entry.move_eq_some_iff.mp hadvance
      simp [Entry.Resting, ProcessingFields.recordPoll, hstate]
  rcases polled with error | status
  · cases error with
    | timeoutError => exact hpoll _ _ _
    | _ => exact hrecover _ _ _
  dsimp only
  split
  · exact hpoll _ _ _
  · refine worksOn_move hs he (fun now => Entry.isSome_move hattempt rfl
      (List.mem_singleton.mpr hsubmitted)) fun now x e₁ hclock hadvance hwrote hs₁ hreports => ?_
    obtain ⟨⟨a₁, ha₁, hid₁, hstate₁⟩, hprocessing⟩ := Entry.of_recordPoll hattempt rfl hadvance
    rw [hsubmitted] at hstate₁
    have he₁ := hs₁.id k e₁ (Function.update_self ..)
    refine worksOn_last hs₁ (Function.update_self ..) (fun now => ?_) (fun now e' hadvance => ?_)
      fun failed => ?_
    · exact Entry.isSome_fail (he₁.trans hid.symm)
        (List.mem_singleton.mpr (hprocessing.trans hstate))
        ha₁ hid₁ (by rw [hstate₁]; decide)
    · simp [Entry.Resting, Entry.state_of_fail hadvance]
    · exact reads_settle _ _ fun durable => reads_count _ _ _
  · exact collect_worksOn hs he hattempt rfl hsubmitted
  · exact hrecover _ _ _

/-- An operation the backend has returned is made durable, and polled. -/
theorem persistSubmitted_worksOn {backendName : String} {submitted : SubmittedOperation}
    (hs : s.Coherent) (he : s k = some e)
      (hattempt : e.attempt = some attempt.toAttemptFields.durable)
    (hid : record.processingId = k) (hstate : e.processing.state = .submitting) :
    s.WorksOn Clock deadline A Entry.Resting k
      (persistSubmitted o record attempt backendName submitted deadline) := by
  have hsubmitting : attempt.toAttemptFields.durable.state = .submitting :=
    (hs.entry k e he).attempt_state hattempt hstate
  unfold persistSubmitted
  refine alone_perform rfl fun _ => alone_catching ?_
  refine worksOn_move hs he (fun now => Entry.isSome_move hattempt rfl
    (List.mem_singleton.mpr hsubmitting)) fun now x e₁ hclock hadvance hwrote hs₁ hreports => ?_
  cases x with
  | none => cases hwrote
  | some durableAttempt =>
  refine alone_perform rfl fun _ => ?_
  have he₁ : Function.update s k (some e₁) k = some e₁ := Function.update_self ..
  have hattempt₁ := attempt_of_reports hs₁ he₁ rfl (Entry.concerns_of_advanced hadvance) hreports
    (List.mem_singleton.mpr rfl)
  have hstate₁ : e₁.processing.state = .submitted := by
    obtain ⟨b, -, -, -, rfl⟩ := Entry.move_eq_some_iff.mp hadvance
    rfl
  rw [hid]
  refine alone_reread hs₁ he₁ fun durableRecord hid₁ hrecord₁ => ?_
  exact pollSubmitted_worksOn ⟨hs₁, he₁, hrecord₁, hattempt₁⟩ hid₁ hstate₁

/-- A claimed attempt is submitted, and does not stay in between, whatever the backend answers. -/
theorem submitClaimed_worksOn {backend : Backend} {request : InvestigationRequest}
    {backendName : String} (hA : A k) (hs : s.Coherent) (he : s k = some e)
    (hattempt : e.attempt = some attempt.toAttemptFields.durable) (hid : record.processingId = k)
    (hstate : e.processing.state = .submitting) :
    s.WorksOn Clock deadline A Entry.Resting k
      (submitClaimed o record attempt backend request backendName deadline) := by
  have hsubmitting : attempt.toAttemptFields.durable.state = .submitting :=
    (hs.entry k e he).attempt_state hattempt hstate
  unfold submitClaimed
  refine alone_perform rfl fun _ => alone_remaining fun operationTimeout htimeout => ?_
  rw [if_neg (by simp [htimeout])]
  refine alone_catching_still ?_ fun submission => ?_
  · refine ⟨fun k' hk' => ?_, fun answer s' hcalm => ?_⟩
    · cases hk'
      rwa [hid]
    · obtain rfl : s' = s := hcalm
      rcases answer with error | _ | submitted
      · rfl
      · rfl
      · rfl
  rcases submission with error | submitted
  · cases error with
    | backendSubmissionRejected =>
        refine alone_perform rfl fun _ => ?_
        refine worksOn_last hs he (fun now => ?_) (fun now e' hadvance => ?_) fun failed => ?_
        · exact Entry.isSome_fail ((hs.id k e he).trans hid.symm) (List.mem_singleton.mpr hstate)
            hattempt rfl (by rw [hsubmitting]; decide)
        · simp [Entry.Resting, Entry.state_of_fail hadvance]
        · exact reads_settle _ _ fun durable => reads_count _ _ _
    | _ =>
        refine alone_perform rfl fun _ => ?_
        refine worksOn_last hs he (fun now => ?_) (fun now e' hadvance => ?_) fun recovery => ?_
        · exact Entry.isSome_move hattempt rfl (List.mem_singleton.mpr hsubmitting)
        · obtain ⟨b, -, -, -, rfl⟩ := Entry.move_eq_some_iff.mp hadvance
          simp [Entry.Resting, ProcessingFields.markRecoveryRequired]
        · exact reads_settle _ _ fun durable => .bind (reads_observeWhen _ _) fun _ =>
            reads_count _ _ _
  · exact persistSubmitted_worksOn hs he hattempt hid hstate

/-- A planned processing is submitted, or failed if its backend is gone. -/
theorem submit_worksOn (hA : A k) (hcurrent : s.Holds k e record attempt)
    (hid : record.processingId = k) (hstate : e.processing.state = .planned) :
    s.WorksOn Clock deadline A Entry.Resting k (submit o record attempt deadline) := by
  obtain ⟨hs, he, hrecord, hattempt⟩ := hcurrent
  have hplanned : attempt.toAttemptFields.durable.state = .planned :=
    (hs.entry k e he).attempt_state hattempt hstate
  obtain ⟨q, b, hexecutes, -⟩ := (hs.entry k e he).executing hattempt
  have hrequest : ∃ request, record.investigationRequest = some request := by
    have hdurable := hexecutes.request
    rw [hrecord, ProcessingFields.durable_investigationRequest, Option.map_eq_some_iff] at hdurable
    obtain ⟨request, hrequest, -⟩ := hdurable
    exact ⟨request, hrequest⟩
  have hselected : record.selectedBackend = some b := by
    have hdurable := hexecutes.backend
    rwa [hrecord] at hdurable
  obtain ⟨request, hrequest⟩ := hrequest
  unfold submit
  rw [hrequest, hselected]
  dsimp only
  split
  · refine worksOn_last hs he (fun now => ?_) (fun now e' hadvance => ?_) fun failed =>
      reads_orReread _ _
    · exact Entry.isSome_fail ((hs.id k e he).trans hid.symm) (List.mem_singleton.mpr hstate)
        hattempt rfl (by rw [hplanned]; decide)
    · simp [Entry.Resting, Entry.state_of_fail hadvance]
  next backend hbackend =>
  refine alone_remaining fun operationTimeout htimeout => ?_
  rw [if_neg (by simp [htimeout])]
  refine alone_catching (worksOn_move hs he (fun now => Entry.isSome_move hattempt rfl
    (List.mem_singleton.mpr hplanned)) fun now x e₁ hclock hadvance hwrote hs₁ hreports => ?_)
  cases x with
  | none => cases hwrote
  | some claimed =>
  have he₁ : Function.update s k (some e₁) k = some e₁ := Function.update_self ..
  have hattempt₁ := attempt_of_reports hs₁ he₁ rfl (Entry.concerns_of_advanced hadvance) hreports
    (List.mem_singleton.mpr rfl)
  have hstate₁ : e₁.processing.state = .submitting := by
    obtain ⟨b, -, -, -, rfl⟩ := Entry.move_eq_some_iff.mp hadvance
    rfl
  exact submitClaimed_worksOn hA hs₁ he₁ hattempt₁ hid hstate₁

/-- A processing whose planning has failed is failed. -/
theorem failWithoutAttempt_worksOn {category detail : String} (hs : s.Coherent) (he : s k = some e)
    (hid : record.processingId = k) (hstate : e.processing.state = .accepted) :
    s.WorksOn Clock deadline A Entry.Resting k (failWithoutAttempt record category detail) := by
  unfold failWithoutAttempt
  refine alone_catching (worksOn_last hs he (fun now => ?_) (fun now e' hadvance => ?_)
    fun failed => ?_)
  · rw [Entry.advance, if_pos ⟨(hs.id k e he).trans hid.symm, List.mem_singleton.mpr hstate⟩]
    rfl
  · simp [Entry.Resting, Entry.state_of_fail hadvance]
  · cases failed with
    | none => exact .pure none
    | some failed => exact .bind (reads_perform rfl) fun _ => .pure (some failed)

/-- A plan is carried out: a processing without an action is completed, any other submitted. -/
theorem carryOut_worksOn {plan : PlanningResult} (hA : A k) (hs : s.Coherent) (he : s k = some e)
    (hid : record.processingId = k) (hstate : e.processing.state = .accepted) :
    s.WorksOn Clock deadline A Entry.Resting k (carryOut o record plan deadline) := by
  have haccepted : e.processing.processingId = record.processingId ∧
      e.processing.state = .accepted := ⟨(hs.id k e he).trans hid.symm, hstate⟩
  unfold carryOut
  by_cases houtcome : plan.decision.outcome = .noAction
  · rw [if_pos houtcome]
    obtain ⟨result, hresult⟩ := OrchestrationResult.exists_make_noAction houtcome
    rw [hresult]
    refine alone_catching (worksOn_last hs he (fun now => ?_) (fun now e' hadvance => ?_)
      fun completed => ?_)
    · rw [Entry.advance, if_pos haccepted]
      rfl
    · rw [Entry.advance, if_pos haccepted] at hadvance
      cases hadvance
      simp [Entry.Resting, ProcessingFields.storeNoActionResult]
    · exact reads_settle _ _ fun durable => reads_count _ _ _
  rw [if_neg houtcome]
  obtain ⟨incident, request, backend, hincident, hrequest, hbackend⟩ :=
    plan.of_investigate houtcome
  rw [hincident, hrequest, hbackend]
  refine alone_perform rfl fun (attemptId : UUID) =>
    alone_perform rfl fun (operationKey : UUID) => ?_
  refine alone_catching (worksOn_move hs he (fun now => ?_)
    fun now x e₁ hclock hadvance hwrote hs₁ hreports => ?_)
  · rw [Entry.advance, if_pos haccepted]
    rfl
  cases x with
  | none => cases hwrote
  | some planned =>
  have he₁ : Function.update s k (some e₁) k = some e₁ := Function.update_self ..
  have hconcerns := Entry.concerns_of_advanced hadvance
  obtain ⟨hid₁, hrecord₁⟩ := record_of_reports hs₁ he₁ rfl hconcerns hreports
    (List.mem_singleton.mpr rfl)
  have hattempt₁ := attempt_of_reports hs₁ he₁ rfl hconcerns hreports (List.mem_singleton.mpr rfl)
  have hplanned : e₁.processing.state = .planned := by
    rw [Entry.advance, if_pos haccepted] at hadvance
    cases hadvance
    rfl
  refine alone_perform rfl fun _ => ?_
  exact submit_worksOn hA ⟨hs₁, he₁, hrecord₁, hattempt₁⟩ hid₁ hplanned

theorem reads_plan {alert : CanonicalAlert} : Reads (o.plan alert) := by
  unfold AlertOrchestrator.plan
  refine .bind ⟨rfl, fun _ => trivial⟩ fun decision => ?_
  split
  · exact .throw _
  split
  · exact reads_evaluate _
  refine .bind (reads_evaluate _) fun incident => ?_
  refine .bind ⟨rfl, fun _ => trivial⟩ fun request => ?_
  split
  · exact .throw _
  · exact .bind (reads_evaluate _) fun backend => reads_evaluate _

/-- An accepted processing is planned and submitted, or failed, whatever policy and backend
answer. -/
theorem advanceAccepted_worksOn (hA : A k) (hs : s.Coherent) (he : s k = some e)
    (hid : record.processingId = k) (hstate : e.processing.state = .accepted) :
    s.WorksOn Clock deadline A Entry.Resting k (advanceAccepted o record deadline) := by
  unfold advanceAccepted
  refine alone_catching_passive reads_plan fun planned => ?_
  rcases planned with error | plan
  · have hfails : ∀ category detail, s.WorksOn Clock deadline A Entry.Resting k
        (failWithoutAttempt record category detail) :=
      fun category detail => failWithoutAttempt_worksOn hs he hid hstate
    cases error with
    | unsupportedCapabilities =>
        exact worksOn_then (hfails _ _) fun failed => .throw _
    | ambiguousBackend =>
        exact worksOn_then (hfails _ _) fun failed => .throw _
    | _ =>
        refine worksOn_then (hfails _ _) fun failed => ?_
        cases failed with
        | none => exact reads_reread _
        | some failed => exact .throw _
  · exact carryOut_worksOn hA hs he hid hstate

/-- What a pass does about a record takes its entry further. -/
theorem reconcileRecord_worksOn {deadline : Rat} (hs : s.Coherent) (he : s k = some e)
    (hid : record.processingId = k) (hrecord : e.processing = record.toProcessingFields.durable)
    (hopen : e.Open) (hA : e.processing.state ∈ [ProcessingState.accepted, .planned] → A k) :
    s.WorksOn Clock (some deadline) A e.Resumes k (reconcileRecord o record deadline) := by
  have hcoherent := hs.entry k e he
  have hstate : e.processing.state = record.state := by rw [hrecord]; rfl
  have hresumes : ∀ e' : Entry, e'.Resting → e.processing.state ≠ .submitting → e.Resumes e' :=
    fun e' hresting hnot => ⟨hresting, fun hsubmitting => absurd hsubmitting hnot⟩
  unfold reconcileRecord
  cases hcase : record.state with
  | accepted =>
      rw [hcase] at hstate
      refine WorksOn.mono (advanceAccepted_worksOn (hA (by simp [hstate])) hs he hid hstate) ?_
      exact fun e' hresting => hresumes e' hresting (by simp [hstate])
  | planned =>
      rw [hcase] at hstate
      obtain ⟨b, hb⟩ := hcoherent.exists_attempt (by simp [hstate])
      rw [hid]
      refine alone_getAttempt hs he hb fun attempt hattempt => ?_
      refine WorksOn.mono (submit_worksOn (hA (by simp [hstate]))
        ⟨hs, he, hrecord, hb.trans (congrArg some hattempt)⟩ hid hstate) ?_
      exact fun e' hresting => hresumes e' hresting (by simp [hstate])
  | submitting =>
      rw [hcase] at hstate
      obtain ⟨b, hb⟩ := hcoherent.exists_attempt (by simp [hstate])
      refine alone_perform rfl fun _ => ?_
      rw [hid]
      refine alone_getAttempt hs he hb fun attempt hattempt => ?_
      have hsubmitting : b.state = .submitting := hcoherent.attempt_state hb hstate
      refine recover_worksOn hs he hb (by rw [hattempt]; rfl) hsubmitting fun e' hrecovered => ?_
      exact ⟨by simp [Entry.Resting, hrecovered], fun _ => hrecovered⟩
  | submitted =>
      rw [hcase] at hstate
      obtain ⟨b, hb⟩ := hcoherent.exists_attempt (by simp [hstate])
      rw [hid]
      refine alone_getAttempt hs he hb fun attempt hattempt => ?_
      refine WorksOn.mono (pollSubmitted_worksOn
        ⟨hs, he, hrecord, hb.trans (congrArg some hattempt)⟩ hid hstate) ?_
      exact fun e' hresting => hresumes e' hresting (by simp [hstate])
  | _ =>
      rw [Entry.Open, hstate, hcase] at hopen
      simp at hopen

end Store

end Alert2IR
