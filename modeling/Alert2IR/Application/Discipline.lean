import Alert2IR.Application.CallSites

/-!
# Processors keep to their call sites

Every procedure, run against arbitrary answers, makes only the calls `Issues` lists. The proofs
follow the procedures; what has been seen so far only grows along the way.
-/

namespace Alert2IR

open Interleaving

variable {fp : CanonicalAlert → Except PyError (Int × List UInt8)} {i : Invocation}
  {h h' : List Observation} {record : ProcessingRecord} {attempt : ExecutionAttempt}
  {backend : Backend} {request : InvestigationRequest} {backendName externalOperationId : String}

/-! ### What has been seen stays seen -/

theorem acts_isPrefix (hinit : h <+: h') : acts h <+: acts h' := hinit.filter _

theorem Handed.mono (hrecord : Handed h record) (hinit : h <+: h') : Handed h' record := by
  obtain ⟨o, ho, hmem⟩ := hrecord
  exact ⟨o, hinit.subset ho, hmem⟩

theorem Belongs.mono {k : UUID} (hattempt : Belongs h k attempt) (hinit : h <+: h') :
    Belongs h' k attempt := by
  induction hattempt with
  | planned hplanned => exact .planned (hinit.subset hplanned)
  | read hread => exact .read (hinit.subset hread)
  | claimed _ hclaimed ih => exact .claimed ih (hinit.subset hclaimed)
  | submitted _ hsubmitted ih => exact .submitted ih (hinit.subset hsubmitted)
  | reread _ hread ih => exact .reread ih (hinit.subset hread)

theorem Executing.mono (hexecuting : Executing i h record attempt backend request backendName)
    (hinit : h <+: h') : Executing i h' record attempt backend request backendName :=
  { hexecuting with
    handed := hexecuting.handed.mono hinit
    belongs := hexecuting.belongs.mono hinit }

theorem Polling.mono
    (hpolling : Polling i h record attempt backend request backendName externalOperationId)
    (hinit : h <+: h') :
    Polling i h' record attempt backend request backendName externalOperationId :=
  ⟨hpolling.toExecuting.mono hinit, hpolling.identified⟩

theorem Opened.mono (hopened : Opened fp i h) (hinit : h <+: h') : Opened fp i h' := by
  obtain ⟨suffix, hsuffix⟩ := acts_isPrefix hinit
  cases hopened with
  | created hinvocation hfingerprint hfirst hcreated hversion hdigest =>
      rw [hfirst, List.cons_append] at hsuffix
      exact .created hinvocation hfingerprint hsuffix.symm hcreated hversion hdigest
  | found hinvocation hfirst =>
      rw [hfirst, List.cons_append] at hsuffix
      exact .found hinvocation hsuffix.symm

theorem Acting.mono (hacting : Acting fp i h) (hinit : h <+: h') (hunburdened : Unburdened h') :
    Acting fp i h' :=
  ⟨hacting.opened.mono hinit, hunburdened⟩

section Steps

variable {c : Call} {r : Call.Response c} {last : List Observation}

theorem acts_of_quiet (hstep : ownStep h c r h') (hquiet : c.isAct = false) :
    acts h' = acts h := by
  have hquiet : Observation.isAct ⟨c, r⟩ = false := hquiet
  rw [hstep, acts_append]
  simp [acts, hquiet]

theorem acts_of_act (hstep : ownStep h c r h') (hact : c.isAct = true) :
    acts h' = acts h ++ [⟨c, r⟩] := by
  have hact : Observation.isAct ⟨c, r⟩ = true := hact
  rw [hstep, acts_append]
  simp [acts, hact]

theorem suffix_of_act (hstep : ownStep h c r h') (hact : c.isAct = true)
    (hlast : last <:+ acts h) : last ++ [⟨c, r⟩] <:+ acts h' := by
  obtain ⟨first, hfirst⟩ := hlast
  exact ⟨first, by rw [acts_of_act hstep hact, ← hfirst, List.append_assoc]⟩

theorem Unburdened.of_acts_eq (hunburdened : Unburdened h) (hacts : acts h' = acts h) :
    Unburdened h' := by
  rw [Unburdened, hacts]
  exact hunburdened

theorem unburdened_of_act (hstep : ownStep h c r h') (hact : c.isAct = true)
    (hnone : Observation.submitted ⟨c, r⟩ = none) : Unburdened h' := by
  intro o ho
  rw [acts_of_act hstep hact, List.getLast?_append, List.getLast?_singleton, Option.some_or,
    Option.some.injEq] at ho
  rw [← ho, hnone]

end Steps

/-! ### Rules for procedures -/

/-- A procedure that makes only listed calls, and leaves nothing to be persisted behind. -/
def Keeps (fp : CanonicalAlert → Except PyError (Int × List UInt8)) (i : Invocation)
    (h : List Observation) {α : Type} (p : Proc α) : Prop :=
  Interleaving.Proc.wp ownStep (Issues fp i) (fun _ h' => h <+: h' ∧ Unburdened h') p h

/-- A procedure that reaches neither the repository nor a backend, and does not raise. -/
def Quiet (fp : CanonicalAlert → Except PyError (Int × List UInt8)) (i : Invocation)
    (h : List Observation) {α : Type} (p : Proc α) : Prop :=
  Interleaving.Proc.wp ownStep (Issues fp i)
    (fun r h' => h <+: h' ∧ acts h' = acts h ∧ ∃ a, r = .ok a) p h

section Rules

variable {α β : Type} {P : List Observation → Call → Prop}

theorem wp_repository {c : RepositoryCall} {Q : Except PyError c.Result → List Observation → Prop} :
    Interleaving.Proc.wp ownStep P Q (Proc.repository c) h ↔ P h (.repository c) ∧
      ∀ (r : Except PyError c.Result) h', ownStep h (.repository c) r h' → Q r h' := Iff.rfl

theorem wp_newUuid {kind : UuidKind} {Q : Except PyError UUID → List Observation → Prop} :
    Interleaving.Proc.wp ownStep P Q (Proc.newUuid kind) h ↔ P h (.newUuid kind) ∧
      ∀ (id : UUID) h', ownStep h (.newUuid kind) id h' → Q (.ok id) h' := Iff.rfl

theorem wp_submit {k key : UUID} {timeout : Option Rat}
    {Q : Except PyError (Option SubmittedOperation) → List Observation → Prop} :
    Interleaving.Proc.wp ownStep P Q
        (ExceptT.mk (Prog.perform (R := Call.Response) (.submit k backend request key timeout))) h ↔
      P h (.submit k backend request key timeout) ∧
        ∀ r h', ownStep h (.submit k backend request key timeout) r h' → Q r h' := Iff.rfl

theorem wp_poll {k : UUID} {timeout : Option Rat}
    {Q : Except PyError (Option OperationStatus) → List Observation → Prop} :
    Interleaving.Proc.wp ownStep P Q (ExceptT.mk (Prog.perform (R := Call.Response)
        (.poll k backend request externalOperationId timeout))) h ↔
      P h (.poll k backend request externalOperationId timeout) ∧
        ∀ r h', ownStep h (.poll k backend request externalOperationId timeout) r h' → Q r h' :=
  Iff.rfl

theorem wp_collectResult {k : UUID}
    {Q : Except PyError (Option InvestigationResult) → List Observation → Prop} :
    Interleaving.Proc.wp ownStep P Q (ExceptT.mk (Prog.perform (R := Call.Response)
        (.collectResult k backend request externalOperationId))) h ↔
      P h (.collectResult k backend request externalOperationId) ∧
        ∀ r h', ownStep h (.collectResult k backend request externalOperationId) r h' → Q r h' :=
  Iff.rfl

theorem keeps_pure (hunburdened : Unburdened h) (a : α) : Keeps fp i h (pure a : Proc α) :=
  ⟨List.prefix_rfl, hunburdened⟩

theorem keeps_throw (hunburdened : Unburdened h) (e : PyError) :
    Keeps fp i h (throw e : Proc α) :=
  ⟨List.prefix_rfl, hunburdened⟩

theorem Keeps.of_isPrefix {p : Proc α} (hp : Keeps fp i h' p) (hinit : h <+: h') :
    Interleaving.Proc.wp ownStep (Issues fp i) (fun _ h'' => h <+: h'' ∧ Unburdened h'') p h' :=
  Interleaving.Proc.wp_mono hp fun _ _ hend => ⟨hinit.trans hend.1, hend.2⟩

/-- The rule of sequencing, where what follows does not depend on the calls made before. -/
theorem Keeps.bind {p : Proc α} {f : α → Proc β} (hp : Keeps fp i h p)
    (hf : ∀ a h', h <+: h' → Unburdened h' → Keeps fp i h' (f a)) : Keeps fp i h (p >>= f) := by
  rw [Keeps, Interleaving.Proc.wp_bind]
  refine Interleaving.Proc.wp_mono hp fun r h' hend => ?_
  cases r with
  | error e => exact hend
  | ok a => exact (hf a h' hend.1 hend.2).of_isPrefix hend.1

theorem Keeps.catching {p : Proc α} (hp : Keeps fp i h p) :
    Keeps fp i h (Interleaving.Proc.catching p) := by
  rw [Keeps, Interleaving.Proc.wp_catching]
  exact hp

theorem keeps_repository {c : RepositoryCall} (hissues : Issues fp i h (.repository c)) :
    Keeps fp i h (Proc.repository c) := by
  rw [Keeps, wp_repository]
  refine ⟨hissues, fun r h' hstep => ⟨hstep.isPrefix, unburdened_of_act hstep rfl ?_⟩⟩
  cases r <;> rfl

/-- A call of the repository whose answer matters to what follows. -/
theorem keeps_repository_bind {c : RepositoryCall} {f : c.Result → Proc α}
    (hissues : Issues fp i h (.repository c))
    (hf : ∀ x h', ownStep h (.repository c) (Except.ok x : Except PyError c.Result) h' →
      Keeps fp i h' (f x)) : Keeps fp i h (Proc.repository c >>= f) := by
  rw [Keeps, Interleaving.Proc.wp_bind, wp_repository]
  refine ⟨hissues, fun r h' hstep => ?_⟩
  cases r with
  | error e => exact ⟨hstep.isPrefix, unburdened_of_act hstep rfl rfl⟩
  | ok x => exact (hf x h' hstep).of_isPrefix hstep.isPrefix

/-- A call of the repository in a `try` block. -/
theorem keeps_catching_repository_bind {c : RepositoryCall} {f : Except PyError c.Result → Proc α}
    (hissues : Issues fp i h (.repository c))
    (hf : ∀ r h', ownStep h (.repository c) r h' → Keeps fp i h' (f r)) :
    Keeps fp i h (Interleaving.Proc.catching (Proc.repository c) >>= f) := by
  rw [Keeps, Interleaving.Proc.wp_bind, Interleaving.Proc.wp_catching, wp_repository]
  exact ⟨hissues, fun r h' hstep => (hf r h' hstep).of_isPrefix hstep.isPrefix⟩

theorem Quiet.wp_bind {Q : Except PyError β → List Observation → Prop} {p : Proc α}
    {f : α → Proc β} (hp : Quiet fp i h p)
    (hf : ∀ a h', h <+: h' → acts h' = acts h →
      Interleaving.Proc.wp ownStep (Issues fp i) Q (f a) h') :
    Interleaving.Proc.wp ownStep (Issues fp i) Q (p >>= f) h := by
  rw [Interleaving.Proc.wp_bind]
  refine Interleaving.Proc.wp_mono hp ?_
  rintro _ h' ⟨hinit, hacts, a, rfl⟩
  exact hf a h' hinit hacts

theorem Quiet.bind {p : Proc α} {f : α → Proc β} (hp : Quiet fp i h p)
    (hf : ∀ a h', h <+: h' → acts h' = acts h → Keeps fp i h' (f a)) :
    Keeps fp i h (p >>= f) :=
  hp.wp_bind fun a h' hinit hacts => (hf a h' hinit hacts).of_isPrefix hinit

theorem quiet_perform {c : Call} (hquiet : c.isAct = false) :
    Quiet fp i h (Interleaving.Proc.perform c : Proc (Call.Response c)) := by
  rw [Quiet, Interleaving.Proc.wp_perform]
  exact ⟨.quiet hquiet, fun r h' hstep =>
    ⟨hstep.isPrefix, acts_of_quiet hstep hquiet, r, rfl⟩⟩

theorem keeps_perform_bind {c : Call} {f : Call.Response c → Proc α} (hquiet : c.isAct = false)
    (hf : ∀ r h', ownStep h c r h' → Keeps fp i h' (f r)) :
    Keeps fp i h (Interleaving.Proc.perform c >>= f) := by
  rw [Keeps, Interleaving.Proc.wp_bind, Interleaving.Proc.wp_perform]
  exact ⟨.quiet hquiet, fun r h' hstep => (hf r h' hstep).of_isPrefix hstep.isPrefix⟩

theorem quiet_observeWhen (condition : Bool) (what : Observed) :
    Quiet fp i h (Proc.observeWhen condition what) := by
  cases condition
  · exact ⟨List.prefix_rfl, rfl, (), rfl⟩
  · exact quiet_perform rfl

theorem quiet_remaining (deadline : Option Rat) :
    Quiet fp i h (PersistentAlertProcessor.remainingReconciliationSeconds deadline) := by
  cases deadline with
  | none => exact ⟨List.prefix_rfl, rfl, none, rfl⟩
  | some deadline =>
      rw [PersistentAlertProcessor.remainingReconciliationSeconds, Quiet,
        Interleaving.Proc.wp_bind]
      refine Interleaving.Proc.wp_mono (quiet_perform rfl) ?_
      rintro _ h' ⟨hinit, hacts, now, rfl⟩
      exact ⟨hinit, hacts, _, rfl⟩

end Rules

/-! ### The procedures -/

namespace PersistentAlertProcessor

variable {o : AlertOrchestrator} {deadline : Option Rat}

theorem reread_keeps (hacting : Acting fp i h) (hrecord : Handed h record) :
    Keeps fp i h (reread record.processingId) := by
  refine (keeps_repository (.get hacting hrecord)).bind fun found h' _ hunburdened => ?_
  cases found with
  | none => exact keeps_throw hunburdened _
  | some found => exact keeps_pure hunburdened _

/-- Reading a record again to go on with it. -/
theorem reread_bind_keeps (hacting : Acting fp i h) (hrecord : Handed h record)
    {f : ProcessingRecord → Proc ProcessingRecord}
    (hf : ∀ found h', ownStep h (.repository (.get record.processingId))
      (Except.ok (some found) : Except PyError (Option ProcessingRecord)) h' →
      Keeps fp i h' (f found)) : Keeps fp i h (reread record.processingId >>= f) := by
  rw [Keeps, Interleaving.Proc.wp_bind, reread, Interleaving.Proc.wp_bind, wp_repository]
  refine ⟨.get hacting hrecord, fun r h' hstep => ?_⟩
  rcases r with error | _ | found
  · exact ⟨hstep.isPrefix, unburdened_of_act hstep rfl rfl⟩
  · exact ⟨hstep.isPrefix, unburdened_of_act hstep rfl rfl⟩
  · exact (hf found h' hstep).of_isPrefix hstep.isPrefix

/-- How most branches end: read the record again if it was not handed over, and count. -/
theorem settle_keeps (hacting : Acting fp i h) (hrecord : Handed h record)
    (updated : Option ProcessingRecord) {f : ProcessingRecord → Proc ProcessingRecord}
    (hf : ∀ durable h', Unburdened h' → Keeps fp i h' (f durable)) :
    Keeps fp i h (orReread updated record.processingId >>= f) := by
  cases updated with
  | none =>
      exact (reread_keeps hacting hrecord).bind fun durable h' _ hunburdened =>
        hf durable h' hunburdened
  | some updated => exact hf updated h hacting.unburdened

/-- Counting and returning. -/
theorem count_keeps (hunburdened : Unburdened h) (durable : ProcessingRecord) (condition : Bool)
    (what : Observed) :
    Keeps fp i h (do Proc.observeWhen condition what; return durable) :=
  (quiet_observeWhen condition what).bind fun _ _ _ hacts =>
    keeps_pure (hunburdened.of_acts_eq hacts) durable

theorem recover_keeps {attemptId : UUID} {expected : ExecutionAttemptState}
    {category detail name : String} (hacting : Acting fp i h) (hrecord : Handed h record)
    (hissues : Issues fp i h (.repository
      (.markRecoveryRequired attemptId [expected] category detail))) :
    Keeps fp i h (recover attemptId expected category detail record.processingId name) := by
  refine (keeps_repository hissues).bind fun recovery h' hinit hunburdened => ?_
  exact settle_keeps (hacting.mono hinit hunburdened) (hrecord.mono hinit) recovery
    fun durable h' hunburdened => count_keeps hunburdened durable _ _

theorem collect_keeps {status : OperationStatus} {timeout : Option Rat} (hacting : Acting fp i h)
    (hpolling : Polling i h record attempt backend request backendName externalOperationId)
    (hstate : status.state = some .succeeded)
    (hpolled : [.poll record.processingId backend request externalOperationId timeout
      (.ok (some status))] <:+ acts h) :
    Keeps fp i h (collect record attempt backend request backendName externalOperationId
      status.remoteState deadline) := by
  unfold collect
  refine keeps_repository_bind (.recordStatus hacting hpolling hpolled) fun recorded h₁ hstep => ?_
  have hrecorded := suffix_of_act hstep rfl hpolled
  have hacting₁ := hacting.mono hstep.isPrefix (unburdened_of_act hstep rfl rfl)
  have hpolling₁ := hpolling.mono hstep.isPrefix
  refine (quiet_remaining deadline).bind fun budget h₂ hinit hacts => ?_
  have hacting₂ := hacting₁.mono hinit (hacting₁.unburdened.of_acts_eq hacts)
  have hpolling₂ := hpolling₁.mono hinit
  rw [← hacts] at hrecorded
  cases exhausted budget with
  | true => exact reread_keeps hacting₂ hpolling₂.handed
  | false =>
      simp only [Bool.false_eq_true, if_false]
      rw [Keeps, Interleaving.Proc.wp_bind, Interleaving.Proc.wp_catching,
        Interleaving.Proc.wp_bind, wp_collectResult]
      refine ⟨.collectResult hacting₂ hpolling₂ hstate hrecorded, fun answer h₃ hstep => ?_⟩
      have hcollected := suffix_of_act hstep rfl hrecorded
      have hacting₃ := hacting₂.mono hstep.isPrefix
        (unburdened_of_act hstep rfl (by cases answer <;> rfl))
      have hpolling₃ := hpolling₂.mono hstep.isPrefix
      have hrecover : Keeps fp i h₃ (recover attempt.attemptId .submitted "backend_protocol_error"
          "backend result could not be collected safely" record.processingId backendName) :=
        recover_keeps hacting₃ hpolling₃.handed
          (.recoverCollection hacting₃ hpolling₃ hstate hcollected)
      rcases answer with error | _ | investigationResult
      · exact hrecover.of_isPrefix hstep.isPrefix
      · exact hrecover.of_isPrefix hstep.isPrefix
      by_cases hbackend : investigationResult.backend = backendName
      case neg =>
        simp only [ne_eq, hbackend, not_false_eq_true, if_true]
        exact hrecover.of_isPrefix hstep.isPrefix
      simp only [ne_eq, hbackend, not_true_eq_false, if_false]
      cases hdecision : record.decision with
      | none => exact hrecover.of_isPrefix hstep.isPrefix
      | some decision =>
          cases hincident : record.incident with
          | none => exact hrecover.of_isPrefix hstep.isPrefix
          | some incident =>
              cases hresult : OrchestrationResult.make decision (some incident) (some request)
                (some investigationResult) with
              | error _ =>
                  simp only [hresult, Proc.evaluate]
                  exact hrecover.of_isPrefix hstep.isPrefix
              | ok result =>
                  simp only [hresult, Proc.evaluate]
                  obtain ⟨hd, hi, hq, hx⟩ := OrchestrationResult.make_eq_ok_iff.mp hresult
                  have hissues := Issues.complete hacting₃ hpolling₃ hstate hcollected hbackend
                    (hdecision.trans (by rw [hd])) (hincident.trans hi.symm) hq hx (by simp [hi])
                  refine Keeps.of_isPrefix ?_ hstep.isPrefix
                  refine (keeps_repository hissues).bind fun completed h' hinit hunburdened => ?_
                  exact settle_keeps (hacting₃.mono hinit hunburdened)
                    (hpolling₃.handed.mono hinit) completed
                    fun durable h' hunburdened => count_keeps hunburdened durable _ _

theorem pollSubmitted_keeps (ho : i.orchestrator = o) (hacting : Acting fp i h)
    (hrecord : Handed h record) (hattempt : Belongs h record.processingId attempt) :
    Keeps fp i h (pollSubmitted o record attempt deadline) := by
  have hincomplete : ∀ name : String, Keeps fp i h (recover attempt.attemptId .submitted
      "recovery_required" "submitted execution metadata is incomplete" record.processingId name) :=
    fun name => recover_keeps hacting hrecord
      (.recoverIncomplete hacting hrecord hattempt (.head _))
  unfold pollSubmitted
  cases hrequest : record.investigationRequest with
  | none => exact hincomplete _
  | some request =>
  cases hname : record.selectedBackend with
  | none => exact hincomplete _
  | some backendName =>
  cases hidentified : attempt.externalOperationId with
  | none => exact hincomplete _
  | some externalOperationId =>
  simp only
  cases hbackend : o.backendForName backendName with
  | none =>
      exact recover_keeps hacting hrecord
        (.recoverIncomplete hacting hrecord hattempt (.tail _ (.head _)))
  | some backend =>
  have hpolling : Polling i h record attempt backend request backendName externalOperationId :=
    ⟨⟨hrecord, hattempt, hrequest, hname, by rw [ho, hbackend]⟩, hidentified⟩
  refine (quiet_remaining deadline).bind fun timeout h₁ hinit hacts => ?_
  have hacting₁ := hacting.mono hinit (hacting.unburdened.of_acts_eq hacts)
  have hpolling₁ := hpolling.mono hinit
  cases exhausted timeout with
  | true => exact keeps_pure hacting₁.unburdened record
  | false =>
  simp only [Bool.false_eq_true, if_false]
  rw [Keeps, Interleaving.Proc.wp_bind, Interleaving.Proc.wp_catching,
    Interleaving.Proc.wp_bind, wp_poll]
  refine ⟨.poll hacting₁ hpolling₁, fun answer h₂ hstep => ?_⟩
  have hpolled := suffix_of_act hstep rfl List.nil_suffix
  have hacting₂ := hacting₁.mono hstep.isPrefix
    (unburdened_of_act hstep rfl (by cases answer <;> rfl))
  have hpolling₂ := hpolling₁.mono hstep.isPrefix
  have hrecover : ∀ detail ∈ ["known backend operation status was not safely interpretable",
      "known backend operation returned an unknown status"], Keeps fp i h₂ (recover
        attempt.attemptId .submitted "backend_protocol_error" detail record.processingId
        backendName) := fun detail hdetail => recover_keeps hacting₂ hpolling₂.handed
    (.recoverStatus hacting₂ hpolling₂ hpolled hdetail)
  rcases answer with error | _ | status
  · cases error with
    | timeoutError =>
        refine Keeps.of_isPrefix ?_ hstep.isPrefix
        refine (keeps_repository (.recordTimeout hacting₂ hpolling₂ hpolled)).bind
          fun _ h' hinit hunburdened => ?_
        exact reread_keeps (hacting₂.mono hinit hunburdened) (hpolling₂.handed.mono hinit)
    | _ => exact (hrecover _ (.head _)).of_isPrefix hstep.isPrefix
  · exact (hrecover _ (.head _)).of_isPrefix hstep.isPrefix
  refine Keeps.of_isPrefix ?_ hstep.isPrefix
  dsimp only
  cases hstate : status.state with
  | none => exact hrecover _ (.tail _ (.head _))
  | some state =>
  have hrecord : Issues fp i h₂ (.repository
      (.recordPoll attempt.attemptId status.remoteState none none)) :=
    .recordStatus hacting₂ hpolling₂ hpolled
  cases state with
  | nonterminal =>
      refine (keeps_repository hrecord).bind fun _ h' hinit hunburdened => ?_
      exact reread_keeps (hacting₂.mono hinit hunburdened) (hpolling₂.handed.mono hinit)
  | failed =>
      refine keeps_repository_bind hrecord fun recorded h₃ hstep => ?_
      have hacting₃ := hacting₂.mono hstep.isPrefix (unburdened_of_act hstep rfl rfl)
      have hpolling₃ := hpolling₂.mono hstep.isPrefix
      refine (keeps_repository (.failExecution hacting₃ hpolling₃ hstate
        (suffix_of_act hstep rfl hpolled))).bind fun failed h' hinit hunburdened => ?_
      exact settle_keeps (hacting₃.mono hinit hunburdened) (hpolling₃.handed.mono hinit) failed
        fun durable h' hunburdened => count_keeps hunburdened durable _ _
  | succeeded => exact collect_keeps hacting₂ hpolling₂ hstate hpolled

theorem persistSubmitted_keeps {claimed : ExecutionAttempt} {timeout : Option Rat}
    {submitted : SubmittedOperation} (ho : i.orchestrator = o) (hopened : Opened fp i h)
    (hexecuting : Executing i h record attempt backend request backendName)
    (hclaimed : Observation.repository (.claimAttemptForSubmission attempt.attemptId)
      (.ok (some claimed)) ∈ h)
    (hsubmitted : [
      .repository (.claimAttemptForSubmission attempt.attemptId) (.ok (some claimed)),
      .submit record.processingId backend request claimed.operationKey timeout
        (.ok (some submitted))] <:+ acts h) :
    Keeps fp i h (persistSubmitted o record claimed backendName submitted deadline) := by
  unfold persistSubmitted
  refine (quiet_perform rfl).bind fun _ h₁ hinit hacts => ?_
  have hopened₁ := hopened.mono hinit
  have hexecuting₁ := hexecuting.mono hinit
  have hclaimed₁ := hinit.subset hclaimed
  rw [← hacts] at hsubmitted
  refine keeps_catching_repository_bind (.markSubmitted hopened₁ hexecuting₁ hsubmitted)
    fun answer h₂ hstep => ?_
  have hacting₂ : Acting fp i h₂ := ⟨hopened₁.mono hstep.isPrefix,
    unburdened_of_act hstep rfl (by cases answer <;> rfl)⟩
  have hexecuting₂ := hexecuting₁.mono hstep.isPrefix
  rcases answer with error | _ | durableAttempt
  · refine (keeps_repository (.recoverUnpersisted hacting₂ hexecuting₂
      (suffix_of_act hstep rfl hsubmitted))).catching.bind fun _ h' _ hunburdened => ?_
    exact keeps_throw hunburdened _
  · exact reread_keeps hacting₂ hexecuting₂.handed
  refine (quiet_perform rfl).bind fun _ h₃ hinit hacts => ?_
  have hacting₃ := hacting₂.mono hinit (hacting₂.unburdened.of_acts_eq hacts)
  have hexecuting₃ := hexecuting₂.mono hinit
  have hbelongs : Belongs h₃ record.processingId durableAttempt :=
    .submitted (.claimed hexecuting₃.belongs
        (hinit.subset (hstep.isPrefix.subset hclaimed₁)))
      (hinit.subset hstep.mem)
  refine reread_bind_keeps hacting₃ hexecuting₃.handed fun found h₄ hstep => ?_
  refine pollSubmitted_keeps ho
    (hacting₃.mono hstep.isPrefix (unburdened_of_act hstep rfl rfl)) ?_
    (.reread (hbelongs.mono hstep.isPrefix) hstep.mem)
  exact ⟨_, hstep.mem, by simp [Observation.records, RepositoryCall.records]⟩

theorem submitClaimed_keeps {claimed : ExecutionAttempt} (ho : i.orchestrator = o)
    (hacting : Acting fp i h)
    (hexecuting : Executing i h record attempt backend request backendName)
    (hmem : Observation.repository (.claimAttemptForSubmission attempt.attemptId)
      (.ok (some claimed)) ∈ h)
    (hclaimed : [.repository (.claimAttemptForSubmission attempt.attemptId) (.ok (some claimed))]
      <:+ acts h) :
    Keeps fp i h (submitClaimed o record claimed backend request backendName deadline) := by
  unfold submitClaimed
  refine (quiet_perform rfl).bind fun _ h₁ hinit hacts => ?_
  have hacting₁ := hacting.mono hinit (hacting.unburdened.of_acts_eq hacts)
  have hexecuting₁ := hexecuting.mono hinit
  have hmem₁ := hinit.subset hmem
  rw [← hacts] at hclaimed
  refine (quiet_remaining deadline).bind fun timeout h₂ hinit hacts => ?_
  have hacting₂ := hacting₁.mono hinit (hacting₁.unburdened.of_acts_eq hacts)
  have hexecuting₂ := hexecuting₁.mono hinit
  have hmem₂ := hinit.subset hmem₁
  rw [← hacts] at hclaimed
  cases exhausted timeout with
  | true =>
      exact recover_keeps hacting₂ hexecuting₂.handed
        (.recoverExpired hacting₂ hexecuting₂ hclaimed)
  | false =>
  simp only [Bool.false_eq_true, if_false]
  rw [Keeps, Interleaving.Proc.wp_bind, Interleaving.Proc.wp_catching,
    Interleaving.Proc.wp_bind, wp_submit]
  refine ⟨.submit hacting₂ hexecuting₂ hclaimed, fun answer h₃ hstep => ?_⟩
  have hsubmitted := suffix_of_act hstep rfl hclaimed
  have hexecuting₃ := hexecuting₂.mono hstep.isPrefix
  have hunknown : answer ≠ .error .backendSubmissionRejected → Acting fp i h₃ →
      Keeps fp i h₃ (do
        Proc.observe (.submission backendName "error")
        let recovery ← Proc.repository (.markRecoveryRequired claimed.attemptId [.submitting]
          "backend_submission_unknown" "backend submission outcome is unknown")
        let durable ← orReread recovery record.processingId
        Proc.observeWhen (durable.state = .recoveryRequired)
          (.transition "submitting" "recovery_required")
        Proc.observeWhen (durable.state = .recoveryRequired)
          (.recoveryRequired backendName "backend_submission_unknown")
        return durable) := by
    intro hanswer hacting₃
    refine (quiet_perform rfl).bind fun _ h₄ hinit hacts => ?_
    have hacting₄ := hacting₃.mono hinit (hacting₃.unburdened.of_acts_eq hacts)
    have hexecuting₄ := hexecuting₃.mono hinit
    rw [← hacts] at hsubmitted
    refine (keeps_repository (.recoverUnknown hacting₄ hexecuting₄ hsubmitted hanswer)).bind
      fun recovery h' hinit hunburdened => ?_
    exact settle_keeps (hacting₄.mono hinit hunburdened) (hexecuting₄.handed.mono hinit)
      recovery fun durable h' hunburdened => (quiet_observeWhen _ _).bind fun _ h'' _ hacts =>
        count_keeps (hunburdened.of_acts_eq hacts) durable _ _
  rcases answer with error | _ | submitted
  · have hacting₃ := hacting₂.mono hstep.isPrefix (unburdened_of_act hstep rfl rfl)
    cases error with
    | backendSubmissionRejected =>
        refine Keeps.of_isPrefix ?_ hstep.isPrefix
        refine (quiet_perform rfl).bind fun _ h₄ hinit hacts => ?_
        have hacting₄ := hacting₃.mono hinit (hacting₃.unburdened.of_acts_eq hacts)
        have hexecuting₄ := hexecuting₃.mono hinit
        rw [← hacts] at hsubmitted
        refine (keeps_repository (.failRejected hacting₄ hexecuting₄ hsubmitted)).bind
          fun failed h' hinit hunburdened => ?_
        exact settle_keeps (hacting₄.mono hinit hunburdened) (hexecuting₄.handed.mono hinit)
          failed fun durable h' hunburdened => count_keeps hunburdened durable _ _
    | _ => exact (hunknown nofun hacting₃).of_isPrefix hstep.isPrefix
  · have hacting₃ := hacting₂.mono hstep.isPrefix (unburdened_of_act hstep rfl rfl)
    exact (hunknown nofun hacting₃).of_isPrefix hstep.isPrefix
  · refine Keeps.of_isPrefix ?_ hstep.isPrefix
    exact persistSubmitted_keeps ho (hacting₂.opened.mono hstep.isPrefix) hexecuting₃
      (hstep.isPrefix.subset hmem₂) hsubmitted

theorem submit_keeps (ho : i.orchestrator = o) (hacting : Acting fp i h)
    (hrecord : Handed h record) (hattempt : Belongs h record.processingId attempt) :
    Keeps fp i h (submit o record attempt deadline) := by
  unfold submit
  cases hrequest : record.investigationRequest with
  | none => exact keeps_throw hacting.unburdened _
  | some request =>
  cases hname : record.selectedBackend with
  | none => exact keeps_throw hacting.unburdened _
  | some backendName =>
  simp only
  cases hbackend : o.backendForName backendName with
  | none =>
      refine (keeps_repository (.failUnconfigured hacting hrecord hattempt)).bind
        fun failed h' hinit hunburdened => ?_
      have hacting' := hacting.mono hinit hunburdened
      cases failed with
      | none => exact reread_keeps hacting' (hrecord.mono hinit)
      | some failed => exact keeps_pure hunburdened failed
  | some backend =>
  have hexecuting : Executing i h record attempt backend request backendName :=
    ⟨hrecord, hattempt, hrequest, hname, by rw [ho, hbackend]⟩
  refine (quiet_remaining deadline).bind fun timeout h₁ hinit hacts => ?_
  have hacting₁ := hacting.mono hinit (hacting.unburdened.of_acts_eq hacts)
  have hexecuting₁ := hexecuting.mono hinit
  cases exhausted timeout with
  | true => exact keeps_pure hacting₁.unburdened record
  | false =>
  simp only [Bool.false_eq_true, if_false]
  refine keeps_catching_repository_bind (.claim hacting₁ hexecuting₁) fun answer h₂ hstep => ?_
  have hacting₂ := hacting₁.mono hstep.isPrefix
    (unburdened_of_act hstep rfl (by cases answer <;> rfl))
  have hexecuting₂ := hexecuting₁.mono hstep.isPrefix
  rcases answer with error | _ | claimed
  · exact keeps_throw hacting₂.unburdened _
  · exact reread_keeps hacting₂ hexecuting₂.handed
  · exact submitClaimed_keeps ho hacting₂ hexecuting₂ hstep.mem
      (suffix_of_act hstep rfl List.nil_suffix)

theorem failWithoutAttempt_bind_keeps {category detail : String} (hacting : Acting fp i h)
    (hrecord : Handed h record)
    (herror : (category, detail) ∈ [
      ("unsupported_capability", "no configured backend supports the required capability"),
      ("backend_selection_error", "backend selection was ambiguous"),
      ("backend_selection_error", "processing planning failed")])
    {f : Option ProcessingRecord → Proc ProcessingRecord}
    (hf : ∀ failed h', h <+: h' → Unburdened h' → Keeps fp i h' (f failed)) :
    Keeps fp i h (failWithoutAttempt record category detail >>= f) := by
  refine Keeps.bind ?_ hf
  unfold failWithoutAttempt
  refine keeps_catching_repository_bind (.failPlanning hacting hrecord herror)
    fun answer h₁ hstep => ?_
  have hunburdened : Unburdened h₁ := unburdened_of_act hstep rfl (by cases answer <;> rfl)
  rcases answer with error | _ | failed
  · exact keeps_throw hunburdened _
  · exact keeps_pure hunburdened none
  · exact (quiet_perform rfl).bind fun _ h' _ hacts =>
      keeps_pure (hunburdened.of_acts_eq hacts) (some failed)

/-- What a successful `plan` vouches for. -/
structure PlannedFor (o : AlertOrchestrator) (alert : CanonicalAlert) (plan : PlanningResult) :
    Prop where
  source : plan.decision.source = alert.source
  investigate : ∀ incident request backend, plan.incident = some incident →
    plan.investigationRequest = some request → plan.backend = some backend →
    incident.alert = alert ∧ incident.decision = plan.decision ∧
      request.incident.utc = incident.utc ∧ o.router.select request = .ok backend

/-- A procedure that only asks the policy and the request factory, and vouches for its value. -/
def Deliberates (fp : CanonicalAlert → Except PyError (Int × List UInt8)) (i : Invocation)
    (h : List Observation) {α : Type} (vouched : α → Prop) (p : Proc α) : Prop :=
  Interleaving.Proc.wp ownStep (Issues fp i)
    (fun r h' => h <+: h' ∧ acts h' = acts h ∧ ∀ a, r = .ok a → vouched a) p h

section Deliberation

variable {α β : Type} {vouched : β → Prop}

theorem deliberates_throw (e : PyError) : Deliberates fp i h vouched (throw e) :=
  ⟨List.prefix_rfl, rfl, nofun⟩

theorem deliberates_evaluate {x : Except PyError β} (hx : ∀ b, x = .ok b → vouched b) :
    Deliberates fp i h vouched (Proc.evaluate x) := by
  cases x with
  | error e => exact deliberates_throw e
  | ok b =>
      refine ⟨List.prefix_rfl, rfl, ?_⟩
      rintro _ ⟨⟩
      exact hx b rfl

theorem deliberates_evaluate_bind {x : Except PyError α} {f : α → Proc β}
    (hf : ∀ a, x = .ok a → Deliberates fp i h vouched (f a)) :
    Deliberates fp i h vouched (Proc.evaluate x >>= f) := by
  cases x with
  | error e => exact deliberates_throw e
  | ok a => exact hf a rfl

theorem Deliberates.of_step {c : Call} {r : Call.Response c} {p : Proc β}
    (hp : Deliberates fp i h' vouched p) (hstep : ownStep h c r h') (hquiet : c.isAct = false) :
    Interleaving.Proc.wp ownStep (Issues fp i)
      (fun r h'' => h <+: h'' ∧ acts h'' = acts h ∧ ∀ b, r = .ok b → vouched b) p h' := by
  refine Interleaving.Proc.wp_mono hp ?_
  rintro r h'' ⟨hinit, hacts, hvouched⟩
  exact ⟨hstep.isPrefix.trans hinit, hacts.trans (acts_of_quiet hstep hquiet), hvouched⟩

theorem deliberates_decide_bind {alert : CanonicalAlert} {f : Decision → Proc β}
    (hf : ∀ decision h', Deliberates fp i h' vouched (f decision)) :
    Deliberates fp i h vouched (Proc.decide alert >>= f) := by
  rw [Deliberates, Interleaving.Proc.wp_bind]
  refine ⟨.quiet rfl, fun answer h' hstep => ?_⟩
  rcases answer with error | decision
  · exact ⟨hstep.isPrefix, acts_of_quiet hstep rfl, nofun⟩
  · exact (hf decision h').of_step hstep rfl

theorem deliberates_requestFactory_bind {incident : Incident}
    {f : InvestigationRequest → Proc β}
    (hf : ∀ request h', Deliberates fp i h' vouched (f request)) :
    Deliberates fp i h vouched (Proc.requestFactory incident >>= f) := by
  rw [Deliberates, Interleaving.Proc.wp_bind]
  refine ⟨.quiet rfl, fun answer h' hstep => ?_⟩
  rcases answer with error | request
  · exact ⟨hstep.isPrefix, acts_of_quiet hstep rfl, nofun⟩
  · exact (hf request h').of_step hstep rfl

end Deliberation

theorem plan_deliberates (o : AlertOrchestrator) (alert : CanonicalAlert) :
    Deliberates fp i h (PlannedFor o alert) (o.plan alert) := by
  unfold AlertOrchestrator.plan
  refine deliberates_decide_bind fun decision h₁ => ?_
  by_cases hsource : decision.source = alert.source
  case neg =>
    simp only [ne_eq, hsource, not_false_eq_true, if_true]
    exact deliberates_throw _
  simp only [ne_eq, hsource, not_true_eq_false, if_false]
  cases houtcome : decision.outcome with
  | noAction =>
      refine deliberates_evaluate fun plan hplan => ?_
      obtain ⟨hd, hi, -⟩ := PlanningResult.make_eq_ok_iff.mp hplan
      exact ⟨by rw [hd, hsource], fun _ _ _ hsome => by simp [hi] at hsome⟩
  | investigate =>
      refine deliberates_evaluate_bind fun incident hincident => ?_
      obtain ⟨halert, hdecision⟩ := Incident.make_eq_ok_iff.mp hincident
      refine deliberates_requestFactory_bind fun request h₂ => ?_
      by_cases hsame : request.incident.utc = incident.utc
      case neg =>
        simp only [hsame, not_false_eq_true, if_true]
        exact deliberates_throw _
      simp only [hsame, not_true_eq_false, if_false]
      refine deliberates_evaluate_bind fun backend hbackend => ?_
      refine deliberates_evaluate fun plan hplan => ?_
      obtain ⟨hd, hi, hq, hb⟩ := PlanningResult.make_eq_ok_iff.mp hplan
      refine ⟨by rw [hd, hsource], ?_⟩
      rw [hi, hq, hb]
      rintro _ _ _ ⟨⟩ ⟨⟩ ⟨⟩
      exact ⟨halert, by rw [hdecision, hd], hsame, hbackend⟩

theorem carryOut_keeps {plan : PlanningResult} (ho : i.orchestrator = o)
    (hacting : Acting fp i h) (hrecord : Handed h record)
    (hplan : PlannedFor o record.alert plan) :
    Keeps fp i h (carryOut o record plan deadline) := by
  unfold carryOut
  by_cases houtcome : plan.decision.outcome = .noAction
  · simp only [houtcome, if_true]
    cases hresult : OrchestrationResult.make plan.decision none none none with
    | error e => exact keeps_throw hacting.unburdened e
    | ok result =>
        obtain ⟨hd, -⟩ := OrchestrationResult.make_eq_ok_iff.mp hresult
        simp only [Proc.evaluate, pure_bind]
        refine keeps_catching_repository_bind (.storeNoActionResult hacting hrecord
          (by rw [hd, houtcome]) (by rw [hd, hplan.source])) fun answer h₁ hstep => ?_
        have hacting₁ := hacting.mono hstep.isPrefix
          (unburdened_of_act hstep rfl (by cases answer <;> rfl))
        rcases answer with error | completed
        · exact keeps_throw hacting₁.unburdened _
        · exact settle_keeps hacting₁ (hrecord.mono hstep.isPrefix) completed
            fun durable h' hunburdened => count_keeps hunburdened durable _ _
  · simp only [houtcome, if_false]
    cases hincident : plan.incident with
    | none => exact keeps_throw hacting.unburdened _
    | some incident =>
    cases hrequest : plan.investigationRequest with
    | none => exact keeps_throw hacting.unburdened _
    | some request =>
    cases hbackend : plan.backend with
    | none => exact keeps_throw hacting.unburdened _
    | some backend =>
    simp only
    obtain ⟨halert, hdecision, hsame, hselect⟩ :=
      hplan.investigate incident request backend hincident hrequest hbackend
    refine keeps_perform_bind rfl fun attemptId h₁ hstep₁ => ?_
    refine keeps_perform_bind rfl fun operationKey h₂ hstep₂ => ?_
    have hinit := hstep₁.isPrefix.trans hstep₂.isPrefix
    have hacting₂ := hacting.mono hinit (hacting.unburdened.of_acts_eq
      ((acts_of_quiet hstep₂ rfl).trans (acts_of_quiet hstep₁ rfl)))
    refine keeps_catching_repository_bind (.storePlan hacting₂ (hrecord.mono hinit) ?_ halert
      hdecision hsame (by rw [ho, hselect]) (hstep₂.isSuffix (hstep₁.isSuffix List.nil_suffix)))
      fun answer h₃ hstep => ?_
    · cases hinvestigate : plan.decision.outcome with
      | noAction => exact absurd hinvestigate houtcome
      | investigate => rfl
    have hacting₃ := hacting₂.mono hstep.isPrefix
      (unburdened_of_act hstep rfl (by cases answer <;> rfl))
    rcases answer with error | _ | planned
    · exact keeps_throw hacting₃.unburdened _
    · exact reread_keeps hacting₃ (hrecord.mono (hinit.trans hstep.isPrefix))
    refine (quiet_perform rfl).bind fun _ h₄ hinit₄ hacts => ?_
    refine submit_keeps ho (hacting₃.mono hinit₄ (hacting₃.unburdened.of_acts_eq hacts)) ?_
      (.planned (hinit₄.subset hstep.mem))
    exact ⟨_, hinit₄.subset hstep.mem, by simp [Observation.records, RepositoryCall.records]⟩

theorem advanceAccepted_keeps (ho : i.orchestrator = o) (hacting : Acting fp i h)
    (hrecord : Handed h record) : Keeps fp i h (advanceAccepted o record deadline) := by
  unfold advanceAccepted
  rw [Keeps, Interleaving.Proc.wp_bind, Interleaving.Proc.wp_catching]
  refine Interleaving.Proc.wp_mono (plan_deliberates o record.alert) ?_
  rintro planned h₁ ⟨hinit, hacts, hplan⟩
  have hacting₁ := hacting.mono hinit (hacting.unburdened.of_acts_eq hacts)
  have hrecord₁ := hrecord.mono hinit
  refine Keeps.of_isPrefix ?_ hinit
  have hraised : ∀ {f : Option ProcessingRecord → Proc ProcessingRecord},
      f none = reread record.processingId →
      (∀ failed, f (some failed) = throw (.runtimeError "processing planning failed")) →
      Keeps fp i h₁ (failWithoutAttempt record "backend_selection_error"
        "processing planning failed"
        >>= f) := by
    intro f hnone hsome
    refine failWithoutAttempt_bind_keeps hacting₁ hrecord₁ (by simp)
      fun failed h' hinit hunburdened => ?_
    cases failed with
    | none =>
        rw [hnone]
        exact reread_keeps (hacting₁.mono hinit hunburdened) (hrecord₁.mono hinit)
    | some failed =>
        rw [hsome]
        exact keeps_throw hunburdened _
  cases planned with
  | error error =>
      cases error with
      | unsupportedCapabilities =>
          exact failWithoutAttempt_bind_keeps hacting₁ hrecord₁ (by simp)
            fun _ _ _ hunburdened => keeps_throw hunburdened _
      | ambiguousBackend =>
          exact failWithoutAttempt_bind_keeps hacting₁ hrecord₁ (by simp)
            fun _ _ _ hunburdened => keeps_throw hunburdened _
      | _ => exact hraised rfl fun _ => rfl
  | ok plan => exact carryOut_keeps ho hacting₁ hrecord₁ (hplan plan rfl)

theorem reconcileRecord_keeps {deadline : Rat} (ho : i.orchestrator = o) (hacting : Acting fp i h)
    (hrecord : Handed h record) : Keeps fp i h (reconcileRecord o record deadline) := by
  unfold reconcileRecord
  have hattempt : ∀ {f : Option ExecutionAttempt → Proc ProcessingRecord} {h₁ : List Observation},
      f none = pure record → h <+: h₁ → acts h₁ = acts h →
      (∀ attempt h₂, h <+: h₂ → Acting fp i h₂ → Belongs h₂ record.processingId attempt →
        Keeps fp i h₂ (f (some attempt))) →
      Keeps fp i h₁ (Proc.repository (.getAttemptForProcessing record.processingId) >>= f) := by
    intro f h₁ hnone hinit hacts hf
    have hacting₁ := hacting.mono hinit (hacting.unburdened.of_acts_eq hacts)
    refine keeps_repository_bind (.getAttempt hacting₁ (hrecord.mono hinit))
      fun found h₂ hstep => ?_
    have hacting₂ := hacting₁.mono hstep.isPrefix (unburdened_of_act hstep rfl rfl)
    cases found with
    | none =>
        change Keeps fp i h₂ (f none)
        rw [hnone]
        exact keeps_pure hacting₂.unburdened record
    | some attempt =>
        exact hf attempt h₂ (hinit.trans hstep.isPrefix) hacting₂ (.read hstep.mem)
  cases hstate : record.state with
  | accepted => exact advanceAccepted_keeps ho hacting hrecord
  | planned =>
      exact hattempt rfl List.prefix_rfl rfl fun attempt h₂ hinit hacting₂ hbelongs =>
        submit_keeps ho hacting₂ (hrecord.mono hinit) hbelongs
  | submitting =>
      refine (quiet_perform rfl).bind fun _ h₁ hinit hacts => ?_
      exact hattempt rfl hinit hacts fun attempt h₂ hinit hacting₂ hbelongs =>
        recover_keeps hacting₂ (hrecord.mono hinit)
          (.recoverStale hacting₂ (hrecord.mono hinit) hstate hbelongs)
  | submitted =>
      exact hattempt rfl List.prefix_rfl rfl fun attempt h₂ hinit hacting₂ hbelongs =>
        pollSubmitted_keeps ho hacting₂ (hrecord.mono hinit) hbelongs
  | _ => exact keeps_pure hacting.unburdened record

theorem examine_keeps {deadline : Rat} (ho : i.orchestrator = o) {records : List ProcessingRecord}
    (report : ReconciliationReport) (hacting : Acting fp i h)
    (hrecords : ∀ record ∈ records, Handed h record) :
    Keeps fp i h (examine o deadline records report) := by
  induction records generalizing h report with
  | nil => exact keeps_pure hacting.unburdened report
  | cons record rest ih =>
      obtain ⟨hrecord, hrest⟩ := List.forall_mem_cons.mp hrecords
      unfold examine
      refine (quiet_remaining (some deadline)).bind fun remaining h₁ hinit₁ hacts₁ => ?_
      have hacting₁ := hacting.mono hinit₁ (hacting.unburdened.of_acts_eq hacts₁)
      cases exhausted remaining with
      | true => exact keeps_pure hacting₁.unburdened _
      | false =>
      simp only [Bool.false_eq_true, if_false]
      refine (keeps_repository (.getAttempt hacting₁ (hrecord.mono hinit₁))).bind
        fun _ h₂ hinit₂ hunburdened => ?_
      have hacting₂ := hacting₁.mono hinit₂ hunburdened
      have hinit₂ := hinit₁.trans hinit₂
      refine (reconcileRecord_keeps ho hacting₂ (hrecord.mono hinit₂)).catching.bind
        fun outcome h₃ hinit₃ hunburdened => ?_
      have hinit₃ := hinit₂.trans hinit₃
      have hcounted : ∀ report' h₄, h₃ <+: h₄ → acts h₄ = acts h₃ → Keeps fp i h₄ (do
          let remaining ← remainingReconciliationSeconds (some deadline)
          if exhausted remaining then return { report' with timeLimitReached := true }
          else examine o deadline rest report') := by
        intro report' h₄ hinit₄ hacts₄
        refine (quiet_remaining (some deadline)).bind fun remaining h₅ hinit₅ hacts₅ => ?_
        have hunburdened₅ := hunburdened.of_acts_eq (hacts₅.trans hacts₄)
        have hinit₅ := hinit₃.trans (hinit₄.trans hinit₅)
        cases exhausted remaining with
        | true => exact keeps_pure hunburdened₅ _
        | false =>
            exact ih report' (hacting.mono hinit₅ hunburdened₅)
              fun record hmem => (hrest record hmem).mono hinit₅
      cases outcome with
      | error e =>
          refine (quiet_perform rfl).bind fun _ h₄ hinit₄ hacts₄ => ?_
          rw [pure_bind]
          exact hcounted _ h₄ hinit₄ hacts₄
      | ok after =>
          refine (quiet_perform rfl).bind fun _ h₄ hinit₄ hacts₄ => ?_
          rw [pure_bind]
          exact hcounted _ h₄ hinit₄ hacts₄

theorem reconcileOnce_keeps {limit : Int} {maxSeconds : Rat} {staleAfter : Int}
    (hi : i = .reconcileOnce o limit maxSeconds staleAfter) :
    Keeps fp i [] (reconcileOnce o limit maxSeconds staleAfter) := by
  have hunburdened : Unburdened [] := by simp [Unburdened, acts]
  unfold reconcileOnce
  by_cases hbounds : limit < 1 ∨ maxSeconds ≤ 0
  · simp only [hbounds, if_true]
    exact keeps_throw hunburdened _
  · simp only [hbounds, if_false]
    refine (quiet_perform rfl).bind fun started h₁ hinit₁ hacts₁ => ?_
    refine keeps_perform_bind rfl fun now h₂ hstep₂ => ?_
    have hacts₂ := (acts_of_quiet hstep₂ rfl).trans hacts₁
    refine keeps_repository_bind (.findReconcilable hi (by omega) hacts₂
      (hstep₂.isSuffix List.nil_suffix)) fun records h₃ hstep₃ => ?_
    have hacting : Acting fp i h₃ :=
      ⟨.found hi (by rw [acts_of_act hstep₃ rfl, hacts₂]; rfl), unburdened_of_act hstep₃ rfl rfl⟩
    refine examine_keeps (by rw [hi]; rfl) _ hacting fun record hmem => ?_
    exact ⟨_, hstep₃.mem, hmem⟩

end PersistentAlertProcessor

/-- What a caller may rely on once an invocation has ended with `r`. -/
def Ends (fp : CanonicalAlert → Except PyError (Int × List UInt8)) (i : Invocation)
    (r : Except PyError Outcome) (h : List Observation) : Prop :=
  Unburdened h ∧ ∀ o alert key version digest processingId acceptance rest,
    i = .process o alert key → fp alert = .ok (version, digest) →
    acts h = .repository (.acceptProcessing processingId alert alert.source.source key version
      digest) (.ok acceptance) :: rest →
    if acceptance.record.fingerprintVersion ≠ some version ∨
        acceptance.record.requestFingerprint ≠ some digest then
      r = .error (.idempotencyConflict acceptance.record.processingId) ∧ rest = []
    else if acceptance.created = false then
      r = .ok (.processed ⟨acceptance.record, true⟩) ∧ rest = []
    else ∀ outcome, r = .ok outcome → ∃ record, outcome = .processed ⟨record, false⟩

section Process

open PersistentAlertProcessor

variable {o : AlertOrchestrator} {alert : CanonicalAlert} {key : String}

theorem ends_of_accepted {version : Int} {digest : List UInt8} {processingId : UUID}
    {acceptance : ProcessingAcceptance} {r : Except PyError Outcome} {rest : List Observation}
    (hi : i = .process o alert key) (hfp : fp alert = .ok (version, digest))
    (hunburdened : Unburdened h)
    (hacts : acts h = .repository (.acceptProcessing processingId alert alert.source.source key
      version digest) (.ok acceptance) :: rest)
    (hr : if acceptance.record.fingerprintVersion ≠ some version ∨
        acceptance.record.requestFingerprint ≠ some digest then
      r = .error (.idempotencyConflict acceptance.record.processingId) ∧ rest = []
    else if acceptance.created = false then
      r = .ok (.processed ⟨acceptance.record, true⟩) ∧ rest = []
    else ∀ outcome, r = .ok outcome → ∃ record, outcome = .processed ⟨record, false⟩) :
    Ends fp i r h := by
  refine ⟨hunburdened, ?_⟩
  intro o' alert' key' version' digest' processingId' acceptance' rest' hi' hfp' hacts'
  cases hi.symm.trans hi'
  cases hfp.symm.trans hfp'
  cases hacts.symm.trans hacts'
  exact hr

theorem process_ends (hi : i = .process o alert key) :
    Interleaving.Proc.wp ownStep (Issues fp i)
      (fun r h' => Ends fp i (Outcome.processed <$> r) h') (process o fp alert key) [] := by
  unfold process
  cases hfp : fp alert with
  | error e =>
      refine ⟨by simp [Unburdened, acts], ?_⟩
      simp [acts]
  | ok fingerprint =>
  obtain ⟨version, digest⟩ := fingerprint
  simp only [Proc.evaluate, pure_bind]
  rw [Interleaving.Proc.wp_bind, wp_newUuid]
  refine ⟨.quiet rfl, fun processingId h₁ hstep₁ => ?_⟩
  have hacts₁ : acts h₁ = [] := acts_of_quiet hstep₁ rfl
  simp only
  rw [Interleaving.Proc.wp_bind, Interleaving.Proc.wp_catching, wp_repository]
  refine ⟨.accept hi hfp hacts₁ (hstep₁.isSuffix List.nil_suffix), fun answer h₂ hstep₂ => ?_⟩
  have hacts₂ := acts_of_act hstep₂ rfl
  rw [hacts₁, List.nil_append] at hacts₂
  have hunburdened : Unburdened h₂ := unburdened_of_act hstep₂ rfl (by cases answer <;> rfl)
  rcases answer with error | acceptance
  · refine ⟨hunburdened, ?_⟩
    intro o' alert' key' version' digest' processingId' acceptance' rest hi' hfp' hacts'
    rw [hacts₂] at hacts'
    cases hacts'
  -- Whatever is observed on the way out, the acceptance stays the only call of consequence.
  have hpassive : ∀ (what : Observed) (q : Proc ProcessingOutcome) (r : Except PyError _),
      (∀ h' : List Observation, acts h' = acts h₂ → Ends fp i (Outcome.processed <$> r) h') →
      (q = ExceptT.mk (pure r)) →
      Interleaving.Proc.wp ownStep (Issues fp i)
        (fun r h' => Ends fp i (Outcome.processed <$> r) h') (do Proc.observe what; q) h₂ := by
    rintro what _ r hends rfl
    exact (quiet_perform rfl).wp_bind fun _ h₃ _ hacts₃ => hends h₃ hacts₃
  simp only
  by_cases hconflict : acceptance.record.fingerprintVersion ≠ some version ∨
      acceptance.record.requestFingerprint ≠ some digest
  · rw [if_pos hconflict]
    refine hpassive _ _ (.error _) (fun h' hacts => ?_) rfl
    exact ends_of_accepted hi hfp (hunburdened.of_acts_eq hacts) (hacts.trans hacts₂)
      (by rw [if_pos hconflict]; exact ⟨rfl, rfl⟩)
  rw [if_neg hconflict]
  cases hcreated : acceptance.created with
  | false =>
      rw [if_pos rfl]
      refine hpassive _ _ (.ok _) (fun h' hacts => ?_) rfl
      exact ends_of_accepted hi hfp (hunburdened.of_acts_eq hacts) (hacts.trans hacts₂)
        (by rw [if_neg hconflict, if_pos hcreated]; exact ⟨rfl, rfl⟩)
  | true =>
      rw [if_neg (by simp)]
      rw [not_or, not_not, not_not] at hconflict
      have hopened : Opened fp i h₂ := .created hi hfp hacts₂ hcreated hconflict.1 hconflict.2
      have hrecord : Handed h₂ acceptance.record :=
        ⟨_, hstep₂.mem, by simp [Observation.records, RepositoryCall.records]⟩
      refine (quiet_perform rfl).wp_bind fun _ h₃ hinit₃ hacts₃ => ?_
      refine (quiet_perform rfl).wp_bind fun _ h₄ hinit₄ hacts₄ => ?_
      have hinit₄ := hinit₃.trans hinit₄
      have hacting₄ : Acting fp i h₄ :=
        ⟨hopened.mono hinit₄, hunburdened.of_acts_eq (hacts₄.trans hacts₃)⟩
      rw [Interleaving.Proc.wp_bind]
      refine Interleaving.Proc.wp_mono
        (advanceAccepted_keeps (by rw [hi]; rfl) hacting₄ (hrecord.mono hinit₄)) ?_
      rintro r h₅ ⟨hinit₅, hunburdened₅⟩
      obtain ⟨rest, hrest⟩ := acts_isPrefix (hinit₄.trans hinit₅)
      rw [hacts₂, List.singleton_append] at hrest
      have hends : ∀ r, (∀ outcome, r = .ok outcome → ∃ record, outcome =
        .processed ⟨record, false⟩)
          → Ends fp i r h₅ := fun r hr => ends_of_accepted hi hfp hunburdened₅ hrest.symm
        (by rw [if_neg (by simp [hconflict]), if_neg (by simp [hcreated])]; exact hr)
      cases r with
      | error e =>
          refine hends (.error e) fun outcome hok => ?_
          cases hok
      | ok advanced =>
          refine hends (.ok (.processed ⟨advanced, false⟩)) fun outcome hok => ?_
          exact ⟨advanced, (Except.ok.inj hok).symm⟩

end Process

/-- **Every invocation keeps to the call sites**, whatever it is answered. -/
theorem invocation_disciplined (i : Invocation) :
    (i.procedure fp).run.wp ownStep (Issues fp i) (Ends fp i) [] := by
  cases i with
  | process o alert key =>
      refine (Interleaving.Proc.wp_bind ..).mpr (Interleaving.Proc.wp_mono (process_ends rfl) ?_)
      rintro (e | outcome) h' hends
      · exact hends
      · exact hends
  | reconcileOnce o limit maxSeconds staleAfter =>
      have hends : ∀ (r : Except PyError Outcome) h', Unburdened h' →
          Ends fp (.reconcileOnce o limit maxSeconds staleAfter) r h' :=
        fun r h' hunburdened => ⟨hunburdened, fun _ _ _ _ _ _ _ _ hi => nomatch hi⟩
      refine (Interleaving.Proc.wp_bind ..).mpr (Interleaving.Proc.wp_mono
        (PersistentAlertProcessor.reconcileOnce_keeps rfl) ?_)
      rintro (e | report) h' ⟨-, hunburdened⟩
      · exact hends _ h' hunburdened
      · exact hends _ h' hunburdened

end Alert2IR
