import Alert2IR.Guarantees.Submission

/-!
# Polling the exact operation

A backend is polled, and its result collected, only for the operation the submission of that very
processing returned, and only once the attempt row holds it.
-/

namespace Alert2IR

open Interleaving

namespace Postgres

/-- A call to the backend about an operation is addressed as the tables and the submissions so far
say: `x` is the ID every successful submission of `k` in the run returned, one did so before, the
attempt row holds it already, and request and backend are the persisted ones. -/
structure Addressed (history sofar : List (Event Db)) (db : Db) (o : AlertOrchestrator) (k : UUID)
    (backend : Backend) (request : InvestigationRequest) (x : String) : Prop where
  submitted : ∃ submitted : SubmittedOperation, Submitted sofar k (.ok (some submitted)) ∧
    submitted.externalOperationId = x
  unique : ∀ submitted : SubmittedOperation, Submitted history k (.ok (some submitted)) →
    submitted.externalOperationId = x
  committed : ∃ row, selectProcessingAttempt db k = some row ∧ row.externalOperationId = some x
  persisted : ∃ row p, db.processings.lookup k = some row ∧ deserializeFields row = .ok p ∧
    p.investigationRequest = some request.utc ∧
    row.selectedBackend.bind o.backendForName = some backend

theorem addressed_of_polling {d : Dialect}
    {fp : CanonicalAlert → Except PyError (Int × List UInt8)}
    {is : List Invocation} {h h₁ h₂ : List (Event Db)} {w : World Db} {event : Event Db}
    {i : Invocation} {record : ProcessingRecord} {attempt : ExecutionAttempt} {backend : Backend}
    {request : InvestigationRequest} {name x : String}
    (htrace : ((repository d).system fp).Trace (Issues fp) is h w) (hsplit : h = h₁ ++ event :: h₂)
    (hpolling : Polling i (own event.thread h₁) record attempt backend request name x) :
    Addressed h h₁ event.before.store i.orchestrator record.processingId backend request x := by
  obtain ⟨is₁, i₁, htrace₁, -, -, -⟩ := htrace.split hsplit
  have hsound₁ : (lawfulRepository d).Sound h₁ event.before :=
    LawfulRepository.sound_of_trace htrace₁
  have hrep := represents_of_good hsound₁.good
  obtain ⟨e, a, he, ha, -, hx, hrequest, hname⟩ := hsound₁.polling hpolling
  obtain ⟨submitted, hsubmitted, hid⟩ := LawfulRepository.identified _ htrace₁ he ha hx
  refine ⟨⟨submitted, hsubmitted, hid⟩, fun submitted' hsubmitted' => ?_, ?_, ?_⟩
  · have hearlier : Submitted h record.processingId (.ok (some submitted)) :=
      hsubmitted.mono (by rw [hsplit]; exact List.subset_append_left ..)
    cases LawfulRepository.submitted_unique (lawfulRepository d) htrace hearlier hsubmitted'
    exact hid
  · refine ⟨a.row, ?_, hx⟩
    rw [selectProcessingAttempt_eq hrep hsound₁.coherent]
    have hview : view event.before.store record.processingId = some e := he
    rw [hview, Option.bind_some, ha]
    rfl
  · refine ⟨e.processing.row, e.processing, hrep.lookup_some he,
      deserializeFields_row (hsound₁.coherent.entry _ e he), hrequest, ?_⟩
    have hrow : e.processing.row.selectedBackend = some name := hname
    rw [hrow, Option.bind_some, hpolling.resolved]

/-- **Only the exact operation is polled.** In every run over PostgreSQL, each `poll` and each
`collect_result` is addressed to the operation of its processing, and a result is collected only
right after the same caller's poll of that operation returned `SUCCEEDED`. -/
theorem polls_exact_operation (d : Dialect)
    (fp : CanonicalAlert → Except PyError (Int × List UInt8))
    {cfg : Configuration Db}
    (hreach : ((repository d).system fp).Reachable cfg) {h₁ h₂ : List (Event Db)} {event : Event Db}
    (hsplit : cfg.history = h₁ ++ event :: h₂) :
    ∃ i, (cfg.threads.map Thread.invocation)[event.thread]? = some i ∧
    (∀ k backend request x timeout, event.call = .poll k backend request x timeout →
      Addressed cfg.history h₁ event.before.store i.orchestrator k backend request x) ∧
    ∀ k backend request x, event.call = .collectResult k backend request x →
      Addressed cfg.history h₁ event.before.store i.orchestrator k backend request x ∧
      ∃ timeout status attemptId recorded, status.state = some .succeeded ∧
        [Observation.poll k backend request x timeout (.ok (some status)),
          Observation.repository (.recordPoll attemptId status.remoteState none none)
            (.ok recorded)] <:+ acts (own event.thread h₁) := by
  have htrace := (hreach.disciplined invocation_disciplined).trace
  obtain ⟨is₁, i, -, hthread, hissues, -⟩ := htrace.split hsplit
  refine ⟨i, hthread, fun k backend request x timeout hcall => ?_,
    fun k backend request x hcall => ?_⟩
  · rw [hcall] at hissues
    cases hissues with
    | quiet hquiet => cases hquiet
    | poll _ hpolling => exact addressed_of_polling htrace hsplit hpolling
  · rw [hcall] at hissues
    cases hissues with
    | quiet hquiet => cases hquiet
    | collectResult _ hpolling hstate hpolled =>
        exact ⟨addressed_of_polling htrace hsplit hpolling, _, _, _, _, hstate, hpolled⟩

end Postgres

namespace Scenario

open Postgres in
theorem polls_exact_operation_delivered :
    ∃ h₁ event backend request x timeout, event ∈ delivered.history ∧
      event.call = .poll 0 backend request x timeout ∧
      Addressed delivered.history h₁ event.before.store orchestrator 0 backend request x := by
  have hpoll : ∃ event ∈ delivered.history, event.thread = 0 ∧ (match event.call with
      | .poll k .. => decide (k = 0)
      | _ => false) = true := by
    decide +kernel
  obtain ⟨event, hmem, hthread, hcall⟩ := hpoll
  obtain ⟨h₁, h₂, hsplit⟩ := List.append_of_mem hmem
  obtain ⟨i, hi, haddressed, -⟩ :=
    polls_exact_operation dialect fingerprint delivered_reachable hsplit
  have horchestrator : (delivered.threads.map Thread.invocation)[0]?.map Invocation.orchestrator
      = some orchestrator := rfl
  rw [hthread] at hi
  rw [hi, Option.map_some, Option.some.injEq] at horchestrator
  split at hcall
  · next k backend request x timeout hpoll =>
    obtain rfl := of_decide_eq_true hcall
    rw [← horchestrator]
    exact ⟨h₁, event, backend, request, x, timeout, hmem, hpoll, haddressed _ _ _ _ _ hpoll⟩
  · cases hcall

end Scenario

end Alert2IR
