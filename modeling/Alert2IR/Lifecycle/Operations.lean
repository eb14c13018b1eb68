import Alert2IR.Lifecycle.Runs

/-!
# From a claim to a persisted operation

A processing is claimed at most once, because a claim moves it on for good, and its claimant alone
goes on to submit it. The operation ID an attempt holds is the one that submission returned.
-/

namespace Alert2IR

open Interleaving

/-- A submission of `k` was answered with `r`. -/
def Submitted {σ : Type} (h : List (Event σ)) (k : UUID)
    (r : Except PyError (Option SubmittedOperation)) : Prop :=
  ∃ event ∈ h, ∃ backend request key timeout,
    event.observed = Observation.submit k backend request key timeout r

/-- A poll of operation `x` for `k` returned the state `state`. -/
def Polled {σ : Type} (h : List (Event σ)) (k : UUID) (x : String) (state : OperationState) :
    Prop :=
  ∃ event ∈ h, ∃ backend request timeout status,
    event.observed = Observation.poll k backend request x timeout (.ok (some status)) ∧
      status.state = some state

/-- The collection of operation `x` for `k` returned `result`. -/
def Collected {σ : Type} (h : List (Event σ)) (k : UUID) (x : String)
    (result : InvestigationResult) : Prop :=
  ∃ event ∈ h, ∃ backend request,
    event.observed = Observation.collectResult k backend request x (.ok (some result))

section History

variable {σ : Type} {h h' : List (Event σ)} {k : UUID} {x : String} {t : Nat}

theorem Submitted.mono {r : Except PyError (Option SubmittedOperation)}
    (hsubmitted : Submitted h k r) (hsubset : h ⊆ h') : Submitted h' k r := by
  obtain ⟨event, hmem, hobserved⟩ := hsubmitted
  exact ⟨event, hsubset hmem, hobserved⟩

theorem Polled.mono {state : OperationState} (hpolled : Polled h k x state) (hsubset : h ⊆ h') :
    Polled h' k x state := by
  obtain ⟨event, hmem, hobserved⟩ := hpolled
  exact ⟨event, hsubset hmem, hobserved⟩

theorem Collected.mono {result : InvestigationResult} (hcollected : Collected h k x result)
    (hsubset : h ⊆ h') : Collected h' k x result := by
  obtain ⟨event, hmem, hobserved⟩ := hcollected
  exact ⟨event, hsubset hmem, hobserved⟩

theorem submitted_of_own {backend : Backend} {request : InvestigationRequest} {key : UUID}
    {timeout : Option Rat} {r : Except PyError (Option SubmittedOperation)}
    (hown : Observation.submit k backend request key timeout r ∈ own t h) : Submitted h k r := by
  obtain ⟨event, hmem, -, hobserved⟩ := mem_own.mp hown
  exact ⟨event, hmem, backend, request, key, timeout, hobserved⟩

theorem polled_of_own {backend : Backend} {request : InvestigationRequest}
    {timeout : Option Rat} {status : OperationStatus} {state : OperationState}
    (hown : Observation.poll k backend request x timeout (.ok (some status)) ∈ own t h)
    (hstate : status.state = some state) : Polled h k x state := by
  obtain ⟨event, hmem, -, hobserved⟩ := mem_own.mp hown
  exact ⟨event, hmem, backend, request, timeout, status, hobserved, hstate⟩

theorem collected_of_own {backend : Backend} {request : InvestigationRequest}
    {result : InvestigationResult}
    (hown : Observation.collectResult k backend request x (.ok (some result)) ∈ own t h) :
    Collected h k x result := by
  obtain ⟨event, hmem, -, hobserved⟩ := mem_own.mp hown
  exact ⟨event, hmem, backend, request, hobserved⟩

end History

/-- A processing that has been claimed, or has ended without. -/
def Store.Begun (k : UUID) (s : Store) : Prop :=
  ∃ e, s k = some e ∧ ProcessingState.submitting.rank ≤ e.processing.state.rank

theorem Store.Begun.mono {k : UUID} {s s' : Store} (h : s.Begun k) (hevolves : s.EvolvesTo s') :
    s'.Begun k := by
  obtain ⟨e, he, hrank⟩ := h
  obtain ⟨e', he', hevolved⟩ := hevolves k e he
  exact ⟨e', he', hrank.trans hevolved.rank⟩

namespace LawfulRepository

variable {σ : Type} {M : Repository σ} {L : LawfulRepository M}
  {fp : CanonicalAlert → Except PyError (Int × List UInt8)} {is : List Invocation}
  {h h₁ h₂ : List (Event σ)} {w : World σ} {event : Event σ} {t : Nat} {i : Invocation} {k : UUID}

/-- A claim finds its processing planned, and leaves it submitting. -/
theorem SoundEvent.claimed (hevent : L.SoundEvent event) {a : UUID} {claimed : ExecutionAttempt}
    (hclaimed : event.observed
      = Observation.repository (.claimAttemptForSubmission a) (.ok (some claimed))) :
    ∃ e e', L.store event.before claimed.processingId = some e ∧
      L.store event.after claimed.processingId = some e' ∧ e.processing.state = .planned ∧
      e'.processing.state = .submitting := by
  have hcoherent' := hevent.coherent
  obtain ⟨t, w, c, r, w'⟩ := event
  cases hclaimed
  obtain ⟨hgood, hfits, now, hlawful⟩ := hevent
  have hreports := hlawful.reports _ rfl
  have hmoves := hlawful.wrote _ rfl rfl
  obtain ⟨e₁, he₁, hattempt, hconcerns⟩ :=
    hreports.attempts claimed (by simp [RepositoryCall.attempts])
  dsimp only at *
  generalize L.store w' = s' at *
  cases hmoves with
  | @advance _ k e e' hentry hadvance hfresh =>
      obtain ⟨b, hb, hid, hstate, rfl⟩ := Entry.move_eq_some_iff.mp hadvance
      obtain ⟨q, name, -, hserves⟩ := ((L.coherent hgood).entry k e hentry).executing hb
      have hk : k = claimed.processingId := by
        refine hcoherent'.attempts k _ _ _ (Function.update_self ..) he₁ rfl ?_
        rw [hconcerns]
        simp [AttemptFields.claim, hid]
      subst hk
      refine ⟨e, _, hentry, Function.update_self .., ?_, rfl⟩
      rw [hserves.state, List.mem_singleton.mp hstate]
      rfl

theorem SoundEvent.claim_begins (hevent : L.SoundEvent event) {a : UUID}
    {claimed : ExecutionAttempt}
    (hclaimed : event.observed
      = Observation.repository (.claimAttemptForSubmission a) (.ok (some claimed))) :
    ¬ (L.store event.before).Begun claimed.processingId ∧
      (L.store event.after).Begun claimed.processingId := by
  obtain ⟨e, e', he, he', hstate, hstate'⟩ := hevent.claimed hclaimed
  refine ⟨?_, e', he', by rw [hstate']⟩
  rintro ⟨e'', he'', hrank⟩
  obtain rfl := Option.some.inj (he.symm.trans he'')
  rw [hstate] at hrank
  exact absurd hrank (by decide)

/-- **A processing is claimed once.** -/
theorem claim_unique (htrace : (M.system fp).Trace (Issues fp) is h w)
    {h₁' h₂' : List (Event σ)} {event' : Event σ} {a a' : UUID}
      {claimed claimed' : ExecutionAttempt}
    (hsound : L.Sound h w) (heq : h = h₁ ++ event :: h₂) (heq' : h = h₁' ++ event' :: h₂')
    (hclaimed : event.observed = Observation.repository (.claimAttemptForSubmission a)
      (.ok (some claimed)))
    (hclaimed' : event'.observed
      = Observation.repository (.claimAttemptForSubmission a') (.ok (some claimed')))
    (hsame : claimed'.processingId = claimed.processingId) :
    h₁ = h₁' ∧ event = event' ∧ h₂ = h₂' := by
  have hturn := (hsound.events event (by simp [heq])).claim_begins hclaimed
  have hturn' := (hsound.events event' (by simp [heq'])).claim_begins hclaimed'
  rw [hsame] at hturn'
  exact htrace.turn_unique (T := fun w => (L.store w).Begun claimed.processingId)
    (fun event hmem hbegun => hbegun.mono (hsound.events event hmem).evolves)
    heq hturn.1 hturn.2 heq' hturn'.1 hturn'.2

/-- A caller that has just claimed: nothing else of consequence has it done since. -/
theorem Sound.claim_of_suffix (hsound : L.Sound h w) {attempt claimed : ExecutionAttempt}
    {last : List Observation}
    (hbelongs : Belongs (own t h) k attempt)
    (hclaimed : Observation.repository (.claimAttemptForSubmission attempt.attemptId)
      (.ok (some claimed))
      :: last <:+ acts (own t h)) :
    claimed.processingId = k ∧ ∃ h₁ event h₂, h = h₁ ++ event :: h₂ ∧ event.thread = t ∧
      event.observed = Observation.repository (.claimAttemptForSubmission attempt.attemptId)
        (.ok (some claimed)) ∧ acts (own t h₂) = last := by
  have hmem := mem_of_acts_suffix hclaimed (.head _)
  obtain ⟨first, hfirst⟩ := hclaimed
  obtain ⟨h₁, event, h₂, heq, hthread, hobserved, -, hlast⟩ := exists_of_acts_eq hfirst.symm
  exact ⟨(hsound.knowsAttempt (.claimed hbelongs hmem)).1, h₁, event, h₂, heq, hthread, hobserved,
    hlast⟩

/-- A submission follows its claim, and the same caller made it. -/
theorem Sound.claim_of_submit (hsound : L.Sound h w) {backend : Backend}
    {request : InvestigationRequest} {key : UUID} {timeout : Option Rat}
    (hissues : Issues fp i (own t h) (.submit k backend request key timeout)) :
    ∃ h₁ event h₂ a claimed, h = h₁ ++ event :: h₂ ∧ event.thread = t ∧
      event.observed = Observation.repository (.claimAttemptForSubmission a) (.ok (some claimed)) ∧
      claimed.processingId = k ∧ acts (own t h₂) = [] := by
  cases hissues with
  | quiet hquiet => cases hquiet
  | submit _ hexecuting hclaimed =>
      obtain ⟨hk, h₁, event, h₂, heq, hthread, hobserved, hlast⟩ :=
        hsound.claim_of_suffix hexecuting.belongs hclaimed
      exact ⟨h₁, event, h₂, _, _, heq, hthread, hobserved, hk, hlast⟩

/-- **No processing is submitted twice.** -/
theorem not_resubmitted (L : LawfulRepository M)
    (htrace : (M.system fp).Trace (Issues fp) is h w) {backend : Backend}
    {request : InvestigationRequest} {key : UUID} {timeout : Option Rat}
    (hissues : Issues fp i (own t h) (.submit k backend request key timeout)) :
    ∀ event ∈ h, event.call.submits ≠ some k := by
  intro earlier hmem hearlier
  have hsound : L.Sound h w := sound_of_trace htrace
  obtain ⟨h₁, claim, h₂, a, claimed, heq, hthread, hclaimed, hk, hlast⟩ :=
    hsound.claim_of_submit hissues
  obtain ⟨g₁, g₂, hsplit⟩ := List.append_of_mem hmem
  obtain ⟨is₁, i₁, htrace₁, -, hissues₁, -⟩ := htrace.split hsplit
  have hcall : ∃ b q key' timeout', earlier.call = .submit k b q key' timeout' := by
    cases hc : earlier.call <;> simp_all [Call.submits]
  obtain ⟨b, q, key', timeout', hcall⟩ := hcall
  rw [hcall] at hissues₁
  have hsound₁ : L.Sound g₁ earlier.before := sound_of_trace htrace₁
  obtain ⟨f₁, claim', f₂, a', claimed', heq', hthread', hclaimed', hk', -⟩ :=
    hsound₁.claim_of_submit hissues₁
  -- Both claims are one and the same event, so the earlier submission comes after it.
  have heq' : h = f₁ ++ claim' :: (f₂ ++ earlier :: g₂) := by
    rw [hsplit, heq', List.append_assoc, List.cons_append]
  obtain ⟨-, rfl, rfl⟩ := claim_unique htrace hsound heq heq' hclaimed hclaimed' (hk'.trans hk.symm)
  have hown : earlier.observed ∈ acts (own t (f₂ ++ earlier :: g₂)) := by
    refine List.mem_filter.mpr ⟨mem_own.mpr ⟨earlier, by simp, ?_, rfl⟩, ?_⟩
    · rw [← hthread', hthread]
    · simp only [Observation.isAct, Interleaving.Event.observed, hcall]
      rfl
  rw [hlast] at hown
  cases hown

/-- Induction on the run: each new submission is the first of its processing. -/
theorem submissions_le_one (L : LawfulRepository M)
    (htrace : (M.system fp).Trace (Issues fp) is h w) (k : UUID) :
    h.countP (fun event => event.call.submits = some k) ≤ 1 := by
  induction htrace with
  | start => simp
  | spawn i _ ih => exact ih
  | @call is h w t i c r w' hprev _ hissues _ ih =>
      rw [List.countP_append, List.countP_singleton]
      split
      · next hsubmits =>
        have hzero : h.countP (fun event => event.call.submits = some k) = 0 := by
          rw [List.countP_eq_zero]
          intro event hmem
          cases c <;> simp only [Call.submits, reduceCtorEq, decide_false, decide_eq_true_eq,
            Bool.false_eq_true, Option.some.injEq] at hsubmits
          subst hsubmits
          simpa using not_resubmitted L hprev hissues event hmem
        rw [hzero]
      · exact ih

/-- The answers to the submissions of a processing are one and the same. -/
theorem submitted_unique (L : LawfulRepository M)
    (htrace : (M.system fp).Trace (Issues fp) is h w)
    {r r' : Except PyError (Option SubmittedOperation)} (hsubmitted : Submitted h k r)
    (hsubmitted' : Submitted h k r') : r = r' := by
  obtain ⟨event, hmem, _, _, _, _, hobserved⟩ := hsubmitted
  obtain ⟨event', hmem', _, _, _, _, hobserved'⟩ := hsubmitted'
  have hsubmits : event.call.submits = some k :=
    congrArg (fun o : Observation => o.call.submits) hobserved
  have hsubmits' : event'.call.submits = some k :=
    congrArg (fun o : Observation => o.call.submits) hobserved'
  have hsame : event = event' := by
    obtain ⟨h₁, h₂, rfl⟩ := List.append_of_mem hmem
    have hone := submissions_le_one L htrace k
    simp only [List.countP_append, List.countP_cons, hsubmits, decide_true, if_true] at hone
    have hfirst : h₁.countP (fun event => event.call.submits = some k) = 0 := by omega
    have hlast : h₂.countP (fun event => event.call.submits = some k) = 0 := by omega
    rcases List.mem_append.mp hmem' with hmem' | hmem'
    · exact absurd (decide_eq_true hsubmits') (List.countP_eq_zero.mp hfirst event' hmem')
    · rcases List.mem_cons.mp hmem' with rfl | hmem'
      · rfl
      · exact absurd (decide_eq_true hsubmits') (List.countP_eq_zero.mp hlast event' hmem')
  subst hsame
  cases hobserved.symm.trans hobserved'
  rfl

/-- An operation on an attempt a caller knows is on the attempt of its processing. -/
theorem Sound.operates (hsound : L.Sound h w) {a : ExecutionAttempt} {k' : UUID} {e : Entry}
    {b : AttemptFields} (hbelongs : Belongs (own t h) k a) (he : L.store w k' = some e)
    (hb : e.attempt = some b) (hid : b.attemptId = a.attemptId) : k' = k := by
  obtain ⟨e₁, b₁, he₁, hb₁, hsame, -⟩ := (hsound.knowsAttempt hbelongs).current
  refine hsound.coherent.attempts k' e k e₁ he he₁ (by simp [hb]) ?_
  rw [hb, hb₁, Option.map_some, Option.map_some, hid, hsame]

/-- One operation on the entry of `k`, in a run that has come as far as `h`. -/
structure Operates (L : LawfulRepository M)
    (fp : CanonicalAlert → Except PyError (Int × List UInt8)) (h : List (Event σ))
    (event : Event σ) (k : UUID) (c : RepositoryCall) (e e' : Entry) : Prop where
  trace : ∃ is, (M.system fp).Trace (Issues fp) is h event.before
  issues : ∃ i, Issues fp i (own event.thread h) (.repository c)
  call : event.call = .repository c
  before : L.store event.before k = some e
  after : L.store event.after k = some e'
  fits : c.Fits e
  advance : ∃ now, e.advance now c = some e'

theorem Operates.sound {c : RepositoryCall} {e e' : Entry}
    (hoperates : Operates L fp h event k c e e') : L.Sound h event.before := by
  obtain ⟨is, htrace⟩ := hoperates.trace
  exact sound_of_trace htrace

/-- The acceptance that brought the entry of `k` into being. -/
structure Accepts (L : LawfulRepository M)
    (fp : CanonicalAlert → Except PyError (Int × List UInt8)) (h : List (Event σ))
    (event : Event σ) (k : UUID) (alert : CanonicalAlert) (scope key : String) (version : Int)
    (digest : List UInt8) : Prop where
  trace : ∃ is, (M.system fp).Trace (Issues fp) is h event.before
  issues : ∃ i, Issues fp i (own event.thread h)
    (.repository (.acceptProcessing k alert scope key version digest))
  call : event.call = .repository (.acceptProcessing k alert scope key version digest)
  before : L.store event.before k = none
  after : ∃ now, L.store event.after k = some (.accepted now k alert scope key version digest)

/-- **What is in the store, some acceptance put there.** -/
theorem exists_accepts (L : LawfulRepository M) (htrace : (M.system fp).Trace (Issues fp) is h w)
    {e : Entry} (he : L.store w k = some e) :
    ∃ h₁ event h₂ alert scope key version digest, h = h₁ ++ event :: h₂ ∧
      Accepts L fp h₁ event k alert scope key version digest := by
  have hsound : L.Sound h w := sound_of_trace htrace
  obtain ⟨h₁, event, h₂, rfl, hbefore, hafter⟩ := htrace.exists_turn
    (T := fun w => (L.store w k).isSome = true)
    (by simp [store, Repository.system, L.view_init]) (by simp [he])
  rw [Bool.not_eq_true, Option.isSome_eq_false_iff, Option.isNone_iff_eq_none] at hbefore
  obtain ⟨e₁, he₁⟩ := Option.isSome_iff_exists.mp hafter
  obtain ⟨now, alert, scope, key, version, digest, rfl, hcall⟩ :=
    (hsound.events event (by simp)).fresh hbefore he₁
  obtain ⟨is₁, i, htrace₁, -, hissues, -⟩ := htrace.split rfl
  rw [hcall] at hissues
  exact ⟨h₁, event, h₂, alert, scope, key, version, digest, rfl, ⟨is₁, htrace₁⟩, ⟨i, hissues⟩,
    hcall, hbefore, now, he₁⟩

/-- **What an entry has come to be, some operation made it.** -/
theorem exists_operates (L : LawfulRepository M) (htrace : (M.system fp).Trace (Issues fp) is h w)
    {T : Entry → Prop} {e : Entry} (he : L.store w k = some e) (hT : T e)
    (hnew : ∀ now alert scope key version digest,
      ¬ T (.accepted now k alert scope key version digest)) :
    ∃ h₁ event h₂ c e₀ e₁, h = h₁ ++ event :: h₂ ∧ Operates L fp h₁ event k c e₀ e₁ ∧
      ¬ T e₀ ∧ T e₁ := by
  have hsound : L.Sound h w := sound_of_trace htrace
  obtain ⟨h₁, event, h₂, rfl, hbefore, e₁, he₁, hT₁⟩ := htrace.exists_turn
    (T := fun w => ∃ e, L.store w k = some e ∧ T e)
    (by rintro ⟨e, he, -⟩; simp [store, Repository.system, L.view_init] at he) ⟨e, he, hT⟩
  have hevent := hsound.events event (by simp)
  cases he₀ : L.store event.before k with
  | none =>
      obtain ⟨_, _, _, _, _, _, rfl, -⟩ := hevent.fresh he₀ he₁
      exact absurd hT₁ (hnew _ _ _ _ _ _)
  | some e₀ =>
      rcases hevent.entry he₀ with hsame | ⟨c, now, e', hcall, he', hfits, hadvance, -⟩
      · obtain rfl := Option.some.inj (he₁.symm.trans hsame)
        exact absurd ⟨_, he₀, hT₁⟩ hbefore
      obtain rfl := Option.some.inj (he₁.symm.trans he')
      obtain ⟨is₁, i, htrace₁, -, hissues, -⟩ := htrace.split rfl
      rw [hcall] at hissues
      exact ⟨h₁, event, h₂, c, e₀, e₁, rfl, ⟨⟨is₁, htrace₁⟩, ⟨i, hissues⟩, hcall, he₀, he₁, hfits,
        now, hadvance⟩, fun hT₀ => hbefore ⟨e₀, he₀, hT₀⟩, hT₁⟩

/-- A processing that is submitting has an attempt that is. -/
theorem attempt_submitting {e : Entry} (hcoherent : e.Coherent)
    (hstate : e.processing.state = .submitting) :
      ∃ a, e.attempt = some a ∧ a.state = .submitting := by
  obtain ⟨a, ha, -⟩ := hcoherent.started hstate
  obtain ⟨q, b, -, hserves⟩ := hcoherent.executing ha
  refine ⟨a, ha, ExecutionAttemptState.processingState_injective ?_⟩
  rw [← hserves.state, hstate]
  rfl

/-- A claim of the attempt in hand is the claim of its processing. -/
theorem Sound.claim_of_operates (hsound : L.Sound h w) {k' : UUID} {e : Entry} {a : AttemptFields}
    {attempt claimed : ExecutionAttempt} {last : List Observation}
    (he : L.store w k = some e) (ha : e.attempt = some a) (hid : a.attemptId = claimed.attemptId)
    (hbelongs : Belongs (own t h) k' attempt)
    (hclaimed : Observation.repository (.claimAttemptForSubmission attempt.attemptId)
      (.ok (some claimed)) :: last <:+ acts (own t h)) :
    ∃ g₁ claim g₂ id claimed, h = g₁ ++ claim :: g₂ ∧ claim.thread = t ∧
      claim.observed = Observation.repository (.claimAttemptForSubmission id) (.ok (some claimed)) ∧
      claimed.processingId = k := by
  obtain ⟨hk, g₁, claim, g₂, heq, hthread, hobserved, -⟩ := hsound.claim_of_suffix hbelongs hclaimed
  refine ⟨g₁, claim, g₂, _, claimed, heq, hthread, hobserved, ?_⟩
  rw [hsound.operates (.claimed hbelongs (mem_of_acts_suffix hclaimed (.head _))) he ha hid]
  exact hk

/-- Whoever moves a processing that is submitting has claimed it, or takes its submission for
stale. -/
theorem claimed_of_issues (hsound : L.Sound h w) {c : RepositoryCall} {e e' : Entry} {now : Int}
    (hissues : Issues fp i (own t h) (.repository c)) (he : L.store w k = some e)
    (hstate : e.processing.state = .submitting) (hadvance : e.advance now c = some e') :
    (∃ g₁ claim g₂ id claimed, h = g₁ ++ claim :: g₂ ∧ claim.thread = t ∧
      claim.observed = Observation.repository (.claimAttemptForSubmission id) (.ok (some claimed)) ∧
      claimed.processingId = k) ∨
    ∃ a expected category detail, e.attempt = some a ∧ a.state = .submitting ∧
      .submitting ∈ expected ∧ c = .markRecoveryRequired a.attemptId expected category detail := by
  obtain ⟨a, ha, hastate⟩ := attempt_submitting (hsound.coherent.entry k e he) hstate
  cases hissues with
  | quiet hquiet => cases hquiet
  | recoverExpired _ hexecuting hclaimed =>
      obtain ⟨b, hb, hid, -⟩ := Entry.move_eq_some_iff.mp hadvance
      exact .inl (hsound.claim_of_operates he hb hid hexecuting.belongs hclaimed)
  | failRejected _ hexecuting hsubmitted =>
      simp only [Entry.advance, Option.ite_none_right_eq_some] at hadvance
      obtain ⟨b, hb, hid, -⟩ := Entry.move_eq_some_iff.mp hadvance.2
      exact .inl (hsound.claim_of_operates he hb hid hexecuting.belongs hsubmitted)
  | recoverUnknown _ hexecuting hsubmitted =>
      obtain ⟨b, hb, hid, -⟩ := Entry.move_eq_some_iff.mp hadvance
      exact .inl (hsound.claim_of_operates he hb hid hexecuting.belongs hsubmitted)
  | markSubmitted _ hexecuting hsubmitted =>
      obtain ⟨b, hb, hid, -⟩ := Entry.move_eq_some_iff.mp hadvance
      exact .inl (hsound.claim_of_operates he hb hid hexecuting.belongs hsubmitted)
  | recoverUnpersisted _ hexecuting hsubmitted =>
      obtain ⟨b, hb, hid, -⟩ := Entry.move_eq_some_iff.mp hadvance
      exact .inl (hsound.claim_of_operates he hb hid hexecuting.belongs hsubmitted)
  | recoverStale _ _ _ hattempt =>
      obtain ⟨b, hb, hid, -⟩ := Entry.move_eq_some_iff.mp hadvance
      obtain rfl := Option.some.inj (ha.symm.trans hb)
      exact .inr ⟨a, _, _, _, ha, hastate, .head _, by rw [hid]⟩
  | _ => simp [Entry.advance, Entry.move, ha, hastate, hstate] at hadvance

/-- What is behind a claim, and no longer submitting, has been moved on since. -/
theorem exists_moved_on (L : LawfulRepository M) (htrace : (M.system fp).Trace (Issues fp) is h w)
    (hsplit : h = h₁ ++ event :: h₂) {id : UUID} {claimed : ExecutionAttempt}
    (hclaimed : event.observed
      = Observation.repository (.claimAttemptForSubmission id) (.ok (some claimed)))
    (hk : claimed.processingId = k) {e : Entry} (he : L.store w k = some e)
    (hstate : e.processing.state ≠ .submitting) :
    ∃ f₁ ev f₂ c e₀ e₁, h = f₁ ++ ev :: f₂ ∧ Operates L fp f₁ ev k c e₀ e₁ ∧
      e₀.processing.state = .submitting := by
  subst hk
  have hsound : L.Sound h w := sound_of_trace htrace
  have hmem : event ∈ h := by simp [hsplit]
  have hevent := hsound.events event hmem
  obtain ⟨hbefore, hbegun⟩ := hevent.claim_begins hclaimed
  have hrank : ProcessingState.submitting.rank < e.processing.state.rank := by
    obtain ⟨e', he', hle⟩ := hbegun.mono (hsound.evolves event hmem)
    obtain rfl := Option.some.inj (he.symm.trans he')
    revert hle hstate
    cases e.processing.state <;> decide
  obtain ⟨f₁, ev, f₂, c, e₀, e₁, heq, hoperates, hbehind, hahead⟩ := exists_operates L htrace
    (T := fun e => ProcessingState.submitting.rank < e.processing.state.rank) he hrank
    (by simp [Entry.accepted, ProcessingState.rank])
  refine ⟨f₁, ev, f₂, c, e₀, e₁, heq, hoperates, ?_⟩
  by_cases hbegun₀ : (L.store ev.before).Begun claimed.processingId
  · obtain ⟨e', he', hle⟩ := hbegun₀
    obtain rfl := Option.some.inj (hoperates.before.symm.trans he')
    revert hle hbehind
    cases e₀.processing.state <;> decide
  · -- Then it was this event that began the submission, and it is the claim itself.
    obtain ⟨-, rfl, -⟩ := htrace.turn_unique (T := fun w => (L.store w).Begun claimed.processingId)
      (fun event hmem hbegun => hbegun.mono (hsound.events event hmem).evolves)
      hsplit hbefore hbegun heq hbegun₀ ⟨e₁, hoperates.after, hahead.le⟩
    obtain ⟨-, e', -, he', -, hstate'⟩ := hevent.claimed hclaimed
    obtain rfl := Option.some.inj (hoperates.after.symm.trans he')
    rw [hstate'] at hahead
    exact absurd hahead (lt_irrefl _)

/-- **The operation ID an attempt holds is what the submission of its processing returned**, before
it was persisted and to the caller that persisted it. -/
theorem identified (L : LawfulRepository M) (htrace : (M.system fp).Trace (Issues fp) is h w)
    {e : Entry} {a : AttemptFields} {x : String} (he : L.store w k = some e)
    (ha : e.attempt = some a) (hx : a.externalOperationId = some x) :
    ∃ submitted : SubmittedOperation, Submitted h k (.ok (some submitted)) ∧
      submitted.externalOperationId = x := by
  obtain ⟨h₁, event, h₂, c, e₀, e₁, rfl, hoperates, hnot, a₁, ha₁, hx₁⟩ := exists_operates L htrace
    (T := fun e => ∃ a, e.attempt = some a ∧ a.externalOperationId = some x) he ⟨a, ha, hx⟩
    (by rintro _ _ _ _ _ _ ⟨_, ⟨⟩, -⟩)
  obtain ⟨now, hadvance⟩ := hoperates.advance
  obtain ⟨a₀, ha₀, hx₀ | ⟨rfl, -⟩⟩ := Entry.external_of_advance hadvance ha₁ hx₁
  · exact absurd ⟨a₀, ha₀, hx₀⟩ hnot
  obtain ⟨i, hissues⟩ := hoperates.issues
  generalize hid : a₀.attemptId = id at hissues
  cases hissues with
  | quiet hquiet => cases hquiet
  | @markSubmitted record attempt claimed backend request _ timeout submitted _ hexecuting
      hsubmitted =>
      have hk := hoperates.sound.operates (.claimed hexecuting.belongs
        (mem_of_acts_suffix hsubmitted (.head _)))
        hoperates.before ha₀ hid
      subst hk
      have hown := submitted_of_own (mem_of_acts_suffix hsubmitted (.tail _ (.head _)))
      exact ⟨submitted, hown.mono (List.subset_append_left ..), rfl⟩

/-- A caller that polls has its processing's own operation, request and backend in hand. -/
theorem Sound.polling (hsound : L.Sound h w) {record : ProcessingRecord}
    {attempt : ExecutionAttempt} {backend : Backend} {request : InvestigationRequest}
    {name x : String} (hpolling : Polling i (own t h) record attempt backend request name x) :
    ∃ e a, L.store w record.processingId = some e ∧ e.attempt = some a ∧
      a.attemptId = attempt.attemptId ∧ a.externalOperationId = some x ∧
      e.processing.investigationRequest = some request.utc ∧
      e.processing.selectedBackend = some name := by
  obtain ⟨e, a, he, ha, hid, -, hexternal⟩ := (hsound.knowsAttempt hpolling.belongs).current
  obtain ⟨-, -, hrequest, hbackend⟩ :=
    (hsound.knows hpolling.handed).plan he hpolling.requested
  exact ⟨e, a, he, ha, hid, hexternal x hpolling.identified, hrequest,
    hbackend.trans hpolling.selected⟩

end LawfulRepository

end Alert2IR
