import Alert2IR.Lifecycle.Operations
import Alert2IR.Persistence.PostgresLaw
import Alert2IR.Persistence.Scenario

/-!
# At most one submission

Over PostgreSQL no processing is submitted twice, and so no two submissions serve one idempotency
identity.
-/

namespace Alert2IR

open Interleaving

namespace LawfulRepository

variable {σ : Type} {M : Repository σ}
  {fp : CanonicalAlert → Except PyError (Int × List UInt8)} {is : List Invocation}
  {h : List (Event σ)} {w : World σ} {event : Event σ} {k : UUID}

/-- A submitted processing is durable. -/
theorem exists_of_submits (L : LawfulRepository M)
    (htrace : (M.system fp).Trace (Issues fp) is h w) (hmem : event ∈ h)
    (hsubmits : event.call.submits = some k) : ∃ e, L.store w k = some e := by
  obtain ⟨h₁, h₂, rfl⟩ := List.append_of_mem hmem
  have hsound : L.Sound (h₁ ++ event :: h₂) w := sound_of_trace htrace
  obtain ⟨is₁, i, htrace₁, -, hissues, -⟩ := htrace.split rfl
  have hsound₁ : L.Sound h₁ event.before := sound_of_trace htrace₁
  cases hcall : event.call <;> simp only [hcall, Call.submits, reduceCtorEq, Option.some.injEq]
    at hsubmits
  subst hsubmits
  rw [hcall] at hissues
  cases hissues with
  | quiet hquiet => cases hquiet
  | submit _ hexecuting _ =>
      obtain ⟨e, -, he, -⟩ := (hsound₁.knowsAttempt hexecuting.belongs).current
      obtain ⟨e₁, he₁, -⟩ := (hsound.events event hmem).evolves _ e he
      obtain ⟨e', he', -⟩ := hsound.evolves event hmem _ e₁ he₁
      exact ⟨e', he'⟩

/-- Every entry has an idempotency identity. -/
theorem exists_identity (L : LawfulRepository M)
    (htrace : (M.system fp).Trace (Issues fp) is h w) {e : Entry} (he : L.store w k = some e) :
    ∃ scope key, e.processing.idempotencyScope = some scope ∧
      e.processing.idempotencyKey = some key := by
  by_contra hnone
  obtain ⟨_, _, _, _, e₀, e₁, -, hoperates, hnot, hnone₁⟩ := exists_operates L htrace
    (T := fun e => ¬ ∃ scope key, e.processing.idempotencyScope = some scope ∧
      e.processing.idempotencyKey = some key) he hnone (by simp [Entry.accepted])
  obtain ⟨now, hadvance⟩ := hoperates.advance
  obtain ⟨-, hscope, hkey, -⟩ := Store.advance_keeps hadvance
  exact hnot (by rwa [hscope, hkey] at hnone₁)

end LawfulRepository

namespace Postgres

/-- The idempotency identity a submission serves: the one in the row of its processing. -/
def servedIdentity (db : Db) (c : Call) : Option (Option String × Option String) :=
  (c.submits.bind db.processings.lookup).map fun row => (row.idempotencyScope, row.idempotencyKey)

/-- **At most one submission.** In every run of any number of processors over PostgreSQL, each
processing is submitted at most once, every submission is for a processing with a row and an
idempotency identity, and each identity is served by at most one submission. -/
theorem submitted_at_most_once (d : Dialect)
    (fp : CanonicalAlert → Except PyError (Int × List UInt8))
    {cfg : Configuration Db}
    (hreach : ((repository d).system fp).Reachable cfg) :
    (∀ k, cfg.history.countP (fun event => event.call.submits = some k) ≤ 1) ∧
    (∀ event ∈ cfg.history, event.call.submits.isSome = true →
      ∃ scope key, servedIdentity cfg.state.store event.call = some (some scope, some key)) ∧
    ∀ scope key, cfg.history.countP (fun event =>
      servedIdentity cfg.state.store event.call = some (some scope, some key)) ≤ 1 := by
  have htrace := (hreach.disciplined invocation_disciplined).trace
  have hsound : (lawfulRepository d).Sound cfg.history cfg.state :=
    LawfulRepository.sound_of_trace htrace
  have hrep := represents_of_good hsound.good
  have hcount := LawfulRepository.submissions_le_one (lawfulRepository d) htrace
  refine ⟨hcount, fun event hmem hsome => ?_, fun scope key => ?_⟩
  · obtain ⟨k, hk⟩ := Option.isSome_iff_exists.mp hsome
    obtain ⟨e, he⟩ := LawfulRepository.exists_of_submits (lawfulRepository d) htrace hmem hk
    obtain ⟨scope, key, hscope, hkey⟩ :=
      LawfulRepository.exists_identity (lawfulRepository d) htrace he
    refine ⟨scope, key, ?_⟩
    rw [servedIdentity, hk, Option.bind_some, hrep.lookup_some he]
    simp [ProcessingFields.row, hscope, hkey]
  · by_contra hmany
    -- All submissions counted here are for the one processing that holds the identity.
    obtain ⟨event, hmem, hserved⟩ := List.countP_pos_iff.mp (Nat.zero_lt_of_lt (not_le.mp hmany))
    have hholder : ∀ event : Event Db,
        servedIdentity cfg.state.store event.call = some (some scope, some key) →
        ∃ k e, event.call.submits = some k ∧ view cfg.state.store k = some e ∧
          e.processing.idempotencyScope = some scope ∧ e.processing.idempotencyKey = some key := by
      intro event hserved
      obtain ⟨row, hrow, hidentity⟩ := Option.map_eq_some_iff.mp hserved
      obtain ⟨k, hk, hlookup⟩ := Option.bind_eq_some_iff.mp hrow
      rw [hrep.processings, Option.map_eq_some_iff] at hlookup
      obtain ⟨e, he, rfl⟩ := hlookup
      exact ⟨k, e, hk, he, Prod.mk.inj hidentity⟩
    obtain ⟨k, e, hk, he, hscope, hkey⟩ := hholder event (of_decide_eq_true hserved)
    refine hmany (le_trans (List.countP_mono_left fun event' hmem' hserved' => ?_) (hcount k))
    obtain ⟨k', e', hk', he', hscope', hkey'⟩ := hholder event' (of_decide_eq_true hserved')
    rw [hsound.coherent.identities k' e' k e he' he (hscope'.trans hscope.symm)
      (hkey'.trans hkey.symm)] at hk'
    exact decide_eq_true hk'

end Postgres

namespace Scenario

theorem submitted_at_most_once_delivered :
    delivered.history.countP (fun event => event.call.submits = some 0) = 1 :=
  le_antisymm
    ((Postgres.submitted_at_most_once dialect fingerprint delivered_reachable).1 0)
    (by decide +kernel)

end Scenario

end Alert2IR
