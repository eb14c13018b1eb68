import Mathlib.Data.List.Basic

/-!
# Scripts that stop at the first failure

A script runs commands one at a time against a state. A command prints something or fails, and a
failure ends the script unless it decides an `if` or a loop. A run keeps the commands with their
answers, so that a script which is killed is a run that was not continued.
-/

namespace Shell

variable {C : Type} {R : C → Type} {σ : Type}

/-- A script over commands `c : C`, which print some `R c` or fail. -/
inductive Script (C : Type) (R : C → Type) : Type
  | done
  | exit
  | run (c : C) (k : Option (R c) → Script C R)
  | whileOk (c : C) (body rest : Script C R)

/-- A command, and what it printed unless it failed. -/
structure Event (C : Type) (R : C → Type) where
  command : C
  answer : Option (R command)

namespace Script

variable {p p' q : Script C R} {s s' : σ}

/-- One script after another. -/
def seq : Script C R → Script C R → Script C R
  | .done, q => q
  | .exit, _ => .exit
  | .run c k, q => .run c fun r => (k r).seq q
  | .whileOk c body rest, q => .whileOk c body (rest.seq q)

/-- A command whose output goes into a variable, and what follows. -/
def capture (c : C) (k : R c → Script C R) : Script C R :=
  .run c fun
    | some output => k output
    | none => .exit

/-- A command on its own. -/
def command (c : C) : Script C R := capture c fun _ => .done

@[simp]
theorem done_seq (q : Script C R) : Script.done.seq q = q := rfl

theorem seq_assoc (p q r : Script C R) : (p.seq q).seq r = p.seq (q.seq r) := by
  induction p with
  | done => rfl
  | exit => rfl
  | run c k ih => exact congrArg (Script.run c) (funext ih)
  | whileOk c body rest _ ih => exact congrArg (Script.whileOk c body) ih

/-- One command of a script, along the answers that `sem` allows. -/
inductive Step (sem : σ → (c : C) → Option (R c) → σ → Prop) :
    Script C R → σ → Event C R → Script C R → σ → Prop
  | run {c : C} {k : Option (R c) → Script C R} {r : Option (R c)} {s s' : σ}
      (hsem : sem s c r s') : Step sem (.run c k) s ⟨c, r⟩ (k r) s'
  | again {c : C} {body rest : Script C R} {x : R c} {s s' : σ} (hsem : sem s c (some x) s') :
      Step sem (.whileOk c body rest) s ⟨c, some x⟩ (body.seq (.whileOk c body rest)) s'
  | leave {c : C} {body rest : Script C R} {s s' : σ} (hsem : sem s c none s') :
      Step sem (.whileOk c body rest) s ⟨c, none⟩ rest s'

/-- Any number of commands of a script, with their answers. -/
inductive Runs (sem : σ → (c : C) → Option (R c) → σ → Prop) :
    Script C R → σ → List (Event C R) → Script C R → σ → Prop
  | refl (p : Script C R) (s : σ) : Runs sem p s [] p s
  | step {p p' p'' : Script C R} {s s' s'' : σ} {e : Event C R} {trace : List (Event C R)}
      (hstep : Step sem p s e p' s') (hrest : Runs sem p' s' trace p'' s'') :
      Runs sem p s (e :: trace) p'' s''

/-- However its commands are answered, the script comes to its end, without an error, in a state
that meets `Q`. -/
inductive Ends (sem : σ → (c : C) → Option (R c) → σ → Prop) (Q : σ → Prop) :
    Script C R → σ → Prop
  | done {s : σ} (hQ : Q s) : Ends sem Q .done s
  | step {p : Script C R} {s : σ} (hnext : ∃ e p' s', Step sem p s e p' s')
      (hall : ∀ e p' s', Step sem p s e p' s' → Ends sem Q p' s') : Ends sem Q p s

variable {sem : σ → (c : C) → Option (R c) → σ → Prop} {Q Q' : σ → Prop} {e : Event C R}

/-! ### Rules for total correctness -/

theorem Ends.mono (h : Ends sem Q p s) (himp : ∀ s, Q s → Q' s) : Ends sem Q' p s := by
  induction h with
  | done hQ => exact .done (himp _ hQ)
  | step hnext _ ih => exact .step hnext ih

theorem Step.seq (hstep : Step sem p s e p' s') (q : Script C R) :
    Step sem (p.seq q) s e (p'.seq q) s' := by
  cases hstep with
  | run hsem => exact .run hsem
  | again hsem =>
      rw [seq_assoc]
      exact .again hsem
  | leave hsem => exact .leave hsem

theorem exists_of_step_seq {p'' : Script C R} (hstep : Step sem (p.seq q) s e p'' s')
    (hne : p ≠ .done) : ∃ p', p'' = p'.seq q ∧ Step sem p s e p' s' := by
  cases p with
  | done => exact absurd rfl hne
  | exit => cases hstep
  | run c k =>
      cases hstep with
      | run hsem => exact ⟨_, rfl, .run hsem⟩
  | whileOk c body rest =>
      cases hstep with
      | again hsem => exact ⟨_, (seq_assoc body (.whileOk c body rest) q).symm, .again hsem⟩
      | leave hsem => exact ⟨rest, rfl, .leave hsem⟩

/-- The rule of sequencing. -/
theorem Ends.seq (hp : Ends sem (Ends sem Q q) p s) : Ends sem Q (p.seq q) s := by
  induction hp with
  | done hq => exact hq
  | @step p s hnext _ ih =>
      obtain ⟨e, p', s', hstep⟩ := hnext
      have hne : p ≠ .done := by
        rintro rfl
        cases hstep
      refine .step ⟨e, _, s', hstep.seq q⟩ fun e' p'' s'' hstep' => ?_
      obtain ⟨p', rfl, hfirst⟩ := exists_of_step_seq hstep' hne
      exact ih e' p' s'' hfirst

/-- The rule of a command. -/
theorem Ends.run {c : C} {k : Option (R c) → Script C R} (hnext : ∃ r s', sem s c r s')
    (hall : ∀ r s', sem s c r s' → Ends sem Q (k r) s') : Ends sem Q (.run c k) s := by
  obtain ⟨r, s', hsem⟩ := hnext
  refine .step ⟨_, _, _, .run hsem⟩ fun e p' s' hstep => ?_
  cases hstep with
  | run hsem => exact hall _ _ hsem

theorem Ends.of_run {c : C} {k : Option (R c) → Script C R} {r : Option (R c)}
    (h : Ends sem Q (.run c k) s) (hsem : sem s c r s') : Ends sem Q (k r) s' := by
  cases h with
  | step _ hall => exact hall _ _ _ (.run hsem)

theorem not_ends_exit : ¬Ends sem Q (.exit : Script C R) s := by
  intro h
  cases h with
  | step hnext _ =>
      obtain ⟨_, _, _, hstep⟩ := hnext
      cases hstep

theorem Ends.of_ite_exit {b : Prop} [Decidable b] (h : Ends sem Q (if b then .exit else p) s) :
    ¬b ∧ Ends sem Q p s := by
  split at h
  · exact absurd h not_ends_exit
  · next hb => exact ⟨hb, h⟩

/-- The rule of a loop: each round keeps the invariant and brings the measure down. -/
theorem Ends.whileOk {c : C} {body rest : Script C R} (I : σ → Prop) (size : σ → Nat)
    (hnext : ∀ s, I s → ∃ r s', sem s c r s')
    (hleave : ∀ s s', I s → sem s c none s' → Ends sem Q rest s')
    (hagain : ∀ s x s', I s → sem s c (some x) s' →
      Ends sem (fun s'' => I s'' ∧ size s'' < size s) body s')
    (hI : I s) : Ends sem Q (.whileOk c body rest) s := by
  induction hsize : size s using Nat.strongRecOn generalizing s with
  | _ n ih =>
      obtain ⟨r, s', hsem⟩ := hnext s hI
      refine .step ?_ fun e p' s' hstep => ?_
      · cases r with
        | none => exact ⟨_, _, _, .leave hsem⟩
        | some x => exact ⟨_, _, _, .again hsem⟩
      · cases hstep with
        | leave hsem => exact hleave _ _ hI hsem
        | again hsem =>
            refine Ends.seq ((hagain _ _ _ hI hsem).mono fun s'' hround => ?_)
            exact ih (size s'') (by rw [← hsize]; exact hround.2) hround.1 rfl

/-! ### Rules for safety -/

/-- A script all of whose commands are of one kind. -/
def Only (P : C → Prop) : Script C R → Prop
  | .done => True
  | .exit => True
  | .run c k => P c ∧ ∀ r, (k r).Only P
  | .whileOk c body rest => P c ∧ body.Only P ∧ rest.Only P

variable {P : C → Prop}

theorem Only.seq (hp : p.Only P) (hq : q.Only P) : (p.seq q).Only P := by
  induction p with
  | done => exact hq
  | exit => exact hp
  | run c k ih => exact ⟨hp.1, fun r => ih r (hp.2 r)⟩
  | whileOk c body rest _ ih => exact ⟨hp.1, hp.2.1, ih hp.2.2⟩

theorem Only.capture {c : C} {k : R c → Script C R} (hc : P c) (hk : ∀ x, (k x).Only P) :
    (Script.capture c k).Only P := by
  refine ⟨hc, fun r => ?_⟩
  cases r with
  | none => trivial
  | some x => exact hk x

theorem Only.command {c : C} (hc : P c) : (Script.command c : Script C R).Only P :=
  .capture hc fun _ => trivial

theorem Step.only (hstep : Step sem p s e p' s') (hp : p.Only P) : P e.command ∧ p'.Only P := by
  cases hstep with
  | run _ => exact ⟨hp.1, hp.2 _⟩
  | again _ => exact ⟨hp.1, hp.2.1.seq hp⟩
  | leave _ => exact ⟨hp.1, hp.2.2⟩

/-- **What every command of a script keeps, every run of it keeps.** -/
theorem Runs.invariant {I : σ → Prop} {trace : List (Event C R)}
    (hruns : Runs sem p s trace p' s') (hp : p.Only P)
    (hkeep : ∀ s c r s', P c → I s → sem s c r s' → I s') (hI : I s) : I s' := by
  induction hruns with
  | refl => exact hI
  | step hstep _ ih =>
      obtain ⟨hc, hp'⟩ := hstep.only hp
      refine ih hp' ?_
      cases hstep with
      | run hsem => exact hkeep _ _ _ _ hc hI hsem
      | again hsem => exact hkeep _ _ _ _ hc hI hsem
      | leave hsem => exact hkeep _ _ _ _ hc hI hsem

/-- A run of a script that starts with a command. -/
theorem Runs.run_cases {c : C} {k : Option (R c) → Script C R} {trace : List (Event C R)}
    (hruns : Runs sem (.run c k) s trace p' s') :
    (trace = [] ∧ p' = .run c k ∧ s' = s) ∨
      ∃ r s₁ trace', trace = ⟨c, r⟩ :: trace' ∧ sem s c r s₁ ∧ Runs sem (k r) s₁ trace' p' s' := by
  cases hruns with
  | refl => exact .inl ⟨rfl, rfl, rfl⟩
  | step hstep hrest =>
      cases hstep with
      | run hsem => exact .inr ⟨_, _, _, rfl, hsem, hrest⟩

theorem Runs.exit_eq {trace : List (Event C R)} (hruns : Runs sem .exit s trace p' s') :
    trace = [] ∧ p' = .exit ∧ s' = s := by
  cases hruns with
  | refl => exact ⟨rfl, rfl, rfl⟩
  | step hstep _ => cases hstep

/-- A run of a script that starts with a command on its own. -/
theorem Runs.command_seq_cases {c : C} {trace : List (Event C R)}
    (hruns : Runs sem ((Script.command c).seq q) s trace p' s') :
    (trace = [] ∧ p' = (Script.command c).seq q ∧ s' = s) ∨
      (trace = [⟨c, none⟩] ∧ p' = .exit ∧ sem s c none s') ∨
      ∃ x s₁ trace', trace = ⟨c, some x⟩ :: trace' ∧ sem s c (some x) s₁ ∧
        Runs sem q s₁ trace' p' s' := by
  rcases hruns.run_cases with hstart | ⟨r, s₁, trace', rfl, hsem, hrest⟩
  · exact .inl hstart
  · cases r with
    | none =>
        obtain ⟨rfl, rfl, rfl⟩ := hrest.exit_eq
        exact .inr (.inl ⟨rfl, rfl, hsem⟩)
    | some x => exact .inr (.inr ⟨x, s₁, trace', rfl, hsem, hrest⟩)

end Script

end Shell
