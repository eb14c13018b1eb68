import Alert2IR.Interleaving.Pool

/-!
# Replaying a run

A schedule says which invocation arrives, or which thread takes its next turns and what answers it
gets. Replaying one is a computation, and what it comes to is a configuration of some run.
-/

namespace Interleaving

variable {σ ι C : Type} {R : C → Type} {α : Type}

/-- A way of answering calls that the system allows. -/
structure Environment (S : System σ ι C R α) where
  answer : σ → (c : C) → Option (R c × σ)
  sound : ∀ {s c r s'}, answer s c = some (r, s') → S.step s c r s'

/-- One item of a schedule: an arrival, or up to `turns` calls of thread `t` in a row. -/
inductive Move (S : System σ ι C R α)
  | spawn (i : ι)
  | run (t turns : Nat) (env : Environment S)

namespace System

variable {S : System σ ι C R α}

/-- One call of thread `t`. -/
def turn (t : Nat) (env : Environment S) (cfg : Config σ ι C R α) : Option (Config σ ι C R α) :=
  match cfg.threads[t]? with
  | some ⟨i, .call c k⟩ =>
      (env.answer cfg.state c).map fun answered =>
        { state := answered.2
          threads := cfg.threads.set t ⟨i, k answered.1⟩
          history := cfg.history ++ [⟨t, cfg.state, c, answered.1, answered.2⟩] }
  | _ => none

/-- Calls of thread `t` until it returns, gets no answer or has had its turns. -/
def turns (t : Nat) (env : Environment S) : Nat → Config σ ι C R α → Config σ ι C R α
  | 0, cfg => cfg
  | n + 1, cfg =>
      match turn t env cfg with
      | some cfg' => turns t env n cfg'
      | none => cfg

def move (cfg : Config σ ι C R α) : Move S → Config σ ι C R α
  | .spawn i => { cfg with threads := cfg.threads ++ [⟨i, S.entry i⟩] }
  | .run t n env => turns t env n cfg

def replay (S : System σ ι C R α) (schedule : List (Move S)) : Config σ ι C R α :=
  schedule.foldl move S.start

theorem stepOf_turn {t : Nat} {env : Environment S} {cfg cfg' : Config σ ι C R α}
    (h : turn t env cfg = some cfg') : S.StepOf t cfg cfg' := by
  unfold turn at h
  split at h
  · next i c k hthread =>
    obtain ⟨⟨r, s'⟩, hanswer, rfl⟩ := Option.map_eq_some_iff.mp h
    exact .call hthread (env.sound hanswer)
  · cases h

theorem reachable_turns {t : Nat} {env : Environment S} {n : Nat} {cfg : Config σ ι C R α}
    (hreach : S.Reachable cfg) : S.Reachable (turns t env n cfg) := by
  induction n generalizing cfg with
  | zero => exact hreach
  | succ n ih =>
      unfold turns
      split
      · next cfg' hturn => exact ih (hreach.tail (.call (stepOf_turn hturn)))
      · exact hreach

/-- **A replay is a run.** -/
theorem reachable_replay (schedule : List (Move S)) : S.Reachable (S.replay schedule) := by
  suffices h : ∀ cfg, S.Reachable cfg → S.Reachable (schedule.foldl move cfg) from h _ .refl
  induction schedule with
  | nil => exact fun _ hreach => hreach
  | cons item rest ih =>
      intro cfg hreach
      refine ih _ ?_
      cases item with
      | spawn i => exact hreach.tail (.spawn _ i)
      | run t n env => exact reachable_turns hreach

end System

end Interleaving
