import Alert2IR.Interleaving.Replay
import Alert2IR.Interleaving.Solo

/-!
# A thread by itself

While only one thread takes steps, the state after each of its calls is the state before the next.
A weakest precondition of its program then tells how its run ends, over any view of the state whose
changes the calls are known to respect.
-/

namespace Interleaving

variable {σ ι C : Type} {R : C → Type} {α : Type}

/-- Only thread `t` takes steps. -/
def System.Alone (S : System σ ι C R α) (t : Nat) :
    Config σ ι C R α → Config σ ι C R α → Prop :=
  Relation.ReflTransGen (S.StepOf t)

/-- Events of thread `t`, one right after the other, that lead from `s` to `s'`. -/
inductive Chain (t : Nat) : σ → List (Event σ C R) → σ → Prop
  | nil (s : σ) : Chain t s [] s
  | cons {event : Event σ C R} {events : List (Event σ C R)} {s' : σ}
      (hthread : event.thread = t) (hrest : Chain t event.after events s') :
      Chain t event.before (event :: events) s'

variable {S : System σ ι C R α} {cfg cfg' : Config σ ι C R α} {t : Nat} {s s' : σ}
  {events : List (Event σ C R)}

theorem chain_cons_iff {event : Event σ C R} :
    Chain t s (event :: events) s' ↔
      event.before = s ∧ event.thread = t ∧ Chain t event.after events s' := by
  constructor
  · intro hchain
    cases hchain with
    | cons hthread hrest => exact ⟨rfl, hthread, hrest⟩
  · rintro ⟨rfl, hthread, hrest⟩
    exact .cons hthread hrest

theorem Chain.snoc {event : Event σ C R} (hchain : Chain t s events event.before)
    (hthread : event.thread = t) : Chain t s (events ++ [event]) event.after := by
  generalize hend : event.before = s₁ at hchain
  induction hchain with
  | nil s =>
      subst hend
      exact .cons hthread (.nil _)
  | cons hfirst _ ih => exact .cons hfirst (ih hend)

theorem Chain.thread (hchain : Chain t s events s') : ∀ event ∈ events, event.thread = t := by
  induction hchain with
  | nil => simp
  | cons hfirst _ ih => exact List.forall_mem_cons.mpr ⟨hfirst, ih⟩

theorem Chain.own (hchain : Chain t s events s') :
    own t events = events.map Event.observed := by
  induction hchain with
  | nil => rfl
  | @cons event events s' hthread _ ih =>
      rw [List.map_cons, ← ih]
      have hown : Interleaving.own t ([] ++ event :: events) = _ := own_cons_self hthread
      exact hown

/-- What a thread did by itself is a chain of events. -/
theorem System.Alone.chain (halone : S.Alone t cfg cfg') :
    ∃ events, cfg'.history = cfg.history ++ events ∧ Chain t cfg.state events cfg'.state := by
  induction halone with
  | refl => exact ⟨[], (List.append_nil _).symm, .nil _⟩
  | @tail middle _ _ hstep ih =>
      obtain ⟨events, hhistory, hchain⟩ := ih
      cases hstep with
      | @call i c k r s' hthread hstep =>
          let event : Event σ C R := ⟨t, middle.state, c, r, s'⟩
          have hchain : Chain t cfg.state (events ++ [event]) s' := Chain.snoc hchain rfl
          exact ⟨events ++ [event], by rw [hhistory, List.append_assoc], hchain⟩

theorem System.Reachable.alone (hreach : S.Reachable cfg) (halone : S.Alone t cfg cfg') :
    S.Reachable cfg' := by
  induction halone with
  | refl => exact hreach
  | tail _ hstep ih => exact ih.tail (.call hstep)

/-- Turns of one thread in a replay. -/
theorem System.alone_turns (env : Environment S) (n : Nat) (cfg : Config σ ι C R α) :
    S.Alone t cfg (turns t env n cfg) := by
  induction n generalizing cfg with
  | zero => exact .refl
  | succ n ih =>
      unfold turns
      split
      · next cfg₁ hturn => exact .head (stepOf_turn hturn) (ih cfg₁)
      · exact .refl

/-- What a thread does in its turns is answered by their environment. -/
theorem System.answered_of_turns (env : Environment S) (n : Nat) (cfg : Config σ ι C R α) :
    ∀ event ∈ (turns t env n cfg).history, event ∈ cfg.history ∨
      (event.thread = t ∧ env.answer event.before event.call = some
        (event.response, event.after)) := by
  induction n generalizing cfg with
  | zero => exact fun event hmem => .inl hmem
  | succ n ih =>
      intro event hmem
      unfold turns at hmem
      split at hmem
      · next cfg₁ hturn =>
        rcases ih cfg₁ event hmem with hearlier | hnew
        · unfold turn at hturn
          split at hturn
          · next i c k hthread =>
            obtain ⟨⟨r, s'⟩, hanswer, rfl⟩ := Option.map_eq_some_iff.mp hturn
            rcases List.mem_append.mp hearlier with hold | hlast
            · exact .inl hold
            · cases List.mem_singleton.mp hlast
              exact .inr ⟨rfl, hanswer⟩
          · cases hturn
        · exact .inr hnew
      · exact .inl hmem

/-- **How a run by itself ends.** `f` is a view of the state, and every event of the run is known to
keep to `sem` on that view. -/
theorem Prog.Returns.of_chain {τ : Type} {f : σ → τ} {sem : τ → (c : C) → R c → τ → Prop}
    {P : τ → C → Prop} {Q : α → τ → Prop} {p : Prog C R α} {a : α}
    (hreturns : p.Returns (events.map Event.observed) a) (hchain : Chain t s events s')
    (hsem : ∀ event ∈ events, sem (f event.before) event.call event.response (f event.after))
    (hwp : p.wp sem P Q (f s)) :
    Q a (f s') ∧ ∀ event ∈ events, P (f event.before) event.call := by
  induction p generalizing events s with
  | pure b =>
      obtain ⟨hnil, rfl⟩ := Prog.returns_pure_iff.mp hreturns
      cases List.map_eq_nil_iff.mp hnil
      cases hchain
      exact ⟨hwp, fun event hmem => absurd hmem List.not_mem_nil⟩
  | call c k ih =>
      obtain ⟨r, h', hcons, hrest⟩ := Prog.returns_call_iff.mp hreturns
      obtain ⟨event, events, rfl, hobserved, rfl⟩ := List.map_eq_cons_iff.mp hcons
      cases hchain with
      | cons hthread hchain =>
          obtain ⟨t', before, c', r', after⟩ := event
          cases hobserved
          obtain ⟨hend, hcalls⟩ := ih r' hrest hchain
            (fun event hmem => hsem event (List.mem_cons_of_mem _ hmem))
            (hwp.2 r' _ (hsem _ List.mem_cons_self))
          exact ⟨hend, List.forall_mem_cons.mpr ⟨hwp.1, hcalls⟩⟩

/-- A program all of whose calls leave the state as it is. -/
theorem Prog.wp_of_only {sem : σ → (c : C) → R c → σ → Prop} {P : σ → C → Prop}
    {Q : α → σ → Prop} {P₀ : C → Prop} {p : Prog C R α} (hp : p.Only P₀)
    (hallowed : ∀ c, P₀ c → P s c) (hsame : ∀ c r s', P₀ c → sem s c r s' → s' = s)
    (hend : ∀ a, Q a s) : p.wp sem P Q s := by
  induction p with
  | pure a => exact hend a
  | call c k ih =>
      refine ⟨hallowed c hp.1, fun r s' hs => ?_⟩
      rw [hsame c r s' hp.1 hs]
      exact ih r (hp.2 r)

end Interleaving
