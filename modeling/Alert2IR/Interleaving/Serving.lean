import Alert2IR.Interleaving.Pool

/-!
# Systems that are served

A system is more than what a service makes of it: the service starts only some of the invocations,
and what stands around it answers only as it does. Its runs are runs of the system, and a program
may rely on the answers.
-/

namespace Interleaving

variable {σ ι κ C : Type} {R : C → Type} {α : Type}

/-- One's own calls, which are answered only as `A` allows. -/
def answeredStep (A : (c : C) → R c → Prop) (h : List (Observation C R)) (c : C) (r : R c)
    (h' : List (Observation C R)) : Prop := ownStep h c r h' ∧ A c r

/-- The part of a system that is started with the invocations `f` and answered as `A` allows. -/
def System.serving (S : System σ ι C R α) (f : κ → ι) (A : (c : C) → R c → Prop) :
    System σ κ C R α where
  init := S.init
  step s c r s' := S.step s c r s' ∧ A c r
  entry k := S.entry (f k)

def Thread.serving (f : κ → ι) (thread : Thread κ C R α) : Thread ι C R α :=
  ⟨f thread.invocation, thread.program⟩

def Config.serving (f : κ → ι) (cfg : Config σ κ C R α) : Config σ ι C R α :=
  ⟨cfg.state, cfg.threads.map (Thread.serving f), cfg.history⟩

/-- Whether all answers so far are as `A` allows. -/
def Answered (A : (c : C) → R c → Prop) (h : List (Observation C R)) : Prop :=
  ∀ o ∈ h, A o.call o.response

section Answers

variable {A : (c : C) → R c → Prop} {h : List (Observation C R)}

theorem Answered.of_append {h' : List (Observation C R)} (hanswered : Answered A (h ++ h')) :
    Answered A h :=
  fun o ho => hanswered o (List.mem_append_left _ ho)

/-- What a program keeps to while the answers are as allowed. -/
theorem Prog.wp_of_answered {P : List (Observation C R) → C → Prop}
    {Q : α → List (Observation C R) → Prop} {p : Prog C R α}
    (hwp : Answered A h → p.wp (answeredStep A) P Q h) :
    p.wp ownStep (fun h c => Answered A h → P h c) (fun a h => Answered A h → Q a h) h := by
  induction p generalizing h with
  | pure a => exact hwp
  | call c k ih =>
      refine ⟨fun hanswered => (hwp hanswered).1, fun r h' hstep => ih r fun hanswered => ?_⟩
      rw [hstep] at hanswered
      have hanswer : A c r := hanswered ⟨c, r⟩ (by simp)
      exact (hwp hanswered.of_append).2 r h' ⟨hstep, hanswer⟩

end Answers

namespace System

variable {S : System σ ι C R α} {f : κ → ι} {A : (c : C) → R c → Prop} {cfg : Config σ κ C R α}

/-- **A run of what is served is a run of the system**, in which all answers are as allowed. -/
theorem Reachable.of_serving (hreach : (S.serving f A).Reachable cfg) :
    S.Reachable (cfg.serving f) ∧ ∀ event ∈ cfg.history, A event.call event.response := by
  induction hreach with
  | refl => exact ⟨.refl, by simp [start]⟩
  | @tail cfg cfg' _ hstep ih =>
      obtain ⟨hreach, hanswers⟩ := ih
      cases hstep with
      | spawn _ k =>
          refine ⟨hreach.tail ?_, hanswers⟩
          simp only [Config.serving, List.map_append]
          exact .spawn (cfg.serving f) (f k)
      | @call t _ _ hstep =>
          cases hstep with
          | @call k c p r s' hthread hstep =>
              have hserved : (cfg.serving f).threads[t]? = some ⟨f k, .call c p⟩ := by
                simp [Config.serving, Thread.serving, hthread]
              refine ⟨hreach.tail ?_, fun event hmem => ?_⟩
              · simp only [Config.serving, List.map_set]
                exact .call (.call hserved hstep.1)
              · rcases List.mem_append.mp hmem with hmem | hmem
                · exact hanswers event hmem
                · rw [List.mem_singleton.mp hmem]
                  exact hstep.2

theorem answered_own {h : List (Event σ C R)} (hanswers : ∀ event ∈ h, A event.call event.response)
    (t : Nat) : Answered A (own t h) := by
  intro o ho
  obtain ⟨event, hmem, -, rfl⟩ := mem_own.mp ho
  exact hanswers event hmem

/-- **Programs may rely on the answers.** What every program keeps to while it is answered as
allowed, every call of a run keeps to. -/
theorem Reachable.serves (hreach : (S.serving f A).Reachable cfg)
    {P : κ → List (Observation C R) → C → Prop} {Q : κ → α → List (Observation C R) → Prop}
    (hentry : ∀ k, (S.entry (f k)).wp (answeredStep A) (P k) (Q k) []) :
    ∀ h₁ event h₂, cfg.history = h₁ ++ event :: h₂ →
      ∃ k, P k (own event.thread h₁) event.call := by
  intro h₁ event h₂ hsplit
  have hanswers := hreach.of_serving.2
  have htrace := (hreach.disciplined fun k => Prog.wp_of_answered fun _ => hentry k).trace
  obtain ⟨-, k, -, -, hallowed, -⟩ := htrace.split hsplit
  refine ⟨k, hallowed (answered_own (fun event hmem => hanswers event ?_) _)⟩
  rw [hsplit]
  exact List.mem_append_left _ hmem

end System

end Interleaving
