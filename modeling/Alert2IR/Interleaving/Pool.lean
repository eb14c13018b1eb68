import Mathlib.Data.List.Basic
import Mathlib.Logic.Relation
import Alert2IR.Interleaving.Prog

/-!
# Interleaved runs of many programs over one shared state

Threads come into being at any time, each running the program of some invocation, and take turns
in any order, one atomic call at a time. A thread that is never scheduled again has crashed, so a
run needs no step for crashing. The history keeps every call with its answer and the states around
it. What one thread did is a filter of that history, and no other thread can change it: a
discipline that each program keeps on its own calls, whatever the answers, is therefore kept in
every run of all of them.
-/

namespace Interleaving

variable {σ ι C : Type} {R : C → Type} {α : Type}

/-- One call of one thread, its answer, and the shared state around it. -/
structure Event (σ C : Type) (R : C → Type) where
  thread : Nat
  before : σ
  call : C
  response : R call
  after : σ

/-- What the calling thread itself sees of an event. -/
structure Observation (C : Type) (R : C → Type) where
  call : C
  response : R call

def Event.observed (event : Event σ C R) : Observation C R := ⟨event.call, event.response⟩

/-- The calls a thread made, in order, with their answers. -/
def own (t : Nat) (history : List (Event σ C R)) : List (Observation C R) :=
  (history.filter fun event => event.thread = t).map Event.observed

@[simp]
theorem own_nil (t : Nat) : own t ([] : List (Event σ C R)) = [] := rfl

@[simp]
theorem own_append (t : Nat) (first second : List (Event σ C R)) :
    own t (first ++ second) = own t first ++ own t second := by
  simp [own]

@[simp]
theorem own_singleton_self (event : Event σ C R) :
    own event.thread [event] = [event.observed] := by
  simp [own]

theorem own_singleton_of_ne {t : Nat} {event : Event σ C R} (hne : event.thread ≠ t) :
    own t [event] = [] := by
  simp [own, hne]

theorem mem_own {t : Nat} {history : List (Event σ C R)} {o : Observation C R} :
    o ∈ own t history ↔ ∃ event ∈ history, event.thread = t ∧ event.observed = o := by
  simp [own, and_assoc]

theorem own_eq_nil {t : Nat} {history : List (Event σ C R)}
    (h : ∀ event ∈ history, event.thread ≠ t) : own t history = [] := by
  simp only [own, List.map_eq_nil_iff, List.filter_eq_nil_iff, decide_eq_true_eq]
  exact h

theorem own_cons_self {t : Nat} {h₁ h₂ : List (Event σ C R)} {event : Event σ C R}
    (hthread : event.thread = t) :
    own t (h₁ ++ event :: h₂) = own t h₁ ++ event.observed :: own t h₂ := by
  simp [own, hthread]

/-- Where the history has come when one has made the first of one's calls. -/
theorem exists_of_own_append {t : Nat} {history : List (Event σ C R)}
    {first last : List (Observation C R)} (h : own t history = first ++ last) :
    ∃ h₁ h₂, history = h₁ ++ h₂ ∧ own t h₁ = first ∧ own t h₂ = last := by
  obtain ⟨l₁, l₂, hfilter, rfl, rfl⟩ := List.map_eq_append_iff.mp h
  obtain ⟨h₁, h₂, rfl, rfl, rfl⟩ := List.filter_eq_append_iff.mp hfilter
  exact ⟨h₁, h₂, rfl, rfl, rfl⟩

/-- Where in the history one's own calls lie. -/
theorem exists_of_own_eq {t : Nat} {history : List (Event σ C R)} {o : Observation C R}
    {first last : List (Observation C R)} (h : own t history = first ++ o :: last) :
    ∃ h₁ event h₂, history = h₁ ++ event :: h₂ ∧ event.thread = t ∧ event.observed = o ∧
      own t h₁ = first ∧ own t h₂ = last := by
  unfold own at h ⊢
  obtain ⟨l₁, l₂, hfilter, rfl, hrest⟩ := List.map_eq_append_iff.mp h
  obtain ⟨event, l₃, rfl, hobserved, rfl⟩ := List.map_eq_cons_iff.mp hrest
  obtain ⟨h₁, h₂, rfl, rfl, hsecond⟩ := List.filter_eq_append_iff.mp hfilter
  obtain ⟨h₃, h₄, rfl, hskip, hthread, rfl⟩ := List.filter_eq_cons_iff.mp hsecond
  refine ⟨h₁ ++ h₃, event, h₄, by simp, by simpa using hthread, hobserved, ?_, rfl⟩
  rw [List.filter_append, List.filter_eq_nil_iff.mpr hskip, List.append_nil]

/-- The sequential view: the state is the list of one's own calls and every answer is possible. -/
def ownStep (h : List (Observation C R)) (c : C) (r : R c) (h' : List (Observation C R)) : Prop :=
  h' = h ++ [⟨c, r⟩]

section OwnStep

variable {h h' last : List (Observation C R)} {c : C} {r : R c}

theorem ownStep.isPrefix (hstep : ownStep h c r h') : h <+: h' := ⟨_, hstep.symm⟩

theorem ownStep.mem (hstep : ownStep h c r h') : ⟨c, r⟩ ∈ h' := by
  rw [hstep]
  simp

/-- What one's calls end with, and one call more. -/
theorem ownStep.isSuffix (hstep : ownStep h c r h') (hlast : last <:+ h) :
    last ++ [⟨c, r⟩] <:+ h' := by
  obtain ⟨first, rfl⟩ := hlast
  exact ⟨first, by rw [hstep, List.append_assoc]⟩

end OwnStep

/-- A shared state, how calls act on it, and the programs that may be started. -/
structure System (σ ι C : Type) (R : C → Type) (α : Type) where
  init : σ
  step : σ → (c : C) → R c → σ → Prop
  entry : ι → Prog C R α

structure Thread (ι C : Type) (R : C → Type) (α : Type) where
  invocation : ι
  program : Prog C R α

structure Config (σ ι C : Type) (R : C → Type) (α : Type) where
  state : σ
  threads : List (Thread ι C R α)
  history : List (Event σ C R)

/-- The call thread `t` is about to make. -/
def Config.calling (cfg : Config σ ι C R α) (t : Nat) : Option C :=
  match cfg.threads[t]? with
  | some ⟨_, .call c _⟩ => some c
  | _ => none

theorem Config.calling_eq_some_iff {cfg : Config σ ι C R α} {t : Nat} {c : C} :
    cfg.calling t = some c ↔ ∃ i k, cfg.threads[t]? = some ⟨i, .call c k⟩ := by
  unfold calling
  split
  · next i c' k hthread =>
    rw [hthread]
    simp only [Option.some.injEq, Thread.mk.injEq]
    constructor
    · rintro rfl
      exact ⟨i, k, rfl, rfl⟩
    · rintro ⟨i', k', -, hprogram⟩
      cases hprogram
      rfl
  · next hnone =>
    simp only [reduceCtorEq, false_iff, not_exists]
    exact fun i k hthread => hnone i c k hthread

/-- What thread `t` has returned. -/
def Config.returned (cfg : Config σ ι C R α) (t : Nat) : Option α :=
  match cfg.threads[t]? with
  | some ⟨_, .pure a⟩ => some a
  | _ => none

theorem Config.returned_eq_some_iff {cfg : Config σ ι C R α} {t : Nat} {a : α} :
    cfg.returned t = some a ↔ ∃ i, cfg.threads[t]? = some ⟨i, .pure a⟩ := by
  unfold returned
  split
  · next i a' hthread =>
    rw [hthread]
    simp only [Option.some.injEq, Thread.mk.injEq, Prog.pure.injEq]
    exact ⟨fun h => ⟨i, rfl, h⟩, fun ⟨_, _, h⟩ => h⟩
  · next hnone =>
    simp only [reduceCtorEq, false_iff, not_exists]
    exact fun i hthread => hnone i a hthread

namespace System

variable (S : System σ ι C R α)

def start : Config σ ι C R α := ⟨S.init, [], []⟩

/-- One call of thread `t`. -/
inductive StepOf (t : Nat) : Config σ ι C R α → Config σ ι C R α → Prop
  | call {cfg : Config σ ι C R α} {i : ι} {c : C} {k : R c → Prog C R α} {r : R c} {s' : σ}
      (hthread : cfg.threads[t]? = some ⟨i, .call c k⟩) (hstep : S.step cfg.state c r s') :
      StepOf t cfg
        { state := s'
          threads := cfg.threads.set t ⟨i, k r⟩
          history := cfg.history ++ [⟨t, cfg.state, c, r, s'⟩] }

/-- One step of a run: some invocation arrives, or some thread makes its next call. -/
inductive Step : Config σ ι C R α → Config σ ι C R α → Prop
  | spawn (cfg : Config σ ι C R α) (i : ι) :
      Step cfg { cfg with threads := cfg.threads ++ [⟨i, S.entry i⟩] }
  | call {t : Nat} {cfg cfg' : Config σ ι C R α} (hstep : S.StepOf t cfg cfg') : Step cfg cfg'

/-- The configurations of all runs. -/
def Reachable (cfg : Config σ ι C R α) : Prop := Relation.ReflTransGen S.Step S.start cfg

/-- The histories of all runs whose threads keep the discipline `P` on their own calls, with the
invocations started so far and the state reached. -/
inductive Trace (P : ι → List (Observation C R) → C → Prop) :
    List ι → List (Event σ C R) → σ → Prop
  | start : Trace P [] [] S.init
  | spawn {is : List ι} {h : List (Event σ C R)} {s : σ} (i : ι) (hprev : Trace P is h s) :
      Trace P (is ++ [i]) h s
  | call {is : List ι} {h : List (Event σ C R)} {s : σ} {t : Nat} {i : ι} {c : C} {r : R c}
      {s' : σ} (hprev : Trace P is h s) (hinvocation : is[t]? = some i)
      (hallowed : P i (own t h) c) (hstep : S.step s c r s') :
      Trace P is (h ++ [⟨t, s, c, r, s'⟩]) s'

variable {S}
variable {P : ι → List (Observation C R) → C → Prop}
  {Q : ι → α → List (Observation C R) → Prop}

theorem Trace.thread_lt {is : List ι} {h : List (Event σ C R)} {s : σ} (htrace : S.Trace P is h s) :
    ∀ event ∈ h, event.thread < is.length := by
  induction htrace with
  | start => simp
  | spawn i _ ih =>
      intro event hmem
      have hlt := ih event hmem
      simp only [List.length_append, List.length_singleton]
      omega
  | call _ hinvocation _ _ ih =>
      intro event hmem
      rcases List.mem_append.mp hmem with hmem | hmem
      · exact ih event hmem
      · rw [List.mem_singleton.mp hmem]
        exact (List.getElem?_eq_some_iff.mp hinvocation).1

/-- What is known of every configuration once each program, run against arbitrary answers, is known
to keep `P` and to establish `Q`: the history keeps `P`, and every thread's remaining program still
does from where it stands. -/
structure Disciplined (S : System σ ι C R α) (P : ι → List (Observation C R) → C → Prop)
    (Q : ι → α → List (Observation C R) → Prop) (cfg : Config σ ι C R α) : Prop where
  trace : S.Trace P (cfg.threads.map Thread.invocation) cfg.history cfg.state
  remaining : ∀ (t : Nat) (thread : Thread ι C R α), cfg.threads[t]? = some thread →
    thread.program.wp ownStep (P thread.invocation) (Q thread.invocation) (own t cfg.history)

/-- What a program satisfies where it starts, and still satisfies after any answer to its next call,
every thread of a run satisfies where it stands. -/
theorem Reachable.follows {cfg : Config σ ι C R α} (hreach : S.Reachable cfg)
    {I : ι → Prog C R α → List (Observation C R) → Prop} (hentry : ∀ i, I i (S.entry i) [])
    (hcall : ∀ i c k r h, I i (.call c k) h → I i (k r) (h ++ [⟨c, r⟩])) :
    (∀ event ∈ cfg.history, event.thread < cfg.threads.length) ∧
      ∀ (t : Nat) (thread : Thread ι C R α), cfg.threads[t]? = some thread →
        I thread.invocation thread.program (own t cfg.history) := by
  induction hreach with
  | refl => exact ⟨by simp [start], by simp [start]⟩
  | @tail cfg cfg' _ hstep ih =>
      obtain ⟨hlt, hthreads⟩ := ih
      cases hstep with
      | spawn _ i =>
          refine ⟨fun event hmem => ?_, fun t thread hthread => ?_⟩
          · have hevent := hlt event hmem
            simp only [List.length_append, List.length_singleton]
            omega
          rcases Nat.lt_trichotomy t cfg.threads.length with hbefore | heq | hafter
          · rw [List.getElem?_append_left hbefore] at hthread
            exact hthreads t thread hthread
          · subst heq
            have hfresh : own cfg.threads.length cfg.history = [] :=
              own_eq_nil fun event hmem => Nat.ne_of_lt (hlt event hmem)
            simp only [List.getElem?_concat_length, Option.some.injEq] at hthread
            subst hthread
            rw [hfresh]
            exact hentry i
          · rw [List.getElem?_eq_none (by simp; omega)] at hthread
            cases hthread
      | @call t _ _ hstep =>
          cases hstep with
          | @call i c k r s' hthread hstep =>
              have htlt : t < cfg.threads.length := (List.getElem?_eq_some_iff.mp hthread).1
              refine ⟨fun event hmem => ?_, fun t' thread' hthread' => ?_⟩
              · rw [List.length_set]
                rcases List.mem_append.mp hmem with hmem | hmem
                · exact hlt event hmem
                · rw [List.mem_singleton.mp hmem]
                  exact htlt
              by_cases heq : t = t'
              · subst heq
                rw [List.getElem?_set_self htlt] at hthread'
                cases hthread'
                have hown : own t [(⟨t, cfg.state, c, r, s'⟩ : Event σ C R)] = [⟨c, r⟩] := by
                  simp [own, Event.observed]
                rw [own_append, hown]
                exact hcall _ _ _ _ _ (hthreads t _ hthread)
              · rw [List.getElem?_set_ne heq] at hthread'
                rw [own_append, own_singleton_of_ne heq, List.append_nil]
                exact hthreads t' thread' hthread'

/-- **Discipline is modular.** If every program keeps `P` and establishes `Q` on its own, then so
does every thread of every run. -/
theorem Reachable.disciplined {cfg : Config σ ι C R α} (hreach : S.Reachable cfg)
    (hentry : ∀ i, (S.entry i).wp ownStep (P i) (Q i) []) : Disciplined S P Q cfg := by
  have hremaining : ∀ {cfg}, S.Reachable cfg → ∀ (t : Nat) (thread : Thread ι C R α),
      cfg.threads[t]? = some thread →
      thread.program.wp ownStep (P thread.invocation) (Q thread.invocation) (own t cfg.history) :=
    fun hreach => (hreach.follows (I := fun i p h => p.wp ownStep (P i) (Q i) h) hentry
      fun i c k r h hwp => hwp.2 r _ rfl).2
  refine ⟨?_, hremaining hreach⟩
  induction hreach with
  | refl => exact .start
  | @tail cfg cfg' hprev hstep ih =>
      cases hstep with
      | spawn _ i =>
          rw [List.map_append]
          exact ih.spawn i
      | @call t _ _ hstep =>
          cases hstep with
          | @call i c k r s' hthread hstep =>
              have hinvocation : (cfg.threads.map Thread.invocation)[t]? = some i := by
                simp [hthread]
              have hmap : (cfg.threads.set t ⟨i, k r⟩).map Thread.invocation
                  = cfg.threads.map Thread.invocation := by
                obtain ⟨hlt, hget⟩ := List.getElem?_eq_some_iff.mp hinvocation
                rw [List.map_set, ← List.set_getElem_self hlt, hget]
                simp
              simp only [hmap]
              exact ih.call hinvocation (hremaining hprev t _ hthread).1 hstep

/-- A thread that has returned has established `Q`. -/
theorem Disciplined.returned {cfg : Config σ ι C R α} (hdisciplined : Disciplined S P Q cfg)
    {t : Nat} {a : α} (hreturned : cfg.returned t = some a) : ∃ i, Q i a (own t cfg.history) := by
  obtain ⟨i, hthread⟩ := Config.returned_eq_some_iff.mp hreturned
  exact ⟨i, hdisciplined.remaining t _ hthread⟩

/-- A thread that is about to call keeps `P`. -/
theorem Disciplined.calling {cfg : Config σ ι C R α} (hdisciplined : Disciplined S P Q cfg)
    {t : Nat} {c : C} (hcalling : cfg.calling t = some c) : ∃ i, P i (own t cfg.history) c := by
  obtain ⟨i, k, hthread⟩ := Config.calling_eq_some_iff.mp hcalling
  exact ⟨i, (hdisciplined.remaining t _ hthread).1⟩

/-! ### Traces, read backwards -/

/-- An invariant of the state that every disciplined call preserves holds in every run. -/
theorem Trace.invariant {is : List ι} {h : List (Event σ C R)} {s : σ}
    (htrace : S.Trace P is h s) {Inv : List ι → List (Event σ C R) → σ → Prop}
    (hstart : Inv [] [] S.init)
    (hspawn : ∀ is h s i, Inv is h s → Inv (is ++ [i]) h s)
    (hcall : ∀ is h s t i c r s', S.Trace P is h s → Inv is h s → is[t]? = some i →
      P i (own t h) c → S.step s c r s' → Inv is (h ++ [⟨t, s, c, r, s'⟩]) s') : Inv is h s := by
  induction htrace with
  | start => exact hstart
  | spawn i _ ih => exact hspawn _ _ _ i ih
  | call hprev hinvocation hallowed hstep ih =>
      exact hcall _ _ _ _ _ _ _ _ hprev ih hinvocation hallowed hstep

/-- Every event of a trace was a disciplined step out of the trace before it. -/
theorem Trace.split {is : List ι} {h : List (Event σ C R)} {s : σ} (htrace : S.Trace P is h s)
    {h₁ h₂ : List (Event σ C R)} {event : Event σ C R} (heq : h = h₁ ++ event :: h₂) :
    ∃ is₁ i, S.Trace P is₁ h₁ event.before ∧ is[event.thread]? = some i ∧
      P i (own event.thread h₁) event.call ∧
      S.step event.before event.call event.response event.after := by
  induction htrace generalizing h₂ with
  | start => simp at heq
  | spawn i _ ih =>
      obtain ⟨is₁, j, htrace₁, hget, hallowed, hstep⟩ := ih heq
      refine ⟨is₁, j, htrace₁, ?_, hallowed, hstep⟩
      rw [List.getElem?_append_left (List.getElem?_eq_some_iff.mp hget).1]
      exact hget
  | @call is h s t i c r s' hprev hinvocation hallowed hstep ih =>
      rcases List.eq_nil_or_concat h₂ with rfl | ⟨h₂, last, rfl⟩
      · obtain ⟨rfl, hlast⟩ := List.append_inj' heq rfl
        cases hlast
        exact ⟨is, i, hprev, hinvocation, hallowed, hstep⟩
      · rw [List.concat_eq_append, ← List.cons_append, ← List.append_assoc] at heq
        exact ih (List.append_inj' heq rfl).1

/-- A run up to some event is a run. -/
theorem Trace.upto {is : List ι} {h : List (Event σ C R)} {s : σ} (htrace : S.Trace P is h s)
    (h₁ : List (Event σ C R)) (event : Event σ C R) (h₂ : List (Event σ C R))
    (heq : h = h₁ ++ event :: h₂) : ∃ is₁, S.Trace P is₁ (h₁ ++ [event]) event.after := by
  induction htrace generalizing h₂ with
  | start => simp at heq
  | spawn i _ ih => exact ih h₂ heq
  | @call is h s t i c r s' hprev hinvocation hallowed hstep ih =>
      rcases List.eq_nil_or_concat h₂ with rfl | ⟨h₂, last, rfl⟩
      · obtain ⟨rfl, hlast⟩ := List.append_inj' heq rfl
        cases hlast
        exact ⟨is, hprev.call hinvocation hallowed hstep⟩
      · rw [List.concat_eq_append, ← List.cons_append, ← List.append_assoc] at heq
        exact ih _ (List.append_inj' heq rfl).1

/-- What relates the states around every event relates any two states of a run, if it composes. -/
theorem Trace.pairwise {is : List ι} {h : List (Event σ C R)} {s : σ} (htrace : S.Trace P is h s)
    (Rel : σ → σ → Prop) (hrefl : ∀ s, Rel s s)
    (htrans : ∀ {s s' s''}, Rel s s' → Rel s' s'' → Rel s s'')
    (hevents : ∀ event ∈ h, Rel event.before event.after) :
    (∀ event ∈ h, Rel event.after s) ∧
      h.Pairwise fun event later => Rel event.after later.after := by
  induction htrace with
  | start => exact ⟨fun _ hmem => absurd hmem List.not_mem_nil, .nil⟩
  | spawn i _ ih => exact ih hevents
  | @call is h s t i c r s' _ _ _ _ ih =>
      obtain ⟨hbefore, hpairwise⟩ := ih fun event hmem =>
        hevents event (List.mem_append_left _ hmem)
      have hlast : Rel s s' := hevents ⟨t, s, c, r, s'⟩ (by simp)
      have hafter : ∀ event ∈ h, Rel event.after s' := fun event hmem =>
        htrans (hbefore event hmem) hlast
      refine ⟨fun event hmem => ?_, ?_⟩
      · rcases List.mem_append.mp hmem with hmem | hmem
        · exact hafter event hmem
        · rw [List.mem_singleton.mp hmem]
          exact hrefl s'
      · rw [List.pairwise_append]
        refine ⟨hpairwise, List.pairwise_singleton _ _, fun event hmem later hlater => ?_⟩
        rw [List.mem_singleton.mp hlater]
        exact hafter event hmem

/-! ### Turning points -/

/-- What is false at first and true at last turned true at some event. -/
theorem Trace.exists_turn {is : List ι} {h : List (Event σ C R)} {s : σ}
    (htrace : S.Trace P is h s) {T : σ → Prop} (hstart : ¬ T S.init) (hend : T s) :
    ∃ h₁ event h₂, h = h₁ ++ event :: h₂ ∧ ¬ T event.before ∧ T event.after := by
  induction htrace with
  | start => exact absurd hend hstart
  | spawn i _ ih => exact ih hend
  | @call is h s t i c r s' _ _ _ _ ih =>
      by_cases hbefore : T s
      · obtain ⟨h₁, event, h₂, rfl, hturn⟩ := ih hbefore
        exact ⟨h₁, event, h₂ ++ [⟨t, s, c, r, s'⟩], by simp, hturn⟩
      · exact ⟨h, ⟨t, s, c, r, s'⟩, [], rfl, hbefore, hend⟩

/-- What no event turns false stays true. -/
theorem Trace.stays {is : List ι} {h : List (Event σ C R)} {s : σ} (htrace : S.Trace P is h s)
    {T : σ → Prop} (hstable : ∀ event ∈ h, T event.before → T event.after)
    {h₁ h₂ : List (Event σ C R)} {event : Event σ C R} (heq : h = h₁ ++ event :: h₂)
    (hafter : T event.after) : T s := by
  induction htrace generalizing h₂ with
  | start => simp at heq
  | spawn i _ ih => exact ih hstable heq
  | @call is h s t i c r s' hprev hinvocation hallowed hstep ih =>
      rcases List.eq_nil_or_concat h₂ with rfl | ⟨h₂, last, rfl⟩
      · obtain ⟨rfl, hlast⟩ := List.append_inj' heq rfl
        cases hlast
        exact hafter
      · rw [List.concat_eq_append, ← List.cons_append, ← List.append_assoc] at heq
        have hbefore := ih (fun event hmem => hstable event (List.mem_append_left _ hmem))
          (List.append_inj' heq rfl).1
        exact hstable ⟨t, s, c, r, s'⟩ (List.mem_append_right _
          (List.mem_singleton.mpr rfl)) hbefore

/-- **What stays true turned true only once.** -/
theorem Trace.turn_unique {is : List ι} {h : List (Event σ C R)} {s : σ}
    (htrace : S.Trace P is h s) {T : σ → Prop}
    (hstable : ∀ event ∈ h, T event.before → T event.after)
    {h₁ h₂ h₁' h₂' : List (Event σ C R)} {event event' : Event σ C R}
    (heq : h = h₁ ++ event :: h₂) (hturn : ¬ T event.before) (hafter : T event.after)
    (heq' : h = h₁' ++ event' :: h₂') (hturn' : ¬ T event'.before) (hafter' : T event'.after) :
    h₁ = h₁' ∧ event = event' ∧ h₂ = h₂' := by
  have hlater : ∀ {g₁ g₂ g₁' g₂' : List (Event σ C R)} {e e' : Event σ C R},
      h = g₁ ++ e :: g₂ → T e.after → h = g₁' ++ e' :: g₂' → ¬ T e'.before →
      g₁'.length ≤ g₁.length := by
    intro g₁ g₂ g₁' g₂' e e' hg hafter hg' hbefore'
    by_contra hlt
    rw [Nat.not_le] at hlt
    obtain ⟨_, _, htrace', -⟩ := htrace.split hg'
    have hinit : g₁ ++ [e] <+: g₁' := by
      refine List.prefix_of_prefix_length_le (show _ <+: h from ?_) ?_ ?_
      · exact ⟨g₂, by rw [hg, List.append_assoc]; rfl⟩
      · exact ⟨e' :: g₂', hg'.symm⟩
      · simp only [List.length_append, List.length_singleton]
        omega
    obtain ⟨m, hm⟩ := hinit
    have hm : g₁' = g₁ ++ e :: m := by simp [← hm]
    refine hbefore' (htrace'.stays (fun event hmem => hstable event ?_) hm hafter)
    rw [hg']
    exact List.mem_append_left _ hmem
  have hlength : h₁.length = h₁'.length :=
    Nat.le_antisymm (hlater heq' hafter' heq hturn) (hlater heq hafter heq' hturn')
  obtain ⟨hfirst, hrest⟩ := List.append_inj (heq.symm.trans heq') hlength
  obtain ⟨hevent, hlast⟩ := List.cons.inj hrest
  exact ⟨hfirst, hevent, hlast⟩

end System

end Interleaving
