import Alert2IR.Core.Values

/-!
# Lifecycle states and exceptions
-/

namespace Alert2IR

inductive ProcessingState
  | accepted
  | planned
  | submitting
  | submitted
  | completed
  | failed
  | recoveryRequired
deriving DecidableEq, Repr

inductive ExecutionAttemptState
  | planned
  | submitting
  | submitted
  | completed
  | failed
  | recoveryRequired
deriving DecidableEq, Repr

def ProcessingState.value : ProcessingState → String
  | .accepted => "accepted"
  | .planned => "planned"
  | .submitting => "submitting"
  | .submitted => "submitted"
  | .completed => "completed"
  | .failed => "failed"
  | .recoveryRequired => "recovery_required"

def ExecutionAttemptState.value : ExecutionAttemptState → String
  | .planned => "planned"
  | .submitting => "submitting"
  | .submitted => "submitted"
  | .completed => "completed"
  | .failed => "failed"
  | .recoveryRequired => "recovery_required"

/-- The exceptions the source tells apart. The two routing errors carry the processing ID and state
that `_advance_accepted` attaches to them. Any exception of other code is `other`. -/
inductive PyError
  | valueError (message : String)
  | runtimeError (message : String)
  | typeError (message : String)
  | attributeError (message : String)
  | timeoutError
  | dataError (message : String)
  | integrityError (constraint : String)
  | operationalError
  | backendSubmissionRejected
  | unsupportedCapabilities (requested : List String)
      (processing : Option (UUID × ProcessingState))
  | ambiguousBackend (requested eligible : List String)
      (processing : Option (UUID × ProcessingState))
  | idempotencyConflict (processingId : UUID)
  | persistenceUnavailable (message : String)
  | other (name : String)
deriving DecidableEq

def ProcessingState.all : List ProcessingState :=
  [.accepted, .planned, .submitting, .submitted, .completed, .failed, .recoveryRequired]

def ExecutionAttemptState.all : List ExecutionAttemptState :=
  [.planned, .submitting, .submitted, .completed, .failed, .recoveryRequired]

/-- `ProcessingState(value)`. -/
def ProcessingState.ofValue (value : String) : Except PyError ProcessingState :=
  match all.find? fun state => state.value = value with
  | some state => .ok state
  | none => .error (.valueError "not a valid ProcessingState")

/-- `ExecutionAttemptState(value)`. -/
def ExecutionAttemptState.ofValue (value : String) : Except PyError ExecutionAttemptState :=
  match all.find? fun state => state.value = value with
  | some state => .ok state
  | none => .error (.valueError "not a valid ExecutionAttemptState")

@[simp]
theorem ProcessingState.ofValue_value (s : ProcessingState) : ofValue s.value = .ok s := by
  cases s <;> rfl

@[simp]
theorem ExecutionAttemptState.ofValue_value (s : ExecutionAttemptState) :
    ofValue s.value = .ok s := by
  cases s <;> rfl

theorem ProcessingState.value_injective : Function.Injective ProcessingState.value := by
  intro s s' h
  have hok : (Except.ok s : Except PyError ProcessingState) = .ok s' := by
    rw [← ofValue_value, h, ofValue_value]
  exact Except.ok.inj hok

theorem ExecutionAttemptState.value_injective :
    Function.Injective ExecutionAttemptState.value := by
  intro s s' h
  have hok : (Except.ok s : Except PyError ExecutionAttemptState) = .ok s' := by
    rw [← ofValue_value, h, ofValue_value]
  exact Except.ok.inj hok

/-- A `__post_init__`: checks in order, of which the first that fails raises `ValueError`. -/
def checks : List (Bool × String) → Except PyError Unit
  | [] => .ok ()
  | (holds, message) :: rest => if holds then checks rest else .error (.valueError message)

theorem checks_eq_ok_iff {l : List (Bool × String)} :
    checks l = .ok () ↔ ∀ check ∈ l, check.1 = true := by
  induction l with
  | nil => simp [checks]
  | cons check rest ih =>
      obtain ⟨holds, message⟩ := check
      cases holds <;> simp [checks, ih]

theorem checks_error {l : List (Bool × String)} {e : PyError} (h : checks l = .error e) :
    ∃ message, e = .valueError message := by
  induction l with
  | nil => cases h
  | cons check rest ih =>
      obtain ⟨holds, message⟩ := check
      cases holds with
      | false => exact ⟨message, by simpa [checks] using h.symm⟩
      | true => exact ih (by simpa [checks] using h)

theorem checks_append {l l' : List (Bool × String)} :
    checks (l ++ l') = .ok () ↔ checks l = .ok () ∧ checks l' = .ok () := by
  simp only [checks_eq_ok_iff, List.mem_append]
  exact ⟨fun h => ⟨fun c hc => h c (.inl hc), fun c hc => h c (.inr hc)⟩,
    fun h c hc => hc.elim (h.1 c) (h.2 c)⟩

/-- A check on a value that may be absent passes when it is. -/
def ifPresent {α : Type} (value : Option α) (check : α → Bool) : Bool := value.all check

@[simp]
theorem ifPresent_none {α : Type} (check : α → Bool) : ifPresent none check = true := rfl

@[simp]
theorem ifPresent_some {α : Type} (a : α) (check : α → Bool) :
    ifPresent (some a) check = check a := rfl

/-! ### Filters that may raise -/

theorem filterAuxM_eq_ok {α ε : Type} {f : α → Except ε Bool} {l acc l' : List α}
    (h : l.filterAuxM f acc = .ok l') :
    ∃ kept : List α, l' = kept.reverse ++ acc ∧ kept.Sublist l ∧ (∀ a ∈ l, ∃ b, f a = .ok b) ∧
      ∀ a, a ∈ kept ↔ a ∈ l ∧ f a = .ok true := by
  induction l generalizing acc with
  | nil =>
      cases h
      exact ⟨[], rfl, .slnil, by simp, by simp⟩
  | cons a l ih =>
      rw [List.filterAuxM] at h
      cases hf : f a with
      | error e => simp [hf, bind, Except.bind] at h
      | ok b =>
          simp only [hf, bind, Except.bind] at h
          obtain ⟨kept, rfl, hsub, hok, hmem⟩ := ih h
          cases b with
          | false =>
              refine ⟨kept, rfl, hsub.cons a, ?_, ?_⟩
              · intro a' ha'
                rcases List.mem_cons.mp ha' with rfl | ha'
                · exact ⟨_, hf⟩
                · exact hok a' ha'
              · intro a'
                rw [hmem, List.mem_cons]
                constructor
                · rintro ⟨ha', hkept⟩
                  exact ⟨.inr ha', hkept⟩
                · rintro ⟨rfl | ha', hkept⟩
                  · rw [hf] at hkept
                    cases hkept
                  · exact ⟨ha', hkept⟩
          | true =>
              refine ⟨a :: kept, by simp, hsub.cons_cons a, ?_, ?_⟩
              · intro a' ha'
                rcases List.mem_cons.mp ha' with rfl | ha'
                · exact ⟨_, hf⟩
                · exact hok a' ha'
              · intro a'
                rw [List.mem_cons, hmem, List.mem_cons]
                constructor
                · rintro (rfl | ⟨ha', hkept⟩)
                  · exact ⟨.inl rfl, hf⟩
                  · exact ⟨.inr ha', hkept⟩
                · rintro ⟨rfl | ha', hkept⟩
                  · exact .inl rfl
                  · exact .inr ⟨ha', hkept⟩

/-- A filter that may raise, and does not. -/
theorem filterM_eq_ok {α ε : Type} {f : α → Except ε Bool} {l l' : List α}
    (h : l.filterM f = .ok l') :
    l'.Sublist l ∧ (∀ a ∈ l, ∃ b, f a = .ok b) ∧ ∀ a, a ∈ l' ↔ a ∈ l ∧ f a = .ok true := by
  rw [List.filterM] at h
  cases haux : l.filterAuxM f [] with
  | error e => simp [haux, bind, Except.bind] at h
  | ok rev =>
      obtain ⟨kept, rfl, hsub, hok, hmem⟩ := filterAuxM_eq_ok haux
      simp only [haux, bind, Except.bind, pure, Except.pure, List.append_nil, List.reverse_reverse,
        Except.ok.injEq] at h
      subst h
      exact ⟨hsub, hok, hmem⟩
end Alert2IR
