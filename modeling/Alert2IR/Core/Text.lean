import Alert2IR.Core.Values

/-!
# Python's text

What the source asks of strings whose answer is in the Unicode database is a parameter, fixed only
where the documentation fixes it: on ASCII.
-/

namespace Alert2IR

/-- What stands before the first separator, and what after it. -/
theorem append_separator_inj {α : Type} [DecidableEq α] {separator : α} {x y b c : List α}
    (hx : separator ∉ x) (hy : separator ∉ y) (h : x ++ separator :: b = y ++ separator :: c) :
    x = y ∧ b = c := by
  have hfront : ∀ z d : List α, separator ∉ z →
      (z ++ separator :: d).takeWhile (· ≠ separator) = z := by
    intro z d hz
    rw [List.takeWhile_append_of_pos, List.takeWhile_cons_of_neg (by simp), List.append_nil]
    intro a ha
    rw [decide_eq_true_eq]
    rintro rfl
    exact hz ha
  have hxy : x = y := by rw [← hfront x b hx, h, hfront y c hy]
  subst hxy
  exact ⟨rfl, (List.cons.inj (List.append_cancel_left h)).2⟩

/-- A text in a code, of which no word begins another, can be read in one way. -/
theorem flatMap_inj_of_code {α β : Type} {P : α → Prop} {f : α → List β}
    (hne : ∀ a, P a → f a ≠ [])
    (hcode : ∀ a b x y, P a → P b → f a ++ x = f b ++ y → a = b) {xs ys : List α}
    (hxs : ∀ a ∈ xs, P a) (hys : ∀ a ∈ ys, P a) (h : xs.flatMap f = ys.flatMap f) : xs = ys := by
  induction xs generalizing ys with
  | nil =>
      cases ys with
      | nil => rfl
      | cons b ys =>
          have hempty : f b ++ ys.flatMap f = [] := h.symm
          exact absurd (List.append_eq_nil_iff.mp hempty).1 (hne b (hys b List.mem_cons_self))
  | cons a xs ih =>
      cases ys with
      | nil =>
          have hempty : f a ++ xs.flatMap f = [] := h
          exact absurd (List.append_eq_nil_iff.mp hempty).1 (hne a (hxs a List.mem_cons_self))
      | cons b ys =>
          have hword : f a ++ xs.flatMap f = f b ++ ys.flatMap f := h
          obtain rfl := hcode a b _ _ (hxs a List.mem_cons_self) (hys b List.mem_cons_self) hword
          rw [ih (fun c hc => hxs c (List.mem_cons_of_mem _ hc))
            (fun c hc => hys c (List.mem_cons_of_mem _ hc)) (List.append_cancel_left hword)]

/-- The Unicode database of the interpreter. -/
structure Unicode where
  /-- Whether `repr` shows a character as itself. -/
  isPrintable : Char → Bool
  /-- The value of a character of category Nd. -/
  decimal : Char → Option (Fin 10)
  isPrintable_ascii : ∀ c : Char, c.toNat < 0x80 →
    isPrintable c = (0x20 ≤ c.toNat && c.toNat < 0x7F)
  /-- No character above ASCII that `strip` removes is printable. -/
  not_isPrintable_of_whitespace : ∀ c : Char, 0x80 ≤ c.toNat → isPyWhitespace c = true →
    isPrintable c = false

namespace Unicode

/-- A database that knows no character above ASCII. -/
def ascii : Unicode where
  isPrintable c := 0x20 ≤ c.toNat && c.toNat < 0x7F
  decimal _ := none
  isPrintable_ascii _ _ := rfl
  not_isPrintable_of_whitespace c h _ := by
    have hbound : ¬ c.toNat < 0x7F := by omega
    simp [hbound]

/-- `value.isprintable()`. -/
def isprintable (unicode : Unicode) (value : String) : Bool := value.toList.all unicode.isPrintable

end Unicode

/-- `value.lower()` of ASCII text. -/
def lower (value : String) : String := String.ofList (value.toList.map Char.toLower)

/-- What every program asks of an idempotency key. -/
def visibleKey (key : String) : Bool :=
  1 ≤ key.length && key.length ≤ 128
    && key.toList.all fun c => 0x21 ≤ c.toNat && c.toNat ≤ 0x7E

/-- The text without the characters at either end that `p` holds of. -/
def stripOf (p : Char → Bool) (text : List Char) : List Char :=
  ((text.dropWhile p).reverse.dropWhile p).reverse

/-- `value.strip()`. -/
def strip (value : String) : String := String.ofList (stripOf isPyWhitespace value.toList)

theorem stripOf_eq_self {p : Char → Bool} {text : List Char}
    (hhead : ∀ c ∈ text.head?, p c = false) (hlast : ∀ c ∈ text.getLast?, p c = false) :
    stripOf p text = text := by
  have hdrop : ∀ l : List Char, (∀ c ∈ l.head?, p c = false) → l.dropWhile p = l := by
    intro l hl
    cases l with
    | nil => rfl
    | cons c l => rw [List.dropWhile_cons_of_neg (by simp [hl c rfl])]
  rw [stripOf, hdrop text hhead, hdrop text.reverse (by rwa [List.head?_reverse]),
    List.reverse_reverse]

theorem stripOf_eq_self_of_forall {p : Char → Bool} {text : List Char}
    (h : ∀ c ∈ text, p c = false) : stripOf p text = text :=
  stripOf_eq_self (fun c hc => h c (List.mem_of_mem_head? hc))
    (fun c hc => h c (List.mem_of_mem_getLast? hc))

/-- What is stripped off a text surrounds what is left. -/
theorem exists_stripOf (p : Char → Bool) (text : List Char) : ∃ before after,
    text = before ++ stripOf p text ++ after ∧ (∀ c ∈ before, p c = true) ∧
      ∀ c ∈ after, p c = true := by
  let rest := text.dropWhile p
  refine ⟨text.takeWhile p, (rest.reverse.takeWhile p).reverse, ?_, ?_, ?_⟩
  · have hrest : stripOf p text ++ (rest.reverse.takeWhile p).reverse = rest := by
      rw [stripOf, ← List.reverse_append, List.takeWhile_append_dropWhile, List.reverse_reverse]
    rw [List.append_assoc, hrest, List.takeWhile_append_dropWhile]
  · exact List.all_eq_true.mp List.all_takeWhile
  · intro c hc
    exact List.all_eq_true.mp List.all_takeWhile c (List.mem_reverse.mp hc)

/-- What surrounds a text that starts and ends otherwise is stripped off. -/
theorem stripOf_append {p : Char → Bool} {before text after : List Char} (htext : text ≠ [])
    (hbefore : ∀ c ∈ before, p c = true) (hafter : ∀ c ∈ after, p c = true)
    (hhead : ∀ c ∈ text.head?, p c = false) (hlast : ∀ c ∈ text.getLast?, p c = false) :
    stripOf p (before ++ text ++ after) = text := by
  have hdrop : ∀ l l' : List Char, l ≠ [] → (∀ c ∈ l.head?, p c = false) →
      (l ++ l').dropWhile p = l ++ l' := by
    intro l l' hl hc
    cases l with
    | nil => exact absurd rfl hl
    | cons c l => rw [List.cons_append, List.dropWhile_cons_of_neg (by simp [hc c rfl])]
  have hfront : (before ++ text ++ after).dropWhile p = text ++ after := by
    rw [List.append_assoc, List.dropWhile_append_of_pos hbefore, hdrop text after htext hhead]
  have hback : (text ++ after).reverse.dropWhile p = text.reverse := by
    have hreverse : ∀ c ∈ after.reverse, p c = true :=
      fun c hc => hafter c (List.mem_reverse.mp hc)
    have hself := hdrop text.reverse [] (by simpa using htext) (by rwa [List.head?_reverse])
    rw [List.append_nil] at hself
    rw [List.reverse_append, List.dropWhile_append_of_pos hreverse, hself]
  rw [stripOf, hfront, hback, List.reverse_reverse]

/-- `text.replace(needle, "")`; `skip` characters are left of an occurrence. -/
def remove (needle : List Char) : (skip : Nat) → List Char → List Char
  | 0, c :: rest =>
    if needle.isPrefixOf (c :: rest) then remove needle (needle.length - 1) rest
    else c :: remove needle 0 rest
  | skip + 1, _ :: rest => remove needle skip rest
  | _, [] => []

theorem remove_eq_self {c : Char} {needle text : List Char} (h : c ∉ text) :
    remove (c :: needle) 0 text = text := by
  induction text with
  | nil => rfl
  | cons d rest ih =>
    rw [List.mem_cons, not_or] at h
    obtain ⟨hne, hrest⟩ := h
    have hbeq : (c == d) = false := beq_eq_false_iff_ne.mpr hne
    rw [remove, List.isPrefixOf_cons_cons, hbeq, Bool.false_and,
      if_neg Bool.false_ne_true, ih hrest]

end Alert2IR
