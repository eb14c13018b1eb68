import Alert2IR.Firewall.Adapter

/-!
# The adapter boundary converges, and stays closed on the way

Applying the boundary leaves its two rules at the top and everyone else's rules below, in their
order. From the first insertion on, whatever else fails and wherever the script is killed, nothing
but the Splunk host gets through to the adapter.
-/

namespace Firewall

open Shell Shell.Script

variable {line : Rule → String} {rules rest : List Rule} {rule : Rule} {s s' : Chain}
  {Q : Chain → Prop}

/-- How `iptables -S` prints a rule: as an appending command that shows the comments. -/
structure Listed (line : Rule → String) (rule : Rule) : Prop where
  appended : firstField (line rule) = "-A".toList
  comment : ∀ comment ∈ [allowComment, dropComment],
    occurs (marker comment) (line rule) = true ↔ rule.Carries comment

/-- A rule that is neither owned nor one of the two legacy rules. -/
def Rule.IsForeign (rule : Rule) : Prop :=
  ¬(rule.Carries allowComment ∨ rule.Carries dropComment) ∧
    rule ≠ legacyAllowRule ∧ rule ≠ legacyDropRule

instance (rule : Rule) : Decidable rule.IsForeign := inferInstanceAs (Decidable (_ ∧ _))

/-- The boundary above what belongs to others. -/
def applied (rules : List Rule) : List Rule :=
  allowRule :: dropRule :: rules.filter Rule.IsForeign

/-- The boundary at the top, and no other rule with one of its comments. -/
def Verified (rules : List Rule) : Prop :=
  ∃ rest, rules = allowRule :: dropRule :: rest ∧
    ∀ rule ∈ rest, ¬(rule.Carries allowComment ∨ rule.Carries dropComment)

/-! ### Commands that do what they are for -/

theorem ends_capture {c : Command} {k : Output c → Script Command Output} {x : Output c}
    (hexec : exec line c s = (some x, s')) (hk : Ends (Reliable line) Q (k x) s') :
    Ends (Reliable line) Q (capture c k) s := by
  refine Ends.run ⟨_, _, hexec⟩ fun r s'' hsem => ?_
  obtain ⟨rfl, rfl⟩ := Prod.mk.inj (hexec.symm.trans hsem)
  exact hk

theorem ends_command {c : Command} (x : Output c) (s' : Chain)
    (hexec : exec line c s = (some x, s')) (hQ : Q s') :
      Ends (Reliable line) Q (Script.command c) s :=
  ends_capture hexec (.done hQ)

theorem exists_of_ends_capture {c : Command} {k : Output c → Script Command Output}
    (h : Ends (Reliable line) Q (capture c k) s) :
    ∃ x s', exec line c s = (some x, s') ∧ Ends (Reliable line) Q (k x) s' := by
  rcases hexec : exec line c s with ⟨r, s'⟩
  have hnext := h.of_run (show Reliable line s c r s' from hexec)
  cases r with
  | none => exact absurd hnext not_ends_exit
  | some x => exact ⟨x, s', rfl, hnext⟩

/-! ### Owned rules -/

theorem Listed.owned (h : Listed line rule) :
    ownedLine (line rule) = true ↔ rule.Carries allowComment ∨ rule.Carries dropComment := by
  rw [ownedLine, Bool.or_eq_true, h.comment _ (.head _), h.comment _ (.tail _ (.head _))]

theorem ruleCount_list (hlisted : ∀ rule ∈ rules, Listed line rule) :
    ruleCount ("-N DOCKER-USER" :: rules.map line) = rules.length := by
  rw [ruleCount, List.countP_cons_of_neg (by decide +kernel), List.countP_map,
    List.countP_eq_length]
  intro rule hrule
  simp [(hlisted rule hrule).appended]

/-- Going down from `index`, the loop leaves the first rules as they are and takes the owned rules
out of the others. -/
theorem removeOwnedRulesFrom_ends (line : Rule → String) (rules : List Rule) {first : Nat}
    (hfirst : 1 ≤ first) {index : Nat}
    (hindex : index ≤ rules.length) (hbelow : first ≤ index + 1) :
    Ends (Reliable line)
      (· = some (rules.take (first - 1) ++
        (rules.drop (first - 1)).filter fun rule => !ownedLine (line rule)))
      (removeOwnedRulesFrom first index)
      (some (rules.take index ++ (rules.drop index).filter fun rule =>
        !ownedLine (line rule))) := by
  induction index with
  | zero =>
      obtain rfl : first = 1 := by omega
      exact .done rfl
  | succ index ih =>
      rw [removeOwnedRulesFrom]
      split
      · next hlt =>
        obtain rfl : first = index + 2 := by omega
        exact .done rfl
      · next hge =>
        have hlt : index < rules.length := hindex
        have hdrop : rules.drop index = rules[index] :: rules.drop (index + 1) :=
          List.drop_eq_getElem_cons hlt
        have htake : rules.take (index + 1) = rules.take index ++ [rules[index]] :=
          List.take_succ_eq_append_getElem hlt
        have hrest := ih (Nat.le_of_lt hlt) (by omega)
        have hline : exec line (.listAt (index + 1)) (some (rules.take (index + 1) ++
            (rules.drop (index + 1)).filter fun rule => !ownedLine (line rule))) =
            (some (line rules[index]), some (rules.take (index + 1) ++
              (rules.drop (index + 1)).filter fun rule => !ownedLine (line rule))) := by
          have hget : (rules.take (index + 1) ++ (rules.drop (index + 1)).filter
              fun rule => !ownedLine (line rule))[index]? = some rules[index] := by
            rw [List.getElem?_append_left (by simp; omega), List.getElem?_take_of_lt (by omega),
              List.getElem?_eq_getElem hlt]
          simp only [exec, Nat.add_sub_cancel, hget]
          rfl
        refine Ends.seq (ends_capture hline ?_)
        rw [hdrop] at hrest
        by_cases howned : ownedLine (line rules[index]) = true
        · rw [if_pos howned]
          rw [List.filter_cons_of_neg (by simp [howned])] at hrest
          refine ends_command () _ ?_ hrest
          have herase : (rules.take (index + 1) ++ (rules.drop (index + 1)).filter
              fun rule => !ownedLine (line rule)).eraseIdx index = rules.take index ++
              (rules.drop (index + 1)).filter fun rule => !ownedLine (line rule) := by
            rw [htake, List.append_assoc, List.eraseIdx_append_of_length_le
              (by rw [List.length_take]; exact Nat.min_le_left _ _)]
            simp [Nat.min_eq_left (Nat.le_of_lt hlt)]
          rw [exec, if_pos (by simp; omega), Nat.add_sub_cancel, herase]
        · rw [if_neg howned]
          rw [List.filter_cons_of_pos (by simp [howned])] at hrest
          refine .done ?_
          rw [htake, List.append_assoc]
          exact hrest

/-- The rules below the boundary lose those that are owned. -/
theorem removeOwnedRulesBelowBoundary_ends
    (hlisted : ∀ rule ∈ allowRule :: dropRule :: rules, Listed line rule) :
    Ends (Reliable line)
      (· = some (allowRule :: dropRule :: rules.filter fun rule => !ownedLine (line rule)))
      removeOwnedRulesBelowBoundary (some (allowRule :: dropRule :: rules)) := by
  refine ends_capture rfl ?_
  rw [ruleCount_list hlisted]
  have hends := removeOwnedRulesFrom_ends line (allowRule :: dropRule :: rules)
    (by omega : 1 ≤ 3) (Nat.le_refl _) (by simp)
  rw [List.take_length, List.drop_length, List.filter_nil, List.append_nil] at hends
  exact hends

/-! ### Legacy rules -/

theorem filter_ne_erase (rule : Rule) (l : List Rule) :
    (l.erase rule).filter (· ≠ rule) = l.filter (· ≠ rule) := by
  induction l with
  | nil => rfl
  | cons x l ih =>
      by_cases hx : x = rule
      · subst hx
        simp
      · rw [List.erase_cons_tail (by simpa using hx), List.filter_cons_of_pos (by simpa using hx),
          List.filter_cons_of_pos (by simpa using hx), ih]

/-- The loop that checks for a rule and deletes it takes out every copy. -/
theorem removeRule_ends {next : Script Command Output}
    (hnext : Ends (Reliable line) Q next (some (rules.filter (· ≠ rule)))) :
    Ends (Reliable line) Q (.whileOk (.check rule) (Script.command (.delete rule)) next)
      (some rules) := by
  refine Ends.whileOk (fun s => ∃ l, s = some l ∧ l.filter (· ≠ rule) = rules.filter (· ≠ rule))
    (fun s => (s.getD []).count rule) (fun s _ => ⟨_, _, rfl⟩) ?_ ?_ ⟨rules, rfl, rfl⟩
  · rintro _ s' ⟨l, rfl, hl⟩ hsem
    rw [Reliable, exec] at hsem
    split at hsem
    · cases hsem
    · next hmem =>
      cases hsem
      rw [List.filter_eq_self.mpr] at hl
      · rw [hl]
        exact hnext
      · intro x hx
        have hne : x ≠ rule := by
          rintro rfl
          exact hmem hx
        simpa using hne
  · rintro _ x s' ⟨l, rfl, hl⟩ hsem
    rw [Reliable, exec] at hsem
    split at hsem
    · next hmem =>
      cases hsem
      refine ends_command () _ (by rw [exec, if_pos hmem]) ⟨⟨_, rfl, ?_⟩, ?_⟩
      · rw [filter_ne_erase, hl]
      · rw [Option.getD_some, Option.getD_some, List.count_erase_self]
        exact Nat.sub_lt (List.count_pos_iff.mpr hmem) Nat.one_pos
    · cases hsem

theorem removeLegacyRules_ends : Ends (Reliable line)
    (· = some ((rules.filter (· ≠ legacyAllowRule)).filter (· ≠ legacyDropRule)))
    removeLegacyRules (some rules) :=
  removeRule_ends (removeRule_ends (.done rfl))

/-! ### Verification -/

theorem ownedRuleCount_list (hlisted : ∀ rule ∈ rules, Listed line rule) {comment : String}
    (hcomment : comment ∈ [allowComment, dropComment]) :
    ownedRuleCount comment ("-N DOCKER-USER" :: rules.map line) =
      rules.countP fun rule => rule.Carries comment := by
  have hheader : occurs (marker comment) "-N DOCKER-USER" = false := by
    rcases hcomment with _ | ⟨_, _ | ⟨_, ⟨⟩⟩⟩ <;> decide +kernel
  rw [ownedRuleCount, List.countP_cons_of_neg (by simp [hheader]), List.countP_map]
  refine List.countP_congr fun rule hrule => ?_
  simpa using (hlisted rule hrule).comment comment hcomment

/-- Each comment is carried by one of the two rules. -/
theorem countP_pair : ∀ comment ∈ [allowComment, dropComment],
    (allowRule :: dropRule :: rest).countP (fun rule => rule.Carries comment) =
      rest.countP (fun rule => rule.Carries comment) + 1 := by
  rintro comment (_ | ⟨_, _ | ⟨_, ⟨⟩⟩⟩)
  · rw [List.countP_cons_of_pos (by decide +kernel), List.countP_cons_of_neg (by decide +kernel)]
  · rw [List.countP_cons_of_neg (by decide +kernel), List.countP_cons_of_pos (by decide +kernel)]

/-- Each of the two rules is the only one with its comment. -/
theorem Verified.countP (h : Verified rules) : ∀ comment ∈ [allowComment, dropComment],
    rules.countP (fun rule => rule.Carries comment) = 1 := by
  obtain ⟨rest, rfl, hunowned⟩ := h
  intro comment hcomment
  rw [countP_pair comment hcomment, Nat.add_eq_right, List.countP_eq_zero]
  intro rule hrule
  rcases hcomment with _ | ⟨_, _ | ⟨_, ⟨⟩⟩⟩
  · simpa using fun h => hunowned rule hrule (.inl h)
  · simpa using fun h => hunowned rule hrule (.inr h)

theorem Verified.ends (h : Verified rules) (hlisted : ∀ rule ∈ rules, Listed line rule) :
    Ends (Reliable line) (· = some rules) verifyOwnedRules (some rules) := by
  have hcount := h.countP
  obtain ⟨rest, rfl, -⟩ := h
  have hallow := (hlisted allowRule (.head _)).comment allowComment (.head _)
  have hdrop := (hlisted dropRule (.tail _ (.head _))).comment dropComment (.tail _ (.head _))
  refine ends_capture (x := ()) (by rw [exec, if_pos (.head _)]) ?_
  refine ends_capture (x := ()) (by rw [exec, if_pos (.tail _ (.head _))]) ?_
  refine ends_capture rfl ?_
  rw [ownedRuleCount_list hlisted (.head _), hcount _ (.head _), if_neg (by decide +kernel)]
  refine ends_capture rfl ?_
  rw [ownedRuleCount_list hlisted (.tail _ (.head _)), hcount _ (.tail _ (.head _)),
    if_neg (by decide +kernel)]
  refine ends_capture (x := line allowRule) rfl (ends_capture (x := line dropRule) rfl ?_)
  rw [if_neg (not_not_intro (hallow.mpr (by decide +kernel))),
    if_neg (not_not_intro (hdrop.mpr (by decide +kernel)))]
  exact .done rfl

theorem eq_of_countP_eq_one {p : Rule → Bool} {x y : Rule} (hcount : rules.countP p = 1)
    (hx : x ∈ rules) (hpx : p x = true) (hy : y ∈ rules) (hpy : p y = true) : x = y := by
  rw [List.countP_eq_length_filter, List.length_eq_one_iff] at hcount
  obtain ⟨z, hz⟩ := hcount
  have hxz : x ∈ [z] := hz ▸ List.mem_filter.mpr ⟨hx, hpx⟩
  have hyz : y ∈ [z] := hz ▸ List.mem_filter.mpr ⟨hy, hpy⟩
  rw [List.mem_singleton.mp hxz, List.mem_singleton.mp hyz]

/-- A chain with one rule of each comment, the two rules of the boundary among them, has those two
at its top when its first two lines show their comments. -/
theorem verified_of_markers (hlisted : ∀ rule ∈ rules, Listed line rule)
    (hallow : allowRule ∈ rules) (hdrop : dropRule ∈ rules)
    (hcount : ∀ comment ∈ [allowComment, dropComment],
      rules.countP (fun rule => rule.Carries comment) = 1)
    (hfirst : occurs (marker allowComment) (((rules[0]?).map line).getD "") = true)
    (hsecond : occurs (marker dropComment) (((rules[1]?).map line).getD "") = true) :
    Verified rules := by
  have hunique : ∀ comment ∈ [allowComment, dropComment], ∀ x ∈ rules, ∀ y ∈ rules,
      x.Carries comment → y.Carries comment → x = y := fun comment hcomment x hx y hy hpx hpy =>
    eq_of_countP_eq_one (hcount comment hcomment) hx (by simpa using hpx) hy (by simpa using hpy)
  obtain _ | ⟨first, _ | ⟨second, rest⟩⟩ := rules
  · cases hallow
  · -- The two rules differ, so one rule cannot be both.
    obtain rfl := List.mem_singleton.mp hallow
    exact absurd (List.mem_singleton.mp hdrop) (by decide +kernel)
  have hsecondMem : second ∈ first :: second :: rest := .tail _ (.head _)
  obtain rfl : first = allowRule := hunique allowComment (.head _) _ (.head _) _ hallow
    (((hlisted _ (.head _)).comment _ (.head _)).mp hfirst) (by decide +kernel)
  obtain rfl : second = dropRule := hunique dropComment (.tail _ (.head _)) _ hsecondMem _ hdrop
    (((hlisted _ hsecondMem).comment _ (.tail _ (.head _))).mp hsecond) (by decide +kernel)
  have hrest : ∀ comment ∈ [allowComment, dropComment], ∀ rule ∈ rest,
      ¬rule.Carries comment := by
    intro comment hcomment rule hrule
    have hone := hcount comment hcomment
    rw [countP_pair comment hcomment, Nat.add_eq_right, List.countP_eq_zero] at hone
    simpa using hone rule hrule
  exact ⟨rest, rfl, fun rule hrule => not_or.mpr ⟨hrest allowComment (.head _) rule hrule,
    hrest dropComment (.tail _ (.head _)) rule hrule⟩⟩

theorem verified_of_ends (hlisted : ∀ rule ∈ rules, Listed line rule)
    (h : Ends (Reliable line) Q verifyOwnedRules (some rules)) : Verified rules := by
  have hcheck : ∀ {rule : Rule} {x : Unit} {s' : Chain},
      exec line (.check rule) (some rules) = (some x, s') → rule ∈ rules ∧ s' = some rules := by
    intro rule x s' hexec
    rw [exec] at hexec
    split at hexec
    · next hmem => exact ⟨hmem, (Prod.mk.inj hexec).2.symm⟩
    · cases hexec
  obtain ⟨_, s₁, hexec, h⟩ := exists_of_ends_capture h
  obtain ⟨hallow, rfl⟩ := hcheck hexec
  obtain ⟨_, s₂, hexec, h⟩ := exists_of_ends_capture h
  obtain ⟨hdrop, rfl⟩ := hcheck hexec
  obtain ⟨_, _, ⟨⟩, h⟩ := exists_of_ends_capture h
  obtain ⟨hallowCount, h⟩ := h.of_ite_exit
  obtain ⟨_, _, ⟨⟩, h⟩ := exists_of_ends_capture h
  obtain ⟨hdropCount, h⟩ := h.of_ite_exit
  obtain ⟨_, _, ⟨⟩, h⟩ := exists_of_ends_capture h
  obtain ⟨_, _, ⟨⟩, h⟩ := exists_of_ends_capture h
  obtain ⟨hfirst, h⟩ := h.of_ite_exit
  obtain ⟨hsecond, -⟩ := h.of_ite_exit
  rw [not_not, ownedRuleCount_list hlisted (.head _)] at hallowCount
  rw [not_not, ownedRuleCount_list hlisted (.tail _ (.head _))] at hdropCount
  refine verified_of_markers hlisted hallow hdrop ?_ (not_not.mp hfirst) (not_not.mp hsecond)
  rintro comment (_ | ⟨_, _ | ⟨_, ⟨⟩⟩⟩)
  · exact hallowCount
  · exact hdropCount

theorem verifyOwnedRules_ends_iff {s : Chain} (hlisted : ∀ rule ∈ s.getD [], Listed line rule) :
    Ends (Reliable line) (· = s) verifyOwnedRules s ↔ ∃ rules, s = some rules ∧ Verified rules := by
  cases s with
  | none =>
      refine ⟨fun h => ?_, ?_⟩
      · obtain ⟨_, _, ⟨⟩, _⟩ := exists_of_ends_capture h
      · rintro ⟨_, ⟨⟩, _⟩
  | some rules =>
      refine ⟨fun h => ⟨rules, rfl, verified_of_ends hlisted h⟩, ?_⟩
      rintro ⟨_, ⟨⟩, h⟩
      exact h.ends hlisted

/-! ### The whole script -/

/-- What is left below the boundary is what belongs to others. -/
theorem filter_owned_legacy (hlisted : ∀ rule ∈ rules, Listed line rule) :
    ((allowRule :: dropRule :: rules.filter fun rule => !ownedLine (line rule)).filter
      (· ≠ legacyAllowRule)).filter (· ≠ legacyDropRule) = applied rules := by
  have hrest : ((rules.filter fun rule => !ownedLine (line rule)).filter
      (· ≠ legacyAllowRule)).filter (· ≠ legacyDropRule) = rules.filter Rule.IsForeign := by
    rw [List.filter_filter, List.filter_filter]
    refine List.filter_congr fun rule hrule => ?_
    have howned := (hlisted rule hrule).owned
    rw [Bool.eq_iff_iff]
    simp only [Bool.and_eq_true, Bool.not_eq_true', decide_eq_true_eq, Rule.IsForeign, ← howned,
      Bool.not_eq_true]
    tauto
  rw [applied, ← hrest]
  rw [List.filter_cons_of_pos (by decide +kernel), List.filter_cons_of_pos (by decide +kernel),
    List.filter_cons_of_pos (by decide +kernel), List.filter_cons_of_pos (by decide +kernel)]

theorem listed_applied (hlisted : ∀ rule ∈ allowRule :: dropRule :: rules, Listed line rule) :
    ∀ rule ∈ applied rules, Listed line rule := by
  intro rule hrule
  rcases hrule with _ | ⟨_, _ | ⟨_, hrule⟩⟩
  · exact hlisted allowRule (.head _)
  · exact hlisted dropRule (.tail _ (.head _))
  · exact hlisted rule (.tail _ (.tail _ (List.mem_filter.mp hrule).1))

theorem applied_verified (rules : List Rule) : Verified (applied rules) := by
  refine ⟨_, rfl, fun rule hrule => ?_⟩
  have hforeign : rule.IsForeign := by simpa using (List.mem_filter.mp hrule).2
  exact hforeign.1

/-- What follows once there is a chain. -/
theorem install_ends {line : Rule → String} (rules : List Rule)
    (hlisted : ∀ rule ∈ allowRule :: dropRule :: rules, Listed line rule) :
    Ends (Reliable line) (· = some (applied rules))
      ((Script.command (.insert 1 dropRule)).seq <| (Script.command (.insert 1 allowRule)).seq <|
        removeOwnedRulesBelowBoundary.seq <| removeLegacyRules.seq verifyOwnedRules)
      (some rules) := by
  have hrules : ∀ rule ∈ rules, Listed line rule := fun rule hrule =>
    hlisted rule (.tail _ (.tail _ hrule))
  refine Ends.seq (ends_command () (some (dropRule :: rules)) rfl ?_)
  refine Ends.seq (ends_command () (some (allowRule :: dropRule :: rules)) rfl ?_)
  refine Ends.seq ((removeOwnedRulesBelowBoundary_ends hlisted).mono ?_)
  rintro _ rfl
  refine Ends.seq (removeLegacyRules_ends.mono ?_)
  rintro _ rfl
  rw [filter_owned_legacy hrules]
  exact (applied_verified rules).ends (listed_applied hlisted)

/-- An absent chain is created first. -/
theorem applyMode_ends {line : Rule → String} (s : Chain)
    (hlisted : ∀ rule ∈ allowRule :: dropRule :: s.getD [], Listed line rule) :
    Ends (Reliable line) (· = some (applied (s.getD []))) applyMode s := by
  cases s with
  | none =>
      refine Ends.seq (Ends.run ⟨_, _, rfl⟩ ?_)
      rintro _ _ ⟨⟩
      exact ends_command () (some []) rfl (install_ends [] hlisted)
  | some rules =>
      refine Ends.seq (Ends.run ⟨_, _, rfl⟩ ?_)
      rintro _ _ ⟨⟩
      exact .done (install_ends rules hlisted)

theorem applied_applied (rules : List Rule) : applied (applied rules) = applied rules := by
  rw [applied, applied, List.filter_cons_of_neg (by decide +kernel),
    List.filter_cons_of_neg (by decide +kernel),
    List.filter_filter]
  simp

/-- **Applying the boundary converges and touches only its own rules.** For every chain, the script
ends without an error, with its allow rule, its drop rule and, in their order, the rules that carry
neither comment and are neither legacy rule; the verification accepts that chain, and applying the
boundary again leaves it as it is. An absent chain becomes the two rules, and of all chains the
verification accepts those alone that have the boundary at the top and no other rule with one of
its comments. -/
theorem apply_converges (hlisted : ∀ rule ∈ allowRule :: dropRule :: rules, Listed line rule) :
    Ends (Reliable line) (· = some (applied rules)) applyMode (some rules) ∧
      Ends (Reliable line) (· = some (applied rules)) verifyOwnedRules (some (applied rules)) ∧
      Ends (Reliable line) (· = some (applied rules)) applyMode (some (applied rules)) ∧
      Ends (Reliable line) (· = some [allowRule, dropRule]) applyMode none ∧
      ∀ s : Chain, (∀ rule ∈ s.getD [], Listed line rule) →
        (Ends (Reliable line) (· = s) verifyOwnedRules s ↔
          ∃ chain, s = some chain ∧ Verified chain) := by
  refine ⟨applyMode_ends (some rules) hlisted,
    (applied_verified rules).ends (listed_applied hlisted), ?_, ?_, fun s hs =>
      verifyOwnedRules_ends_iff hs⟩
  · have hagain := applyMode_ends (some (applied rules)) fun rule hrule => by
      rcases hrule with _ | ⟨_, _ | ⟨_, hrule⟩⟩
      · exact hlisted allowRule (.head _)
      · exact hlisted dropRule (.tail _ (.head _))
      · exact listed_applied hlisted rule hrule
    rwa [Option.getD_some, applied_applied] at hagain
  · refine applyMode_ends none fun rule hrule => ?_
    rcases hrule with _ | ⟨_, _ | ⟨_, ⟨⟩⟩⟩
    · exact hlisted allowRule (.head _)
    · exact hlisted dropRule (.tail _ (.head _))

/-- What Docker itself puts into the chain. -/
def returnRule : Rule := ⟨[], .other "RETURN"⟩

/-- How `iptables -S` prints the rules below. -/
def printed (rule : Rule) : String :=
  if rule = allowRule then
    "-A DOCKER-USER -s 192.168.56.61/32 -i enp0s8 -p tcp -m conntrack --ctorigdst 192.168.56.63 " ++
      "--ctorigdstport 8091 -m comment --comment \"alert2ir:splunk-adapter:allow\" -j ACCEPT"
  else if rule = dropRule then
    "-A DOCKER-USER -i enp0s8 -p tcp -m conntrack --ctorigdst 192.168.56.63 --ctorigdstport 8091 " ++
      "-m comment --comment \"alert2ir:splunk-adapter:drop\" -j DROP"
  else if rule = legacyDropRule then
    "-A DOCKER-USER -i enp0s8 -p tcp -m conntrack --ctorigdst 192.168.56.63 --ctorigdstport 8091 " ++
      "-j DROP"
  else "-A DOCKER-USER -j RETURN"

theorem apply_converges_migration :
    Ends (Reliable printed) (· = some [allowRule, dropRule, returnRule]) applyMode
      (some [legacyDropRule, returnRule]) := by
  have happlied : applied [legacyDropRule, returnRule] =
      [allowRule, dropRule, returnRule] := by decide +kernel
  have hlisted : ∀ rule ∈ [allowRule, dropRule, legacyDropRule, returnRule],
      firstField (printed rule) = "-A".toList ∧ ∀ comment ∈ [allowComment, dropComment],
        occurs (marker comment) (printed rule) = true ↔ rule.Carries comment := by
    decide +kernel
  rw [← happlied]
  refine (apply_converges fun rule hrule => ?_).1
  obtain ⟨happended, hcomment⟩ := hlisted rule hrule
  exact ⟨happended, hcomment⟩

/-! ### Every prefix of a run -/

/-- A packet that arrives for the port of the adapter. -/
structure ToAdapter (packet : Packet) : Prop where
  inInterface : packet.inInterface = hostOnlyInterface
  protocol : packet.protocol = "tcp"
  original : packet.original = some (adapterHostIpv4, adapterPort)

/-- Nobody but the Splunk host gets through to the adapter. -/
def Closed (foreign : Foreign) (rules : List Rule) : Prop :=
  ∀ packet, ToAdapter packet → packet.source ≠ splunkIpv4 →
    evaluate foreign packet rules = some .drop

section Packets

variable {foreign : Foreign} {packet : Packet}

theorem allowRule_applies (hto : ToAdapter packet) :
    allowRule.applies foreign packet = decide (packet.source = splunkIpv4) := by
  simp [Rule.applies, allowRule, allowMatch, Match.holds, hto.inInterface, hto.protocol,
    hto.original]

theorem dropRule_applies (hto : ToAdapter packet) : dropRule.applies foreign packet = true := by
  simp [Rule.applies, dropRule, dropMatch, Match.holds, hto.inInterface, hto.protocol,
    hto.original]

theorem closed_of_drop : Closed foreign (dropRule :: rest) := fun _ hto _ =>
  evaluate_of_drop (dropRule_applies hto) rfl

theorem closed_of_pair : Closed foreign (allowRule :: dropRule :: rest) := by
  intro packet hto hsource
  rw [evaluate_of_not_applies (by rw [allowRule_applies hto]; simpa using hsource)]
  exact closed_of_drop packet hto hsource

theorem accepted_of_pair (hto : ToAdapter packet) (hsource : packet.source = splunkIpv4) :
    evaluate foreign packet (allowRule :: dropRule :: rest) = some .accept :=
  evaluate_of_accept (by rw [allowRule_applies hto]; simpa using hsource) rfl

end Packets

/-- A command that leaves the two rules at the top alone. -/
def Below : Command → Prop
  | .newChain | .insert .. => False
  | .deleteAt rulenum => 3 ≤ rulenum
  | .delete rule => rule ≠ allowRule ∧ rule ≠ dropRule
  | .check _ | .list | .listAt _ => True

/-- The boundary is at the top of the chain. -/
def Topped (s : Chain) : Prop := ∃ rest, s = some (allowRule :: dropRule :: rest)

theorem Topped.step {c : Command} {r : Option (Output c)} (hc : Below c) (h : Topped s)
    (hstep : Unreliable line s c r s') : Topped s' := by
  obtain ⟨rest, rfl⟩ := h
  rcases hstep with hexec | ⟨-, rfl⟩
  · cases c with
    | newChain => cases hc
    | insert => cases hc
    | deleteAt rulenum =>
        obtain ⟨index, rfl⟩ : ∃ index, rulenum = index + 3 := ⟨rulenum - 3, by
          have hge : 3 ≤ rulenum := hc
          omega⟩
        rw [Reliable, exec] at hexec
        split at hexec
        · cases hexec
          exact ⟨rest.eraseIdx index, rfl⟩
        · cases hexec
          exact ⟨rest, rfl⟩
    | delete rule =>
        rw [Reliable, exec] at hexec
        split at hexec
        · cases hexec
          refine ⟨rest.erase rule, ?_⟩
          rw [List.erase_cons_tail (by simpa using Ne.symm hc.1),
            List.erase_cons_tail (by simpa using Ne.symm hc.2)]
        · cases hexec
          exact ⟨rest, rfl⟩
    | check rule =>
        rw [Reliable, exec] at hexec
        split at hexec <;> cases hexec <;> exact ⟨rest, rfl⟩
    | list =>
        cases hexec
        exact ⟨rest, rfl⟩
    | listAt =>
        cases hexec
        exact ⟨rest, rfl⟩
  · exact ⟨rest, rfl⟩

theorem removeOwnedRulesFrom_below (index : Nat) : (removeOwnedRulesFrom 3 index).Only Below := by
  induction index with
  | zero => trivial
  | succ index ih =>
      rw [removeOwnedRulesFrom]
      split
      · trivial
      · next hge =>
        refine Only.seq (Only.capture trivial fun text => ?_) ih
        split
        · exact Only.command (by simpa [Below] using hge)
        · trivial

theorem removeLegacyRules_below : removeLegacyRules.Only Below :=
  ⟨trivial, Only.command ⟨by decide +kernel, by decide +kernel⟩, trivial,
    Only.command ⟨by decide +kernel, by decide +kernel⟩, trivial⟩

theorem verifyOwnedRules_below : verifyOwnedRules.Only Below := by
  refine Only.capture trivial fun _ => Only.capture trivial fun _ => Only.capture trivial
    fun lines => ?_
  split
  · trivial
  refine Only.capture trivial fun lines => ?_
  split
  · trivial
  refine Only.capture trivial fun first => Only.capture trivial fun second => ?_
  split
  · trivial
  split <;> trivial

/-- What follows the two insertions leaves them alone. -/
theorem migration_below :
    (removeOwnedRulesBelowBoundary.seq (removeLegacyRules.seq verifyOwnedRules)).Only Below :=
  Only.seq (Only.capture trivial fun _ => removeOwnedRulesFrom_below _)
    (Only.seq removeLegacyRules_below verifyOwnedRules_below)

/-- How far a run has come by its chain: nothing inserted, the drop rule alone, or both rules. -/
inductive Stage (rules : List Rule) (trace : List (Event Command Output)) :
    Script Command Output → Chain → Prop
  | untouched {p : Script Command Output} (hunfinished : p ≠ .done)
      (hnone : ⟨.insert 1 dropRule, some ()⟩ ∉ trace) : Stage rules trace p (some rules)
  | dropping {p : Script Command Output} (hunfinished : p ≠ .done) :
      Stage rules trace p (some (dropRule :: rules))
  | topped {p : Script Command Output} {s : Chain} (htopped : Topped s) : Stage rules trace p s

/-- The two insertions, and what follows. -/
theorem install_stage {trace : List (Event Command Output)} {p : Script Command Output}
    (hruns : Runs (Unreliable line) ((Script.command (.insert 1 dropRule)).seq <|
      (Script.command (.insert 1 allowRule)).seq <|
      removeOwnedRulesBelowBoundary.seq (removeLegacyRules.seq verifyOwnedRules))
      (some rules) trace p s') : Stage rules trace p s' := by
  rcases hruns.command_seq_cases with ⟨rfl, rfl, rfl⟩ | ⟨rfl, rfl, hstep⟩ |
    ⟨_, s₁, trace, rfl, hstep, hruns⟩
  · exact .untouched nofun nofun
  · have hsame : s' = some rules := by
      rcases hstep with hexec | ⟨-, hsame⟩
      · cases hexec
      · exact hsame
    subst hsame
    exact .untouched nofun (by simp)
  have hdrop : s₁ = some (dropRule :: rules) := by
    rcases hstep with hexec | ⟨hnone, -⟩
    · cases hexec
      rfl
    · cases hnone
  subst hdrop
  rcases hruns.command_seq_cases with ⟨rfl, rfl, rfl⟩ | ⟨rfl, rfl, hstep⟩ |
    ⟨_, s₂, trace, rfl, hstep, hruns⟩
  · exact .dropping nofun
  · have hsame : s' = some (dropRule :: rules) := by
      rcases hstep with hexec | ⟨-, hsame⟩
      · cases hexec
      · exact hsame
    subst hsame
    exact .dropping nofun
  have hallow : s₂ = some (allowRule :: dropRule :: rules) := by
    rcases hstep with hexec | ⟨hnone, -⟩
    · cases hexec
      rfl
    · cases hnone
  subst hallow
  exact .topped (hruns.invariant migration_below (fun _ _ _ _ hc htopped hstep =>
    htopped.step hc hstep) ⟨rules, rfl⟩)

theorem applyMode_stage {trace : List (Event Command Output)} {p : Script Command Output}
    (hruns : Runs (Unreliable line) applyMode (some rules) trace p s') :
      Stage rules trace p s' := by
  have hsame : ∀ {c : Command} {r : Option (Output c)} {s₁ : Chain},
      (exec line c (some rules)).2 = some rules → Unreliable line (some rules) c r s₁ →
        s₁ = some rules := by
    rintro c r s₁ hkeeps (hexec | ⟨-, rfl⟩)
    · rw [← hkeeps, show exec line c (some rules) = (r, s₁) from hexec]
    · rfl
  rcases hruns.run_cases with ⟨rfl, rfl, rfl⟩ | ⟨r, s₁, trace, rfl, hstep, hruns⟩
  · exact .untouched nofun nofun
  obtain rfl := hsame rfl hstep
  cases r with
  | some lines =>
      cases install_stage hruns with
      | untouched hunfinished hnone => exact .untouched hunfinished (by simpa using hnone)
      | dropping hunfinished => exact .dropping hunfinished
      | topped htopped => exact .topped htopped
  | none =>
      -- There is a chain, so there is nothing to create.
      rcases hruns.command_seq_cases with ⟨rfl, rfl, rfl⟩ | ⟨rfl, rfl, hstep⟩ |
        ⟨_, s₂, trace, rfl, hstep, -⟩
      · exact .untouched nofun (by simp)
      · obtain rfl := hsame rfl hstep
        exact .untouched nofun (by simp)
      · rcases hstep with hexec | ⟨hnone, -⟩
        · cases hexec
        · cases hnone

/-- **The adapter boundary stays closed during apply.** For every chain and every run of the script,
whichever of its commands fail and wherever it is killed: from the first insertion on, a TCP packet
for the adapter port from any other host than Splunk's is dropped; it is dropped throughout if the
chain began with the boundary; and after completion the packets of the Splunk host are accepted. -/
theorem boundary_stays_closed (line : Rule → String) (foreign : Foreign) (rules : List Rule)
    (trace : List (Event Command Output)) (p : Script Command Output) (s' : Chain)
    (hruns : Runs (Unreliable line) applyMode (some rules) trace p s') :
    ∃ rules', s' = some rules' ∧
      (⟨.insert 1 dropRule, some ()⟩ ∈ trace → Closed foreign rules') ∧
      (∀ rest, rules = allowRule :: dropRule :: rest → Closed foreign rules') ∧
      (p = .done → ∀ packet, ToAdapter packet → packet.source = splunkIpv4 →
        evaluate foreign packet rules' = some .accept) := by
  cases applyMode_stage hruns with
  | untouched hunfinished hnone =>
      refine ⟨rules, rfl, fun h => absurd h hnone, ?_, fun h => absurd h hunfinished⟩
      rintro rest rfl
      exact closed_of_pair
  | dropping hunfinished =>
      exact ⟨_, rfl, fun _ => closed_of_drop, fun _ _ => closed_of_drop,
        fun h => absurd h hunfinished⟩
  | topped htopped =>
      obtain ⟨rest, rfl⟩ := htopped
      exact ⟨_, rfl, fun _ => closed_of_pair, fun _ _ => closed_of_pair,
        fun _ _ hto hsource => accepted_of_pair hto hsource⟩

/-- Killed right after the first insertion into a chain that lets everything through. -/
theorem boundary_stays_closed_killed :
    Closed ⟨fun _ _ => true, fun _ _ => some (some .accept)⟩ [dropRule, ⟨[], .accept⟩] := by
  obtain ⟨rules', hrules', hclosed, -⟩ :=
    boundary_stays_closed (fun _ => "-A DOCKER-USER -j ACCEPT")
    ⟨fun _ _ => true, fun _ _ => some (some .accept)⟩ [⟨[], .accept⟩] _ _ _
    (.step (.run (.inl rfl)) (.step (.run (.inl rfl)) (.refl _ _)))
  cases hrules'
  exact hclosed (.tail _ (.head _))

end Firewall
