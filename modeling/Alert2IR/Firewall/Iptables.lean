import Mathlib.Data.List.Basic
import Alert2IR.Shell.Script

/-!
# One chain of iptables

A chain is a list of rules. Its commands are the ones the firewall script runs, and a packet is
judged by the first rule that applies to it and ends its way through the chain. What a rule of
someone else matches or does beyond that is left to `Foreign`.
-/

namespace Firewall

/-- An IPv4 address. -/
def ipv4 (a b c d : Nat) : BitVec 32 := .ofNat 32 (((a * 256 + b) * 256 + c) * 256 + d)

/-- What a rule may ask of a packet. -/
inductive Match
  | inInterface (name : String)
  | source (address : BitVec 32) (prefixLength : Nat)
  | protocol (name : String)
  | conntrack (ctorigdst : BitVec 32) (ctorigdstport : Nat)
  | comment (text : String)
  | other (text : String)
deriving DecidableEq

inductive Target
  | accept
  | drop
  | other (name : String)
deriving DecidableEq

structure Rule where
  specification : List Match
  target : Target
deriving DecidableEq

/-- Whether a rule carries a comment. -/
def Rule.Carries (rule : Rule) (comment : String) : Prop := .comment comment ∈ rule.specification

instance (rule : Rule) (comment : String) : Decidable (rule.Carries comment) :=
  inferInstanceAs (Decidable (_ ∈ _))

/-! ### Packets -/

/-- A packet at the chain, with the destination it had when its connection came in. -/
structure Packet where
  inInterface : String
  protocol : String
  source : BitVec 32
  original : Option (BitVec 32 × Nat)

inductive Verdict
  | accept
  | drop
deriving DecidableEq

/-- How the matches and targets of others work. Such a target either lets the next rule of the chain
have its say, or ends the way through the chain, with a verdict or with a return to the caller. -/
structure Foreign where
  holds : String → Packet → Bool
  target : String → Packet → Option (Option Verdict)

def Match.holds (foreign : Foreign) (packet : Packet) : Match → Bool
  | .inInterface name => packet.inInterface = name
  | .source address prefixLength =>
      packet.source >>> (32 - prefixLength) = address >>> (32 - prefixLength)
  | .protocol name => packet.protocol = name
  | .conntrack ctorigdst ctorigdstport => packet.original = some (ctorigdst, ctorigdstport)
  | .comment _ => true
  | .other text => foreign.holds text packet

def Rule.applies (foreign : Foreign) (packet : Packet) (rule : Rule) : Bool :=
  rule.specification.all (Match.holds foreign packet)

/-- First-match evaluation. A packet that no rule stops goes back to the chain it came from. -/
def evaluate (foreign : Foreign) (packet : Packet) : List Rule → Option Verdict
  | [] => none
  | rule :: rest =>
      if rule.applies foreign packet then
        match rule.target with
        | .accept => some .accept
        | .drop => some .drop
        | .other name => (foreign.target name packet).getD (evaluate foreign packet rest)
      else evaluate foreign packet rest

section Evaluate

variable {foreign : Foreign} {packet : Packet} {rule : Rule} {rest : List Rule}

theorem evaluate_of_not_applies (h : rule.applies foreign packet = false) :
    evaluate foreign packet (rule :: rest) = evaluate foreign packet rest := by
  rw [evaluate, h]
  rfl

theorem evaluate_of_accept (h : rule.applies foreign packet = true)
    (htarget : rule.target = .accept) : evaluate foreign packet (rule :: rest) = some .accept := by
  rw [evaluate, if_pos h, htarget]

theorem evaluate_of_drop (h : rule.applies foreign packet = true)
    (htarget : rule.target = .drop) : evaluate foreign packet (rule :: rest) = some .drop := by
  rw [evaluate, if_pos h, htarget]

end Evaluate

/-! ### Commands -/

/-- `iptables -N`, `-I`, `-D` by index and by specification, `-C`, and `-S` of the chain and of one
of its rules. -/
inductive Command
  | newChain
  | insert (rulenum : Nat) (rule : Rule)
  | deleteAt (rulenum : Nat)
  | delete (rule : Rule)
  | check (rule : Rule)
  | list
  | listAt (rulenum : Nat)

/-- What a command prints that the script reads. -/
def Output : Command → Type
  | .list => List String
  | .listAt _ => String
  | _ => Unit

/-- The chain, or `none` while there is no such chain. -/
abbrev Chain := Option (List Rule)

/-- What a command does, where `line` is how `-S` prints a rule. -/
def exec (line : Rule → String) : (c : Command) → Chain → Option (Output c) × Chain
  | .newChain, none => (some (), some [])
  | .newChain, some rules => (none, some rules)
  | .insert rulenum rule, some rules =>
      if 1 ≤ rulenum ∧ rulenum ≤ rules.length + 1 then
        (some (), some (rules.insertIdx (rulenum - 1) rule))
      else (none, some rules)
  | .deleteAt rulenum, some rules =>
      if 1 ≤ rulenum ∧ rulenum ≤ rules.length then (some (), some (rules.eraseIdx (rulenum - 1)))
      else (none, some rules)
  | .delete rule, some rules =>
      if rule ∈ rules then (some (), some (rules.erase rule)) else (none, some rules)
  | .check rule, some rules => if rule ∈ rules then (some (), some rules) else (none, some rules)
  | .list, some rules => (some ("-N DOCKER-USER" :: rules.map line), some rules)
  | .listAt rulenum, some rules => (some (((rules[rulenum - 1]?).map line).getD ""), some rules)
  | .insert .., none | .deleteAt _, none | .delete _, none | .check _, none | .list, none
  | .listAt _, none => (none, none)

/-- Every command does what it is for. -/
def Reliable (line : Rule → String) (s : Chain) (c : Command) (r : Option (Output c)) (s' : Chain) :
    Prop :=
  exec line c s = (r, s')

/-- Any command may also fail, and then leaves the chain as it was. -/
def Unreliable (line : Rule → String) (s : Chain) (c : Command) (r : Option (Output c))
    (s' : Chain) : Prop :=
  Reliable line s c r s' ∨ (r = none ∧ s' = s)

end Firewall
