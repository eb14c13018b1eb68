import Mathlib.Data.List.Infix
import Alert2IR.Firewall.Iptables

/-!
# The firewall boundary of the Splunk adapter

`apply_mode` of `alert2ir-splunk-adapter-firewall.sh` with the functions it calls. What `awk` and
`[[ ]]` make of the output of `iptables -S` is computed from its text.
-/

namespace Firewall

open Shell (Script)

def hostOnlyInterface : String := "enp0s8"

def adapterHostIpv4 : BitVec 32 := ipv4 192 168 56 63

def splunkIpv4 : BitVec 32 := ipv4 192 168 56 61

def adapterPort : Nat := 8091

def allowComment : String := "alert2ir:splunk-adapter:allow"

def dropComment : String := "alert2ir:splunk-adapter:drop"

def allowMatch : List Match :=
  [.inInterface hostOnlyInterface, .source splunkIpv4 32, .protocol "tcp",
    .conntrack adapterHostIpv4 adapterPort]

def dropMatch : List Match :=
  [.inInterface hostOnlyInterface, .protocol "tcp", .conntrack adapterHostIpv4 adapterPort]

def allowRule : Rule := ⟨allowMatch ++ [.comment allowComment], .accept⟩

def dropRule : Rule := ⟨dropMatch ++ [.comment dropComment], .drop⟩

def legacyAllowRule : Rule := ⟨allowMatch, .accept⟩

def legacyDropRule : Rule := ⟨dropMatch, .drop⟩

/-! ### What the script reads off a listing -/

/-- `--comment "…"`. -/
def marker (comment : String) : String := "--comment \"" ++ comment ++ "\""

/-- `"${line}" == *"…"*`, and `index($0, …)` of `awk`. -/
def occurs (text line : String) : Bool := decide (text.toList <:+: line.toList)

/-- `$1` of `awk`. -/
def firstField (line : String) : List Char :=
  (line.toList.dropWhile (fun c => c = ' ' ∨ c = '\t')).takeWhile (fun c => ¬ (c = ' ' ∨ c = '\t'))

/-- `awk '$1 == "-A" { count++ }'`. -/
def ruleCount (lines : List String) : Nat := lines.countP fun line => firstField line = "-A".toList

/-- The count of `owned_rule_count`. -/
def ownedRuleCount (comment : String) (lines : List String) : Nat :=
  lines.countP (occurs (marker comment))

/-- Whether a line shows one of the two ownership comments. -/
def ownedLine (line : String) : Bool :=
  occurs (marker allowComment) line || occurs (marker dropComment) line

example : ownedLine "-A DOCKER-USER -m comment --comment \"alert2ir:other\" -j DROP" = false ∧
    ownedLine "-A DOCKER-USER -m comment --comment \"alert2ir:splunk-adapter:drop\" -j DROP" =
      true := by
  decide +kernel

/-! ### The script -/

/-- `ensure_docker_user_chain`. -/
def ensureDockerUserChain : Script Command Output :=
  .run .list fun
    | some _ => .done
    | none => .command .newChain

/-- `for ((index = total; index >= first; index--))` over the owned rules, `index` still to come. -/
def removeOwnedRulesFrom (first : Nat) : Nat → Script Command Output
  | 0 => .done
  | index + 1 =>
      if index + 1 < first then .done
      else
        Script.seq
          (.capture (.listAt (index + 1)) fun line =>
            if ownedLine line then .command (.deleteAt (index + 1)) else .done)
          (removeOwnedRulesFrom first index)

/-- `remove_owned_rules_below_boundary`. -/
def removeOwnedRulesBelowBoundary : Script Command Output :=
  .capture .list fun (lines : List String) => removeOwnedRulesFrom 3 (ruleCount lines)

/-- `remove_legacy_rules`. -/
def removeLegacyRules : Script Command Output :=
  .whileOk (.check legacyAllowRule) (.command (.delete legacyAllowRule))
    (.whileOk (.check legacyDropRule) (.command (.delete legacyDropRule)) .done)

/-- `verify_owned_rules`. -/
def verifyOwnedRules : Script Command Output :=
  .capture (.check allowRule) fun _ => .capture (.check dropRule) fun _ =>
    .capture .list fun (lines : List String) =>
      if ownedRuleCount allowComment lines ≠ 1 then .exit
      else
        .capture .list fun (lines : List String) =>
          if ownedRuleCount dropComment lines ≠ 1 then .exit
          else
            .capture (.listAt 1) fun first => .capture (.listAt 2) fun second =>
              if ¬ occurs (marker allowComment) first then .exit
              else if ¬ occurs (marker dropComment) second then .exit
              else .done

/-- `apply_mode`. -/
def applyMode : Script Command Output :=
  ensureDockerUserChain.seq <|
  (Script.command (.insert 1 dropRule)).seq <|
  (Script.command (.insert 1 allowRule)).seq <|
  removeOwnedRulesBelowBoundary.seq <|
  removeLegacyRules.seq verifyOwnedRules

end Firewall
