import GostManager.Effects.Program
import GostManager.Lists.Marked

/-!
# Firewall: the INPUT chain

The rules that `gost-manager.sh` puts into the INPUT chain for a Kharej profile, and the `iptables`
commands it uses. A rule is the list of its arguments, without the `-A INPUT` that `iptables -S` prints
before them; the policy line of the chain is left out, every reader skips it.
-/

namespace Firewall

open Effects

/-- The arguments of a rule. -/
abbrev Rule : Type := List String

/-- The INPUT chain. -/
abbrev Chain : Type := List Rule

/-! ## The rules of a profile -/

/-- The comment of the allow rules of a profile. -/
def allowComment (number : Nat) : String := "gost-manager:kharej-" ++ toString number ++ ":allow"

/-- The comment of its drop rule. -/
def dropComment (number : Nat) : String := "gost-manager:kharej-" ++ toString number ++ ":drop"

/-- `rule_comment`: what follows the first `--comment`. -/
def ruleComment (rule : Rule) : Option String :=
  match rule.dropWhile (· != "--comment") with
  | _ :: comment :: _ => some comment
  | _ => none

/-- `is_managed`. -/
def isManaged (number : Nat) (rule : Rule) : Bool :=
  ruleComment rule == some (allowComment number) || ruleComment rule == some (dropComment number)

/-- `managed_positions`. -/
def managedPositions (number : Nat) (chain : Chain) : List (Nat × Rule) :=
  Lists.marked (isManaged number) 1 chain

/-- The rules that are not managed for a profile. -/
def unmanaged (number : Nat) (chain : Chain) : Chain := Lists.unmarked (isManaged number) chain

/-- The rule that lets a source through. -/
def allowRule (number : Nat) (port source : String) : Rule :=
  ["-p", "tcp", "-s", source, "--dport", port, "-m", "comment", "--comment", allowComment number,
    "-j", "ACCEPT"]

/-- The rule that drops everything else for a port. -/
def dropRule (number : Nat) (port : String) : Rule :=
  ["-p", "tcp", "--dport", port, "-m", "comment", "--comment", dropComment number, "-j", "DROP"]

/-- The firewall that is wanted for a profile. The validation of ports and sources lets numbers and
addresses through, and no option of `iptables`. -/
structure Request where
  number : Nat
  port : String
  sources : List String
  enabled : Bool
  port_ne : port ≠ "--comment"
  sources_ne : ∀ source ∈ sources, source ≠ "--comment"

/-- `candidate_rules`. -/
def Request.candidate (r : Request) : List Rule :=
  if r.enabled then r.sources.map (allowRule r.number r.port) ++ [dropRule r.number r.port] else []

/-! ## Commands -/

/-- The `iptables` commands. -/
inductive Op where
  /-- `-S INPUT`. -/
  | list
  /-- `-I INPUT position rule`. -/
  | insert (position : Nat) (rule : Rule)
  /-- `-D INPUT position`. -/
  | deletePosition (position : Nat)
  /-- `-D INPUT rule`. -/
  | deleteRule (rule : Rule)

/-- The answers: the rules that are listed, or whether the command succeeded. -/
@[reducible] def Ans : Op → Type
  | .list => Option Chain
  | _ => Bool

/-- How the chain answers. Any command may fail, and then it changes nothing. -/
def answers (chain : Chain) : (op : Op) → Ans op → Chain → Prop
  | .list, none, chain' => chain' = chain
  | .list, some rules, chain' => rules = chain ∧ chain' = chain
  | .insert position rule, true, chain' =>
    1 ≤ position ∧ position ≤ chain.length + 1 ∧ chain' = chain.insertIdx (position - 1) rule
  | .insert _ _, false, chain' => chain' = chain
  | .deletePosition position, true, chain' =>
    1 ≤ position ∧ position ≤ chain.length ∧ chain' = chain.eraseIdx (position - 1)
  | .deletePosition _, false, chain' => chain' = chain
  | .deleteRule rule, true, chain' => rule ∈ chain ∧ chain' = chain.erase rule
  | .deleteRule _, false, chain' => chain' = chain

/-- The exceptions of the scripts. -/
inductive Exn where
  | runtimeError (message : String)
  | systemExit (code : Nat)
  deriving DecidableEq, Repr

/-- A script that changes the chain. -/
abbrev Script (α : Type) : Type := Prog Op Ans Exn α

/-- The exit code of a script. An exception that nobody catches gives `1`. -/
def exitCode {α : Type} : Except Exn α → Nat
  | .ok _ => 0
  | .error (.systemExit code) => code
  | .error (.runtimeError _) => 1

/-- `try p except Exception`: `none` if it was raised. -/
def attempt {α : Type} (p : Script α) : Script (Option α) :=
  (do return some (← p) : Script (Option α)).handle fun
    | .runtimeError _ => pure none
    | e => .raise e

/-- `raise RuntimeError(message)` unless a condition holds. -/
def require (holds : Prop) [Decidable holds] (message : String) : Script Unit :=
  if holds then pure () else .raise (.runtimeError message)

/-- `input_rules`. -/
def inputRules : Script Chain := do
  match ← (Prog.perform Op.list : Script (Option Chain)) with
  | some rules => pure rules
  | none => .raise (.runtimeError "cannot inspect INPUT rules")

/-- `insert_rule`. -/
def insertRule (position : Nat) (rule : Rule) : Script Unit := do
  let succeeded ← (Prog.perform (Op.insert position rule) : Script Bool)
  require (succeeded = true) "rule insertion failed"

/-- `delete_position`. -/
def deletePosition (position : Nat) : Script Unit := do
  let succeeded ← (Prog.perform (Op.deletePosition position) : Script Bool)
  require (succeeded = true) "rule deletion failed"

end Firewall
