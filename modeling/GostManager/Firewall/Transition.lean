import Mathlib.Data.List.Infix
import Mathlib.Data.List.Sort
import GostManager.Firewall.Rules

/-!
# Firewall: transitions

`transition_kharej_firewall_rules` of `gost-manager.sh`: a new set of rules is put before the old one
(`prepare`), the old one is deleted (`finalize`), or it is restored and the new one is deleted
(`rollback`). A script that returns has exit code `0`.
-/

namespace Firewall

open Effects

/-- `if input_rules() != expected: raise RuntimeError(message)`. -/
def verify (expected : Chain) (message : String) : Script Unit := do
  require ((← inputRules) = expected) message

/-- `for _index in range(count): delete_position(1)`. -/
def deleteFront : Nat → Script Unit
  | 0 => pure ()
  | count + 1 => do
    deletePosition 1
    deleteFront count

/-- `for position in positions: delete_position(position)`. -/
def deletePositions : List Nat → Script Unit
  | [] => pure ()
  | position :: positions => do
    deletePosition position
    deletePositions positions

/-- The positions of managed rules below the first `count` rules. -/
def obsolete (number count : Nat) (chain : Chain) : List (Nat × Rule) :=
  (managedPositions number chain).filter fun item => count < item.1

/-- `for position in sorted(obsolete, reverse=True): delete_position(position)`. The positions of a chain
ascend. -/
def deleteObsolete (number count : Nat) (chain : Chain) : Script Unit :=
  deletePositions ((obsolete number count chain).map (·.1)).reverse

/-! ## `prepare` -/

/-- The insertions of `prepare`: how many rules were added, and whether all were. -/
def addCandidate : List Rule → Nat → Script (Nat × Bool)
  | [], added => pure (added, true)
  | rule :: rules, added => do
    match ← attempt (insertRule 1 rule) with
    | some () => addCandidate rules (added + 1)
    | none => pure (added, false)

/-- The end of the `try` block of `prepare`, which is reached when all rules were added. -/
def verifyCandidate (candidate : List Rule) (before : Chain) (inserted : Bool) :
    Script (Option Unit) :=
  if inserted then attempt (verify (candidate ++ before) "candidate verification failed")
  else pure none

/-- `prepare`: it prints how many rules the candidate has. -/
def prepare (r : Request) : Script Nat := do
  let before ← inputRules
  let (added, inserted) ← addCandidate r.candidate.reverse 0
  match ← verifyCandidate r.candidate before inserted with
  | some () => return r.candidate.length
  | none =>
    match ← attempt (do deleteFront added; verify before "prepare rollback verification failed") with
    | none => .raise (.systemExit 2)
    | some () => .raise (.systemExit 1)

/-! ## `finalize` -/

/-- `finalize`. -/
def finalize (r : Request) (count : Nat) : Script Unit := do
  let current ← inputRules
  if count ≠ r.candidate.length ∨ current.take count ≠ r.candidate then .raise (.systemExit 1)
  else
  match ← attempt (deleteObsolete r.number count current) with
  | none => .raise (.systemExit 1)
  | some () =>
    let final ← inputRules
    if final.take count ≠ r.candidate ∨
        managedPositions r.number final ≠ Lists.enumerate 1 r.candidate then .raise (.systemExit 1)
    else pure ()

/-! ## `rollback` -/

/-- The text of the arguments of a rule, separated by blanks. -/
def ruleText : Rule → List Char
  | [] => []
  | [argument] => argument.toList
  | argument :: rule => argument.toList ++ ' ' :: ruleText rule

/-- A comment occurs in the text of a rule, with or without quotes. -/
def mentionsComment (comment : String) (rule : Rule) : Bool :=
  ("--comment " ++ comment).toList <:+: ruleText rule ||
    ("--comment \"" ++ comment ++ "\"").toList <:+: ruleText rule

/-- `snapshot_kharej_firewall_rules`: the rules whose text has a comment of the profile, with their
positions. -/
def snapshotRules (number : Nat) (chain : Chain) : List (Nat × Rule) :=
  Lists.marked (fun rule => mentionsComment (allowComment number) rule ||
    mentionsComment (dropComment number) rule) 1 chain

/-- `for position, rule in saved: insert_rule(position + count, rule)`. -/
def insertSaved (count : Nat) : List (Nat × Rule) → Script Unit
  | [] => pure ()
  | (position, rule) :: saved => do
    insertRule (position + count) rule
    insertSaved count saved

/-- The part of `rollback` in its `try` block. -/
def restoreSaved (number count : Nat) (saved : List (Nat × Rule)) (current : Chain) : Script Unit := do
  deleteObsolete number count current
  insertSaved count (saved.insertionSort fun x y => x.1 ≤ y.1)
  let withCandidate ← inputRules
  require (withCandidate.take count = current.take count ∧
    obsolete number count withCandidate = saved.map fun item => (item.1 + count, item.2))
    "old rule staging verification failed"
  deleteFront count
  require (managedPositions number (← inputRules) = saved) "rollback verification failed"

/-- `rollback` of the first `count` rules to a snapshot. -/
def rollback (number count : Nat) (saved : List (Nat × Rule)) : Script Unit := do
  let current ← inputRules
  if (current.take count).length ≠ count ∨ (current.take count).any (fun rule => !isManaged number rule)
  then .raise (.systemExit 1)
  else if saved.any fun item => !isManaged number item.2 then .raise (.systemExit 1)
  else
  match ← attempt (restoreSaved number count saved current) with
  | none => .raise (.systemExit 1)
  | some () => pure ()

/-! ## Runs -/

/-- A run of a script passes through a chain. -/
def Visits {α : Type} (script : Script α) (chain chain' : Chain) : Prop :=
  ∃ rest, Prog.Steps answers (script, chain) (rest, chain')

/-- A run of a script ends with an exit code and a chain. -/
def Ends {α : Type} (script : Script α) (chain : Chain) (code : Nat) (chain' : Chain) : Prop :=
  ∃ r, Prog.Steps answers (script, chain) (.done r, chain') ∧ exitCode r = code

/-- A chain that exists in a transition from the chain `before`: during `prepare`, during a `finalize`
after it, or during a `rollback` from where `finalize` was. -/
inductive Intermediate (r : Request) (before : Chain) : Chain → Prop where
  | prepare {chain : Chain} (h : Visits (prepare r) before chain) : Intermediate r before chain
  | finalize {prepared chain : Chain} (hp : Ends (Firewall.prepare r) before 0 prepared)
      (h : Visits (finalize r r.candidate.length) prepared chain) : Intermediate r before chain
  | rollback {prepared staged chain : Chain} (hp : Ends (Firewall.prepare r) before 0 prepared)
      (hf : Visits (Firewall.finalize r r.candidate.length) prepared staged)
      (h : Visits (rollback r.number r.candidate.length (snapshotRules r.number before)) staged chain) :
      Intermediate r before chain

/-- A chain on which every command that can succeed does. -/
def obeying (chain : Chain) : (op : Op) → Ans op × Chain
  | .list => (some chain, chain)
  | .insert position rule =>
    if 1 ≤ position ∧ position ≤ chain.length + 1 then (true, chain.insertIdx (position - 1) rule)
    else (false, chain)
  | .deletePosition position =>
    if 1 ≤ position ∧ position ≤ chain.length then (true, chain.eraseIdx (position - 1))
    else (false, chain)
  | .deleteRule rule => if rule ∈ chain then (true, chain.erase rule) else (false, chain)

end Firewall
