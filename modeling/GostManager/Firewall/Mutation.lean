import Mathlib.Data.List.Sort
import Mathlib.Data.String.Basic
import GostManager.Firewall.Transition

/-!
# Firewall: mutations

`mutate_kharej_firewall_rules` of `gost-manager.sh`: the managed rules of a profile are deleted, and new ones
are put in, or those of a snapshot. When that fails, the old ones are put back.
-/

namespace Firewall

open Effects

/-! ## Signatures -/

/-- `value_after`. -/
def valueAfter (rule : Rule) (option : String) : String :=
  match rule.dropWhile (· != option) with
  | _ :: value :: _ => value
  | _ => ""

/-- What `signatures` gives for a rule. -/
def signature (rule : Rule) : Option String × String × String × String :=
  (ruleComment rule, valueAfter rule "-s", valueAfter rule "--dport", valueAfter rule "-j")

/-- `positioned_signatures`. -/
def positionedSignatures (items : List (Nat × Rule)) :
    List (Nat × Option String × String × String × String) :=
  items.map fun item => (item.1, signature item.2)

/-- `managed`. -/
def managed (number : Nat) (chain : Chain) : List Rule := chain.filter (isManaged number)

/-! ## Commands -/

/-- `if run(["-I", "INPUT", position, ...]).returncode: raise RuntimeError(message)`. -/
def insertOr (message : String) (position : Nat) (rule : Rule) : Script Unit := do
  let succeeded ← (Prog.perform (Op.insert position rule) : Script Bool)
  require (succeeded = true) message

/-- The loop of `clear`. -/
def deleteRules : List Rule → Script Unit
  | [] => pure ()
  | rule :: rules => do
    let succeeded ← (Prog.perform (Op.deleteRule rule) : Script Bool)
    require (succeeded = true) "failed to delete managed rule"
    deleteRules rules

/-- `clear`. -/
def clear (number : Nat) : Script Unit := do
  let rules ← inputRules
  deleteRules (managed number rules)

/-- The loop of `insert_at_positions`. -/
def insertEach (number : Nat) : List (Nat × Rule) → Script Unit
  | [] => pure ()
  | (position, rule) :: positioned => do
    require (isManaged number rule = true) "invalid positioned managed rule"
    insertOr "failed to restore managed rule position" position rule
    insertEach number positioned

/-- The order in which `sorted` puts pairs. -/
def sortsBefore (x y : Nat × Rule) : Prop := x.1 < y.1 ∨ x.1 = y.1 ∧ x.2 ≤ y.2

instance : DecidableRel sortsBefore := fun x y => inferInstanceAs (Decidable (x.1 < y.1 ∨ x.1 = y.1 ∧ x.2 ≤ y.2))

/-- `insert_at_positions`. -/
def insertAtPositions (number : Nat) (positioned : List (Nat × Rule)) : Script Unit :=
  insertEach number (positioned.insertionSort sortsBefore)

/-- The insertions of the allow rules. -/
def addAllows : List Rule → Script Unit
  | [] => pure ()
  | rule :: rules => do
    insertOr "failed to add managed allow" 1 rule
    addAllows rules

/-! ## The script -/

/-- The new rules of a profile: the drop rule, and before it the allow rules. -/
def addRules (r : Request) : Script Unit :=
  if r.enabled then do
    insertOr "failed to add managed drop" 1 (dropRule r.number r.port)
    addAllows (r.sources.map (allowRule r.number r.port)).reverse
  else pure ()

/-- What is put in after the managed rules are deleted: the rules of a restore file at their positions, or
else new ones. -/
def putRules (r : Request) : Option (List (Nat × Rule)) → Script Unit
  | some positioned => insertAtPositions r.number positioned
  | none => addRules r

/-- The `try` block of the script. A restore file has the rules of a snapshot, with their positions. -/
def change (r : Request) (restore : Option (List (Nat × Rule))) : Script Unit := do
  clear r.number
  putRules r restore
  let desired := (restore.map fun positioned => positioned.map (·.2)).getD r.candidate
  let current ← inputRules
  require ((managed r.number current).map signature = desired.map signature)
    "managed firewall verification failed"
  require (∀ positioned ∈ restore,
      positionedSignatures (managedPositions r.number current) = positionedSignatures positioned)
    "managed firewall position verification failed"

/-- Its `except` block, without the exit. -/
def undo (number : Nat) (positioned : List (Nat × Rule)) : Script Unit := do
  clear number
  insertAtPositions number positioned
  let current ← inputRules
  require (positionedSignatures (managedPositions number current) = positionedSignatures positioned)
    "rollback verification failed"

/-- `mutate_kharej_firewall_rules`. -/
def mutate (r : Request) (restore : Option (List (Nat × Rule))) : Script Unit := do
  let rules ← inputRules
  match ← attempt (change r restore) with
  | some () => pure ()
  | none =>
    let _ ← attempt (undo r.number (managedPositions r.number rules))
    .raise (.systemExit 1)

/-! ## Failures -/

/-- How many commands failed: one, if this is the answer of one that failed. -/
def failures : (op : Op) → Ans op → Nat
  | .list, none => 1
  | .list, some _ => 0
  | .insert _ _, succeeded => if succeeded then 0 else 1
  | .deletePosition _, succeeded => if succeeded then 0 else 1
  | .deleteRule _, succeeded => if succeeded then 0 else 1

/-- How a chain answers, when the commands that fail are counted. -/
def counted (s : Chain × Nat) (op : Op) (a : Ans op) (s' : Chain × Nat) : Prop :=
  answers s.1 op a s'.1 ∧ s'.2 = s.2 + failures op a

/-- A run of a script in which so many commands fail ends with an exit code and a chain. -/
def EndsAfter {α : Type} (failed : Nat) (script : Script α) (chain : Chain) (code : Nat) (chain' : Chain) :
    Prop :=
  ∃ r, Prog.Steps counted (script, chain, 0) (.done r, chain', failed) ∧ exitCode r = code

/-- The rules that a mutation of a chain is to lead to: the new ones before the unmanaged ones, or those of the
chain of a snapshot, if that has the same unmanaged ones. -/
def Wanted (r : Request) (chain : Chain) : Option Chain → Chain → Prop
  | none, chain' => chain' = r.candidate ++ unmanaged r.number chain
  | some saved, chain' => unmanaged r.number saved = unmanaged r.number chain → chain' = saved

/-- A mutation is atomic on a chain: when one command fails, nothing is changed; and no command has to fail,
and then the chain has the rules that are wanted. `saved` is the chain of the snapshot that is restored, if
there is one. -/
structure Atomic (r : Request) (saved : Option Chain) (chain : Chain) : Prop where
  failed : ∀ code chain', EndsAfter 1 (mutate r (saved.map (snapshotRules r.number))) chain code chain' →
    code = 1 ∧ chain' = chain
  succeeded : ∀ code chain', EndsAfter 0 (mutate r (saved.map (snapshotRules r.number))) chain code chain' →
    code = 0 ∧ Wanted r chain saved chain'
  possible : (∀ saved' ∈ saved, unmanaged r.number saved' = unmanaged r.number chain) →
    ∃ code chain', EndsAfter 0 (mutate r (saved.map (snapshotRules r.number))) chain code chain'

end Firewall
