import Mathlib.Data.List.Basic
import Mathlib.Logic.Function.Basic

/-!
# Groups of a list

The elements of a list, grouped by a key: the groups in the order in which their keys occur first, and the
elements of each group in their order.
-/

namespace Lists

variable {α κ : Type} [DecidableEq κ]

/-- Put an element into its group, or open one. -/
def addToGroup (k : κ) (a : α) : List (κ × List α) → List (κ × List α)
  | [] => [(k, [a])]
  | (k', g) :: gs => if k' = k then (k', g ++ [a]) :: gs else (k', g) :: addToGroup k a gs

/-- The groups of a list. -/
def groups (key : α → κ) (l : List α) : List (κ × List α) :=
  l.foldl (fun gs a => addToGroup (key a) a gs) []

/-- Store a value for each element of a list under its key, later ones over earlier ones. -/
def storeAll {β : Type} (f : β → κ) (v : β → α) (bs : List β) (t : κ → Option α) : κ → Option α :=
  bs.foldl (fun t b => Function.update t (f b) (some (v b))) t

end Lists
