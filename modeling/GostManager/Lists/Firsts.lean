import Mathlib.Data.List.Basic

/-!
# First elements

The elements of a list that are the first with their key. Elements without a key are all kept.
-/

namespace Lists

variable {α κ : Type} [DecidableEq κ] (key : α → Option κ)

/-- The elements that are the first with their key, when some keys were seen before. -/
def firstsFrom : List κ → List α → List α
  | _, [] => []
  | seen, a :: l =>
    match key a with
    | none => a :: firstsFrom seen l
    | some k => if k ∈ seen then firstsFrom seen l else a :: firstsFrom (k :: seen) l

/-- The first element with a key. -/
def IsFirst (k : κ) (l : List α) (a : α) : Prop :=
  ∃ before after, l = before ++ a :: after ∧ key a = some k ∧ ∀ b ∈ before, key b ≠ some k

end Lists
