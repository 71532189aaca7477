import Mathlib.Data.List.Basic

/-!
# Lists with marked elements

Some elements of a list are marked. A program that inserts and deletes marked elements by position leaves
the rest of the list as it is, and the list is known once the marked elements are known with their
positions.
-/

namespace Lists

variable {α : Type}

/-- The marked elements with their positions, when the list begins at position `n`. -/
def marked (p : α → Bool) : Nat → List α → List (Nat × α)
  | _, [] => []
  | n, a :: l => if p a then (n, a) :: marked p (n + 1) l else marked p (n + 1) l

/-- All elements with their positions. -/
def enumerate (n : Nat) (l : List α) : List (Nat × α) := marked (fun _ => true) n l

/-- The elements that are not marked. -/
def unmarked (p : α → Bool) (l : List α) : List α := l.filter fun a => !p a

end Lists
