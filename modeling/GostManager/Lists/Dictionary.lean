import Mathlib.Data.List.Basic

/-!
# Dictionaries

Dictionaries that remember the order in which their keys came in, as lists of values that hold their own
keys. `keepBest` keeps of each key a value of the best rank, and of these the last.
-/

namespace Lists

variable {α κ : Type} [DecidableEq κ] (key : α → κ) (rank : α → Nat)

/-- Store a value: in place if its key is there, else at the end. -/
def store (a : α) : List α → List α
  | [] => [a]
  | b :: d => if key b = key a then a :: d else b :: store a d

/-- The dictionary of the values, of which later ones replace earlier ones. -/
def dictionary (l : List α) : List α := l.foldl (fun d a => store key a d) []

/-- The value of a key. -/
def find (k : κ) (d : List α) : Option α := d.find? fun a => key a = k

/-- Store a value, unless its key has a better one. -/
def keep (a : α) (d : List α) : List α :=
  match find key (key a) d with
  | none => store key a d
  | some b => if rank a ≤ rank b then store key a d else d

/-- The dictionary of the values, of which later ones replace earlier ones that are not better. -/
def keepBest (l : List α) : List α := l.foldl (fun d a => keep key rank a d) []

end Lists
