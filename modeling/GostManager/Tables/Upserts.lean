import Mathlib.Algebra.Group.Int.Defs
import Mathlib.Logic.Function.Basic
import GostManager.Lists.Dictionary

/-!
# Upserts

Tables whose rows give each column a value, and `INSERT ... ON CONFLICT(key) DO UPDATE SET` with the columns as
they are listed in the statement.
-/

namespace Tables

open Lists

/-- A value of SQLite. -/
inductive Value where
  | null
  | integer (n : Int)
  | text (text : String)
  deriving DecidableEq, Repr

/-- SQLite stores integers of 64 bits. -/
def Value.Binds : Value → Prop
  | .integer n => -2 ^ 63 ≤ n ∧ n < 2 ^ 63
  | _ => True

instance : DecidablePred Value.Binds
  | .integer _ => inferInstanceAs (Decidable (_ ∧ _))
  | .null | .text _ => inferInstanceAs (Decidable True)

variable {C : Type} [DecidableEq C]

/-- A row. -/
abbrev Row (C : Type) : Type := C → Value

/-- The row of `INSERT INTO table(columns) VALUES(values)`. -/
def inserted (columns : List C) (values : List Value) : Row C := fun c => ((columns.zip values).lookup c).getD .null

/-- `SET column=excluded.column', ...`. -/
def assign (updates : List (C × C)) (row excluded : Row C) : Row C :=
  updates.foldl (fun row update => Function.update row update.1 (excluded update.2)) row

/-- Insert a row, or update the one with its key. -/
def upsert (key : C) (updates : List (C × C)) (excluded : Row C) (rows : List (Row C)) : List (Row C) :=
  if rows.any fun row => row key = excluded key then
    rows.map fun row => if row key = excluded key then assign updates row excluded else row
  else rows ++ [excluded]

/-- The updates copy each column but the key. -/
structure CopiesAll (key : C) (updates : List (C × C)) : Prop where
  same : ∀ update ∈ updates, update.1 = update.2
  covers : ∀ c, c ≠ key → ∃ update ∈ updates, update.1 = c
  keeps : ∀ update ∈ updates, update.1 ≠ key

/-- The row of a key. -/
def rowOf (key : C) (value : Value) (rows : List (Row C)) : Option (Row C) := find (fun row => row key) value rows

end Tables
