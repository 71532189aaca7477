import Mathlib.Data.List.Nodup

/-!
# Sequences

Tables with a key that SQLite chooses, `INTEGER PRIMARY KEY AUTOINCREMENT`, and upserts into them.
-/

namespace Tables

/-- A table with keys from a sequence: each row with its key, and the last key that was tried. -/
structure Sequenced (ρ : Type) where
  rows : List (Nat × ρ)
  sequence : Nat
  keyed : (rows.map Prod.fst).Nodup
  bounded : ∀ row ∈ rows, row.1 ≤ sequence

namespace Sequenced

variable {ρ : Type}

/-- The keys of the rows. -/
def keys (table : Sequenced ρ) : List Nat := table.rows.map Prod.fst

/-- A new table. -/
def empty : Sequenced ρ where
  rows := []
  sequence := 0
  keyed := List.nodup_nil
  bounded := nofun

/-- Insert a row under the next key. -/
def insert (row : ρ) (table : Sequenced ρ) : Sequenced ρ where
  rows := table.rows ++ [(table.sequence + 1, row)]
  sequence := table.sequence + 1
  keyed := by
    rw [List.map_append, List.nodup_append]
    refine ⟨table.keyed, List.nodup_singleton _, ?_⟩
    intro k hk k' hk' heq
    obtain ⟨row, hrow, rfl⟩ := List.mem_map.1 hk
    have hle := table.bounded row hrow
    rw [heq, List.mem_singleton.1 hk'] at hle
    exact absurd hle (Nat.not_succ_le_self _)
  bounded := by
    intro row' hmem
    rcases List.mem_append.1 hmem with hmem | hmem
    · exact Nat.le_succ_of_le (table.bounded row' hmem)
    · exact Nat.le_of_eq (congrArg Prod.fst (List.mem_singleton.1 hmem))

/-- Change the rows of a kind. The next key is skipped. -/
def change (kind : ρ → Bool) (update : ρ → ρ) (table : Sequenced ρ) : Sequenced ρ where
  rows := table.rows.map fun row => (row.1, if kind row.2 then update row.2 else row.2)
  sequence := table.sequence + 1
  keyed := by
    rw [List.map_map]
    exact table.keyed
  bounded := by
    intro row' hmem
    obtain ⟨row, hrow, rfl⟩ := List.mem_map.1 hmem
    exact Nat.le_succ_of_le (table.bounded row hrow)

variable {κ : Type} [DecidableEq κ] (unique : ρ → κ)

/-- The values of a column, with the keys of their rows. -/
def column (table : Sequenced ρ) : List (Nat × κ) := table.rows.map fun row => (row.1, unique row.2)

/-- The key of the first row with a value. -/
def keyOf (value : κ) (table : Sequenced ρ) : Option Nat :=
  (table.rows.find? fun row => unique row.2 = value).map Prod.fst

/-- `INSERT ... ON CONFLICT(unique) DO UPDATE`. -/
def upsert (update : ρ → ρ) (row : ρ) (table : Sequenced ρ) : Sequenced ρ :=
  if table.rows.any fun other => unique other.2 = unique row then
    table.change (fun other => unique other = unique row) update
  else table.insert row

end Sequenced

end Tables
