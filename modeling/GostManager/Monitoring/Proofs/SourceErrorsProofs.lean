import Mathlib.Data.String.Basic
import GostManager.Lists.Proofs.DictionaryProofs
import GostManager.Lists.Proofs.TalliesProofs
import GostManager.Monitoring.SourceErrors

/-!
# Proofs: counters of source errors

A call counts each failing source once, drops the entries that are too old, and keeps the most recent ones, among
which are those that fail now.
-/

namespace Monitoring.Errors

open Lists

variable {s : CollectorState} {call : Call} {calls : List Call} {counts : List ErrorCount} {errors : List String}
  {source : String} {entry : ErrorCount} {ts : Int}

/-! ## Counting -/

instance : Std.Total MoreRecent where
  total a b := by
    rcases lt_trichotomy a.lastSeen b.lastSeen with hlt | heq | hlt
    · exact .inr (.inl hlt)
    · rcases le_total b.source a.source with hle | hle
      · exact .inl (.inr ⟨heq.symm, hle⟩)
      · exact .inr (.inr ⟨heq, hle⟩)
    · exact .inl (.inl hlt)

instance : IsTrans ErrorCount MoreRecent where
  trans := by
    rintro a b c (hab | ⟨hab, hab'⟩) (hbc | ⟨hbc, hbc'⟩)
    · exact .inl (hbc.trans hab)
    · exact .inl (hbc ▸ hab)
    · exact .inl (hab ▸ hbc)
    · exact .inr ⟨hbc.trans hab, hbc'.trans hab'⟩

/-- The counts after the loop. -/
abbrev counted (s : CollectorState) (call : Call) : List ErrorCount := call.errors.foldl (recordError call.ts) (tracked s)

/-- The number of all failures so far. -/
abbrev failures (calls : List Call) : Int := (calls.map fun call => (call.errors.length : Int)).sum

end Monitoring.Errors
