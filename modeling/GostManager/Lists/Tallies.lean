import Mathlib.Data.List.Basic

/-!
# Tallies

Steps that count marks under keys, and may forget a key. What is counted under a key are the marks since it was last
absent.
-/

namespace Lists

variable {σ γ κ : Type}

/-- Steps keep an invariant, and one that has a count under a key has counted its mark, if any, on top of the count
before it. -/
structure Counts (inv : σ → Prop) (tally : σ → κ → Option Int) (marks : γ → κ → Bool) (step : σ → γ → σ) : Prop where
  keeps : ∀ s c, inv s → inv (step s c)
  counts : ∀ s c k n, inv s → tally (step s c) k = some n →
    n = (tally s k).getD 0 + if marks c k then 1 else 0

end Lists
