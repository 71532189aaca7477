import Mathlib.Algebra.Field.Defs
import Mathlib.Data.Set.Defs

/-!
# Grids

The points at equal distances after a first one.
-/

namespace Numbers

variable {K : Type} [Field K]

/-- The points after `start` at the multiples of an interval. -/
def laterPoints (start interval : K) : Set K := {x | ∃ k : ℤ, 1 ≤ k ∧ x = start + k * interval}

end Numbers
