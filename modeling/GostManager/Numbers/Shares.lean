import Mathlib.Algebra.BigOperators.Group.List.Basic
import Mathlib.Algebra.Field.Defs

/-!
# Shares

The shares that the parts of a sum have in it, on a scale.
-/

namespace Numbers

variable {K : Type} [Field K]

/-- The share of a part in a total. -/
def share (scale total part : K) : K := part * scale / total

end Numbers
