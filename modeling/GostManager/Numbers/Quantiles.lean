import Mathlib.Algebra.BigOperators.Group.List.Basic
import Mathlib.Order.Defs.LinearOrder
import Mathlib.Order.Lattice

/-!
# Quantiles

Values with weights, and the value at which the weight of the smaller values reaches a target. Weights that are
not positive do not count.
-/

namespace Numbers

variable {α K : Type} [AddCommMonoid K] [LinearOrder K]

/-- The weight of the values with a property. -/
def weightWhere (p : α → Prop) [DecidablePred p] (values : List (α × K)) : K :=
  (values.map fun v => if p v.1 then max v.2 0 else 0).sum

/-- The weight of all values. -/
def totalWeight (values : List (α × K)) : K := (values.map fun v => max v.2 0).sum

/-- The weight of the values up to `v` reaches the target, and that of the values before `v` does not. -/
structure IsQuantile [LinearOrder α] (values : List (α × K)) (target : K) (v : α) : Prop where
  reached : target ≤ weightWhere (· ≤ v) values
  before : weightWhere (· < v) values < target

end Numbers
