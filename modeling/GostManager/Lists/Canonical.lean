import Mathlib.Data.List.Dedup
import Mathlib.Data.List.Sort

/-!
# Canonical lists

A set is written down as the list of its members in ascending order.
-/

namespace Lists

variable {α : Type} [LinearOrder α]

/-- The members of a list in ascending order, each of them once. -/
def canonical (as : List α) : List α := as.dedup.insertionSort (· ≤ ·)

end Lists
