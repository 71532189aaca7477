import Mathlib.Data.List.Forall2

/-!
# Completions

Elements that are known in part, each completed by a value that is related to it. A count of the elements is
exact if it is the count of the completed ones, whatever completes them.
-/

namespace Lists

variable {α β : Type} (R : α → β → Prop)

end Lists
