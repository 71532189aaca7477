import GostManager.Lists.Completions

/-!
# Proofs: completions

A count that counts no element too many is exact if it counts every element that can be completed to one that
counts.
-/

namespace Lists

variable {α β : Type} {R : α → β → Prop} {p : α → Bool} {q : α × β → Bool} {as : List α} {bs : List β} {a : α} {b : β}

end Lists
