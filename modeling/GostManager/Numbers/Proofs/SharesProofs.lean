import Mathlib.Algebra.Order.BigOperators.Group.List
import Mathlib.Algebra.Order.Field.Basic
import Mathlib.Tactic.Linarith
import GostManager.Numbers.Shares

/-!
# Proofs: shares

The shares of all parts make up the scale, and none is larger if no part is negative.
-/

namespace Numbers

variable {K : Type} [Field K] {scale total part part' : K}

theorem share_total (h : total ≠ 0) : share scale total total = scale := by
  unfold share
  rw [mul_comm, mul_div_assoc, div_self h, mul_one]

theorem share_sub : share scale total (part - part') = share scale total part - share scale total part' := by
  unfold share
  rw [sub_mul, sub_div]

/-- The shares of the parts add up to the share of their sum. -/
theorem sum_map_share {α : Type} (part : α → K) (as : List α) :
    (as.map fun a => share scale total (part a)).sum = share scale total (as.map part).sum := by
  unfold share
  induction as with
  | nil => simp
  | cons a as ih => rw [List.map_cons, List.sum_cons, ih, List.map_cons, List.sum_cons, add_mul, add_div]

variable [LinearOrder K] [IsStrictOrderedRing K]

theorem share_nonneg (hscale : 0 ≤ scale) (htotal : 0 < total) (h : 0 ≤ part) : 0 ≤ share scale total part :=
  div_nonneg (mul_nonneg h hscale) htotal.le

theorem share_le (hscale : 0 ≤ scale) (htotal : 0 < total) (h : part ≤ total) : share scale total part ≤ scale := by
  unfold share
  rw [div_le_iff₀ htotal, mul_comm]
  exact mul_le_mul_of_nonneg_left h hscale

end Numbers
