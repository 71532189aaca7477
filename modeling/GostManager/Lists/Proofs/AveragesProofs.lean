import Mathlib.Algebra.BigOperators.Ring.List
import Mathlib.Algebra.Order.BigOperators.Group.List
import Mathlib.Algebra.Order.Field.Basic
import Mathlib.Tactic.Ring

/-!
# Proofs: weighted means

A mean with weights is not below all values that have a weight, and not above all of them.
-/

namespace Lists

variable {K : Type} [Field K] [LinearOrder K] [IsStrictOrderedRing K] {l : List (K × K)}

omit [IsStrictOrderedRing K] in
/-- If weights do not add up to zero, one is positive. -/
theorem exists_weight_pos (h : ∀ v ∈ l, 0 ≤ v.2) (hsum : (l.map (·.2)).sum ≠ 0) : ∃ v ∈ l, 0 < v.2 := by
  induction l with
  | nil => exact absurd rfl hsum
  | cons v l ih =>
    rcases (h v (.head _)).lt_or_eq with hpos | hzero
    · exact ⟨v, .head _, hpos⟩
    · rw [List.map_cons, List.sum_cons, ← hzero, zero_add] at hsum
      obtain ⟨v', hv', hpos⟩ := ih (fun v' hv' => h v' (.tail _ hv')) hsum
      exact ⟨v', .tail _ hv', hpos⟩

/-- A mean is at least one of the values, -/
theorem exists_le_mean (h : ∀ v ∈ l, 0 ≤ v.2) (hsum : (l.map (·.2)).sum ≠ 0) :
    ∃ v ∈ l, 0 < v.2 ∧ v.1 ≤ (l.map fun v => v.1 * v.2).sum / (l.map (·.2)).sum := by
  by_contra hnone
  have habove : ∀ v ∈ l, 0 < v.2 → (l.map fun v => v.1 * v.2).sum / (l.map (·.2)).sum < v.1 := by
    intro v hv hpos
    by_contra hle
    exact hnone ⟨v, hv, hpos, not_lt.1 hle⟩
  have hmul : (l.map fun v => v.1 * v.2).sum / (l.map (·.2)).sum * (l.map (·.2)).sum =
      (l.map fun v => v.1 * v.2).sum := div_mul_cancel₀ _ hsum
  generalize (l.map fun v => v.1 * v.2).sum / (l.map (·.2)).sum = mean at habove hmul
  -- every value weighs more than the mean would
  have hlt : (l.map fun v => mean * v.2).sum < (l.map fun v => v.1 * v.2).sum := by
    refine List.sum_lt_sum _ _ (fun v hv => ?_) ?_
    · rcases (h v hv).lt_or_eq with hpos | hzero
      · exact mul_le_mul_of_nonneg_right (habove v hv hpos).le hpos.le
      · rw [← hzero, mul_zero, mul_zero]
    · obtain ⟨v, hv, hpos⟩ := exists_weight_pos h hsum
      exact ⟨v, hv, mul_lt_mul_of_pos_right (habove v hv hpos) hpos⟩
  rw [List.sum_map_mul_left, hmul] at hlt
  exact lt_irrefl _ hlt

/-- and at most one of them. -/
theorem exists_mean_le (h : ∀ v ∈ l, 0 ≤ v.2) (hsum : (l.map (·.2)).sum ≠ 0) :
    ∃ v ∈ l, 0 < v.2 ∧ (l.map fun v => v.1 * v.2).sum / (l.map (·.2)).sum ≤ v.1 := by
  have hweights : ((l.map fun v => (-v.1, v.2)).map (·.2)).sum = (l.map (·.2)).sum := by
    rw [List.map_map]
    rfl
  have htotal : ((l.map fun v => (-v.1, v.2)).map fun v => v.1 * v.2).sum =
      -(l.map fun v => v.1 * v.2).sum := by
    rw [List.map_map, ← neg_one_mul, ← List.sum_map_mul_left]
    refine congrArg List.sum (List.map_congr_left fun v _ => ?_)
    show -v.1 * v.2 = -1 * (v.1 * v.2)
    ring
  have hneg : ∀ v ∈ l.map fun v => (-v.1, v.2), 0 ≤ v.2 := by
    intro v hv
    obtain ⟨w, hw, rfl⟩ := List.mem_map.1 hv
    exact h w hw
  obtain ⟨v, hv, hpos, hle⟩ := exists_le_mean hneg (hweights ▸ hsum)
  obtain ⟨w, hw, rfl⟩ := List.mem_map.1 hv
  rw [hweights, htotal, neg_div] at hle
  exact ⟨w, hw, hpos, neg_le_neg_iff.1 hle⟩

end Lists
