import Mathlib.Order.Basic
import GostManager.Lists.Proofs.ExtremesProofs
import GostManager.Monitoring.Points

/-!
# Proofs: metric points

The qualities are ordered by their rank, and the worst quality is the greatest. Minutes are multiples of
sixty, and a point is before a full minute if its own minute is.
-/

namespace Monitoring

/-! ## Qualities -/

theorem Quality.rank_injective : Function.Injective Quality.rank := by
  intro q q' h
  cases q <;> cases q' <;> first | rfl | cases h

/-- Better qualities are smaller. -/
instance : LinearOrder Quality := LinearOrder.lift' Quality.rank Quality.rank_injective

theorem Quality.worse_eq_max (q q' : Quality) : q.worse q' = max q q' := by
  cases q <;> cases q' <;> rfl

theorem worstQuality_eq {qs : List Quality} : worstQuality qs = qs.max?.getD .unavailable := by
  cases qs with
  | nil => rfl
  | cons q qs =>
    have hworse : Quality.worse = max := funext fun q => funext fun q' => q.worse_eq_max q'
    rw [List.max?_cons', Option.getD_some, worstQuality, hworse]

/-- The worst quality is one of them, -/
theorem worstQuality_mem {qs : List Quality} (h : qs ≠ []) : worstQuality qs ∈ qs := by
  obtain ⟨q, hq⟩ := Option.isSome_iff_exists.1 (List.isSome_max?_of_ne_nil h)
  rw [worstQuality_eq, hq]
  exact (List.max?_eq_some_iff.1 hq).1

/-- and none is worse. -/
theorem rank_le_worstQuality {qs : List Quality} {q : Quality} (h : q ∈ qs) :
    q.rank ≤ (worstQuality qs).rank := by
  obtain ⟨worst, hworst⟩ := Option.isSome_iff_exists.1 (List.isSome_max?_of_ne_nil (List.ne_nil_of_mem h))
  rw [worstQuality_eq, hworst]
  exact (List.max?_eq_some_iff.1 hworst).2 q h

/-- One more quality. -/
theorem worstQuality_append {qs : List Quality} {q : Quality} (h : qs ≠ []) :
    worstQuality (qs ++ [q]) = (worstQuality qs).worse q := by
  cases qs with
  | nil => exact absurd rfl h
  | cons q' qs =>
    rw [List.cons_append, worstQuality, worstQuality, List.foldl_append, List.foldl_cons, List.foldl_nil]

theorem worstQuality_congr {qs qs' : List Quality} (h : ∀ q, q ∈ qs ↔ q ∈ qs') :
    worstQuality qs = worstQuality qs' := by
  rw [worstQuality_eq, worstQuality_eq, Lists.max?_congr h]

/-- The worst of the parts is the worst of all. -/
theorem worstQuality_flatten {ls : List (List Quality)} (h : ∀ l ∈ ls, l ≠ []) :
    worstQuality ls.flatten = worstQuality (ls.map worstQuality) := by
  have hmap : ls.filterMap List.max? = ls.map worstQuality := by
    induction ls with
    | nil => rfl
    | cons l ls ih =>
      obtain ⟨q, hq⟩ := Option.isSome_iff_exists.1 (List.isSome_max?_of_ne_nil (h l (.head _)))
      rw [List.filterMap_cons, hq, List.map_cons, ih fun l hl => h l (.tail _ hl), worstQuality_eq, hq,
        Option.getD_some]
  rw [worstQuality_eq, Lists.max?_flatten, hmap, ← worstQuality_eq]

/-! ## Minutes -/

section Minutes

variable {ts start : Nat}

theorem minuteOf_le : minuteOf ts ≤ ts := by
  unfold minuteOf
  omega

theorem lt_minuteOf_add : ts < minuteOf ts + 60 := by
  unfold minuteOf
  omega

theorem dvd_minuteOf : 60 ∣ minuteOf ts := ⟨ts / 60, by rw [minuteOf, Nat.mul_comm]⟩

theorem minuteOf_mono {ts' : Nat} (h : ts ≤ ts') : minuteOf ts ≤ minuteOf ts' := by
  unfold minuteOf
  omega

/-- Full minutes are not cut by a multiple of sixty. -/
theorem minuteOf_lt_iff (h : 60 ∣ start) : minuteOf ts < start ↔ ts < start := by
  unfold minuteOf
  omega

theorem le_minuteOf_iff (h : 60 ∣ start) : start ≤ minuteOf ts ↔ start ≤ ts := by
  unfold minuteOf
  omega

end Minutes

end Monitoring
