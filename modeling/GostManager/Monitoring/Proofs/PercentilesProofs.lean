import GostManager.Monitoring.Summaries
import GostManager.Numbers.Proofs.QuantilesProofs

/-!
# Proofs: percentiles

`weighted_percentile` walks the values in their order up to the quantile, and so all that it depends on is the
weight of each value.
-/

namespace Monitoring

open Numbers

variable {target cumulative percentile : ℚ} {values values' : List (ℚ × ℚ)} {v : ℚ}

/-! ## The walk -/

theorem reach_cons_cons (target cumulative : ℚ) (x y : ℚ × ℚ) (values : List (ℚ × ℚ)) :
    weightedPercentile.reach target cumulative (x :: y :: values) =
      if target ≤ cumulative + x.2 then some x.1
      else weightedPercentile.reach target (cumulative + x.2) (y :: values) := rfl

/-- Where the walk ends, if the weights reach the target. -/
theorem reach_split (hpos : ∀ x ∈ values, 0 < x.2) (hne : values ≠ []) (hbefore : cumulative < target)
    (hreached : target ≤ cumulative + totalWeight values) : ∃ before v w after,
      values = before ++ (v, w) :: after ∧ weightedPercentile.reach target cumulative values = some v ∧
        cumulative + totalWeight before < target ∧ target ≤ cumulative + totalWeight before + max w 0 := by
  induction values generalizing cumulative with
  | nil => exact absurd rfl hne
  | cons x values ih =>
    rw [List.forall_mem_cons] at hpos
    rw [totalWeight_cons] at hreached
    by_cases hx : target ≤ cumulative + x.2
    · refine ⟨[], x.1, x.2, values, rfl, ?_, ?_, ?_⟩
      · cases values with
        | nil => rfl
        | cons y values => rw [reach_cons_cons, if_pos hx]
      · simpa [totalWeight] using hbefore
      · simpa [totalWeight, max_eq_left hpos.1.le] using hx
    · cases values with
      | nil =>
        rw [max_eq_left hpos.1.le] at hreached
        exact absurd (by simpa [totalWeight] using hreached) hx
      | cons y values =>
        have hmax := max_eq_left hpos.1.le
        obtain ⟨before, v, w, after, heq, hresult, hsplit, hend⟩ :=
          ih hpos.2 (List.cons_ne_nil y values) (not_le.1 hx) (by rwa [add_assoc, ← hmax])
        refine ⟨x :: before, v, w, after, by rw [heq, List.cons_append], ?_, ?_, ?_⟩
        · rw [reach_cons_cons, if_neg hx, hresult]
        · rwa [totalWeight_cons, hmax, ← add_assoc]
        · rwa [totalWeight_cons, hmax, ← add_assoc]

/-! ## The percentile -/

/-- The values that `weighted_percentile` walks. -/
abbrev positiveValues (values : List (ℚ × ℚ)) : List (ℚ × ℚ) :=
  (values.filter fun v => 0 < v.2).mergeSort fun v v' => v.1 < v'.1 ∨ v.1 = v'.1 ∧ v.2 ≤ v'.2

theorem positiveValues_perm (values : List (ℚ × ℚ)) :
    (positiveValues values).Perm (values.filter fun v => 0 < v.2) := List.mergeSort_perm _ _

theorem positiveValues_pos : ∀ x ∈ positiveValues values, 0 < x.2 := by
  intro x hx
  have hmem := (positiveValues_perm values).mem_iff.1 hx
  exact of_decide_eq_true (List.mem_filter.1 hmem).2

theorem positiveValues_sorted : (positiveValues values).Pairwise fun x y => x.1 ≤ y.1 := by
  refine (List.pairwise_mergeSort ?_ ?_ _).imp fun hle => ?_
  · intro x y z hxy hyz
    rw [decide_eq_true_eq] at hxy hyz ⊢
    rcases hxy with hxy | ⟨hxy, hxy'⟩
    · rcases hyz with hyz | ⟨hyz, -⟩
      · exact .inl (hxy.trans hyz)
      · exact .inl (hyz ▸ hxy)
    · rcases hyz with hyz | ⟨hyz, hyz'⟩
      · exact .inl (hxy ▸ hyz)
      · exact .inr ⟨hxy.trans hyz, hxy'.trans hyz'⟩
  · intro x y
    rw [Bool.or_eq_true, decide_eq_true_eq, decide_eq_true_eq]
    rcases lt_trichotomy x.1 y.1 with hlt | heq | hlt
    · exact .inl (.inl hlt)
    · exact (le_total x.2 y.2).imp (fun hle => .inr ⟨heq, hle⟩) fun hle => .inr ⟨heq.symm, hle⟩
    · exact .inr (.inl hlt)
  · rw [decide_eq_true_eq] at hle
    exact hle.elim le_of_lt fun h => h.1.le

theorem weightWhere_positiveValues {p : ℚ → Prop} [DecidablePred p] (values : List (ℚ × ℚ)) :
    weightWhere p (positiveValues values) = weightWhere p values := by
  rw [weightWhere_perm (positiveValues_perm values), weightWhere_filter]

theorem totalWeight_positiveValues (values : List (ℚ × ℚ)) :
    totalWeight (positiveValues values) = totalWeight values := by
  rw [totalWeight_eq_weightWhere, totalWeight_eq_weightWhere, weightWhere_positiveValues]

theorem positiveValues_eq_nil : positiveValues values = [] ↔ ∀ x ∈ values, x.2 ≤ 0 := by
  rw [← List.perm_nil, (positiveValues_perm values).congr_left, List.perm_nil, List.filter_eq_nil_iff]
  simp only [decide_eq_true_eq, not_lt]

/-- The percentile is the quantile of its part of the weight, unless no weight is positive. -/
theorem weightedPercentile_cases (hpos : 0 < percentile) (hle : percentile ≤ 1) (values : List (ℚ × ℚ)) :
    (weightedPercentile values percentile = none ∧ ∀ x ∈ values, x.2 ≤ 0) ∨
      ∃ v, weightedPercentile values percentile = some v ∧
        IsQuantile values (totalWeight values * percentile) v := by
  unfold weightedPercentile
  simp only
  rw [sum_eq_totalWeight positiveValues_pos]
  by_cases hnil : positiveValues values = []
  · exact .inl ⟨if_pos (.inl hnil), positiveValues_eq_nil.1 hnil⟩
  · have htotal : 0 < totalWeight (positiveValues values) := totalWeight_pos positiveValues_pos hnil
    have htarget : totalWeight (positiveValues values) * percentile ≤ totalWeight (positiveValues values) :=
      mul_le_of_le_one_right htotal.le hle
    obtain ⟨before, v, w, after, heq, hresult, hbefore, hreached⟩ :=
      reach_split positiveValues_pos hnil (mul_pos htotal hpos) (by rwa [zero_add])
    rw [zero_add] at hbefore hreached
    refine .inr ⟨v, ?_, ?_⟩
    · rw [if_neg (not_or.2 ⟨hnil, not_le.2 htotal⟩), hresult]
    · rw [← isQuantile_congr fun p => weightWhere_positiveValues values, ← totalWeight_positiveValues]
      have hsorted : (positiveValues values).Pairwise _ := positiveValues_sorted
      rw [heq] at hsorted ⊢
      rw [heq] at hbefore hreached
      exact isQuantile_of_sorted hsorted hbefore hreached

theorem weightedPercentile_eq_none_iff (hpos : 0 < percentile) (hle : percentile ≤ 1) :
    weightedPercentile values percentile = none ↔ ∀ x ∈ values, x.2 ≤ 0 := by
  rcases weightedPercentile_cases hpos hle values with ⟨hnone, hweights⟩ | ⟨v, hsome, hquantile⟩
  · exact ⟨fun _ => hweights, fun _ => hnone⟩
  · obtain ⟨w, hw, hmem⟩ := hquantile.occurs
    constructor
    · intro hnone
      rw [hsome] at hnone
      cases hnone
    · intro hweights
      exact absurd (hweights (v, w) hmem) (not_le.2 hw)

theorem weightedPercentile_eq_some_iff (hpos : 0 < percentile) (hle : percentile ≤ 1) :
    weightedPercentile values percentile = some v ↔ IsQuantile values (totalWeight values * percentile) v := by
  rcases weightedPercentile_cases hpos hle values with ⟨hnone, hweights⟩ | ⟨v', hsome, hquantile⟩
  · constructor
    · intro hsome
      rw [hnone] at hsome
      cases hsome
    · intro hquantile
      obtain ⟨w, hw, hmem⟩ := hquantile.occurs
      exact absurd (hweights (v, w) hmem) (not_le.2 hw)
  · constructor
    · intro hv
      rw [hsome] at hv
      cases hv
      exact hquantile
    · intro hv
      rw [hsome, hquantile.unique hv]

/-- The percentile depends only on the weights of the values. -/
theorem weightedPercentile_congr (hpos : 0 < percentile) (hle : percentile ≤ 1)
    (h : ∀ (p : ℚ → Prop) [DecidablePred p], weightWhere p values = weightWhere p values') :
    weightedPercentile values percentile = weightedPercentile values' percentile := by
  apply Option.ext
  intro v
  rw [weightedPercentile_eq_some_iff hpos hle, weightedPercentile_eq_some_iff hpos hle, isQuantile_congr h,
    totalWeight_eq_weightWhere, h, ← totalWeight_eq_weightWhere]

/-! ## What the percentile is -/

/-- `weighted_percentile` finds the value at which the weight reaches its part of the total, whatever the order of
the values, and whether equal values are merged or split into weights of one sign. -/
theorem weightedPercentile_spec (hpos : 0 < percentile) (hle : percentile ≤ 1) (values : List (ℚ × ℚ)) :
    (weightedPercentile values percentile = none ↔ ¬ ∃ x ∈ values, 0 < x.2) ∧
    (∀ v, weightedPercentile values percentile = some v → (∃ w, 0 < w ∧ (v, w) ∈ values) ∧
      percentile * totalWeight values ≤ weightWhere (· ≤ v) values ∧
      weightWhere (· < v) values < percentile * totalWeight values) ∧
    (∀ values', values'.Perm values →
      weightedPercentile values' percentile = weightedPercentile values percentile) ∧
    ∀ v a b, 0 ≤ a ∧ 0 ≤ b ∨ a ≤ 0 ∧ b ≤ 0 →
      weightedPercentile ((v, a) :: (v, b) :: values) percentile =
        weightedPercentile ((v, a + b) :: values) percentile := by
  refine ⟨?_, fun v hv => ?_, fun values' hperm => ?_, fun v a b hsign => ?_⟩
  · rw [weightedPercentile_eq_none_iff hpos hle]
    simp only [not_exists, not_and, not_lt]
  · have hquantile := (weightedPercentile_eq_some_iff hpos hle).1 hv
    rw [mul_comm percentile]
    exact ⟨hquantile.occurs, hquantile.reached, hquantile.before⟩
  · exact weightedPercentile_congr hpos hle fun p => weightWhere_perm hperm
  · exact weightedPercentile_congr hpos hle fun p => (weightWhere_merge hsign v values).symm

theorem weightedPercentile_spec_two_values : (0 : ℚ) < 95 / 100 ∧ (95 / 100 : ℚ) ≤ 1 ∧
    (weightedPercentile [(1, 3), (2, 1)] (95 / 100) = none ↔ ¬ ∃ x ∈ [((1 : ℚ), (3 : ℚ)), (2, 1)], 0 < x.2) :=
  ⟨by norm_num, by norm_num, (weightedPercentile_spec (by norm_num) (by norm_num) [(1, 3), (2, 1)]).1⟩

/-- A weight that is not positive takes nothing away from another one of its value. -/
theorem not_weightedPercentile_merge : ¬ ∀ percentile : ℚ, 0 < percentile → percentile ≤ 1 →
    ∀ (values : List (ℚ × ℚ)) (v a b : ℚ), weightedPercentile ((v, a) :: (v, b) :: values) percentile =
      weightedPercentile ((v, a + b) :: values) percentile := by
  intro h
  have hpos : (0 : ℚ) < 1 / 2 := by norm_num
  have hle : (1 / 2 : ℚ) ≤ 1 := by norm_num
  have hsplit : weightedPercentile [(1, 3), (1, -2), (2, 2)] (1 / 2) = some 1 := by
    rw [weightedPercentile_eq_some_iff hpos hle]
    exact ⟨by decide +kernel, by decide +kernel⟩
  have hmerged : weightedPercentile [(1, 3 + -2), (2, 2)] (1 / 2) = some 2 := by
    rw [weightedPercentile_eq_some_iff hpos hle]
    exact ⟨by decide +kernel, by decide +kernel⟩
  have heq := h (1 / 2) hpos hle [(2, 2)] 1 3 (-2)
  rw [hsplit, hmerged] at heq
  exact absurd (Option.some.inj heq) (by norm_num)

end Monitoring
