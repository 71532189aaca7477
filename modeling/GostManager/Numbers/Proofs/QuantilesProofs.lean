import Mathlib.Algebra.Order.BigOperators.Group.List
import GostManager.Numbers.Quantiles

/-!
# Proofs: quantiles

A quantile is unique, occurs with a positive weight, and depends only on the weights of the properties. In a list
that is sorted by the values it is where the sum of the weights passes the target.
-/

namespace Numbers

variable {α K : Type} [AddCommGroup K] [LinearOrder K] {p q : α → Prop} [DecidablePred p] [DecidablePred q]
  {values values' : List (α × K)} {target : K} {v v' : α}

/-! ## Weights -/

@[simp] theorem weightWhere_nil : weightWhere p ([] : List (α × K)) = 0 := rfl

theorem weightWhere_cons (x : α × K) (values : List (α × K)) :
    weightWhere p (x :: values) = (if p x.1 then max x.2 0 else 0) + weightWhere p values := by
  rw [weightWhere, List.map_cons, List.sum_cons]
  rfl

theorem totalWeight_cons (x : α × K) (values : List (α × K)) :
    totalWeight (x :: values) = max x.2 0 + totalWeight values := by
  rw [totalWeight, List.map_cons, List.sum_cons]
  rfl

theorem weightWhere_append (values values' : List (α × K)) :
    weightWhere p (values ++ values') = weightWhere p values + weightWhere p values' := by
  rw [weightWhere, List.map_append, List.sum_append]
  rfl

theorem weightWhere_perm (h : values.Perm values') : weightWhere p values = weightWhere p values' :=
  (h.map _).sum_eq

theorem totalWeight_perm (h : values.Perm values') : totalWeight values = totalWeight values' :=
  (h.map _).sum_eq

theorem weightWhere_of_forall (h : ∀ x ∈ values, p x.1) : weightWhere p values = totalWeight values := by
  unfold weightWhere totalWeight
  rw [List.map_congr_left]
  intro x hx
  rw [if_pos (h x hx)]

theorem weightWhere_of_forall_not (h : ∀ x ∈ values, ¬ p x.1) : weightWhere p values = 0 := by
  apply List.sum_eq_zero
  intro w hw
  obtain ⟨x, hx, rfl⟩ := List.mem_map.1 hw
  exact if_neg (h x hx)

/-- Weights that are not positive can be left out. -/
theorem weightWhere_filter (values : List (α × K)) :
    weightWhere p (values.filter fun x => 0 < x.2) = weightWhere p values := by
  induction values with
  | nil => rfl
  | cons x values ih =>
    rw [weightWhere_cons, ← ih]
    by_cases hx : 0 < x.2
    · rw [List.filter_cons, if_pos (decide_eq_true hx), weightWhere_cons]
    · rw [List.filter_cons, if_neg (by simpa using hx), max_eq_right (not_lt.1 hx), ite_self, zero_add]

theorem sum_eq_totalWeight (h : ∀ x ∈ values, 0 < x.2) : (values.map (·.2)).sum = totalWeight values := by
  unfold totalWeight
  rw [List.map_congr_left]
  intro x hx
  exact (max_eq_left (h x hx).le).symm

theorem totalWeight_eq_weightWhere (values : List (α × K)) : totalWeight values = weightWhere (fun _ => True) values :=
  (weightWhere_of_forall fun _ _ => trivial).symm

section Ordered

variable [IsOrderedAddMonoid K]

theorem weightWhere_nonneg : 0 ≤ weightWhere p values := by
  apply List.sum_nonneg
  intro w hw
  obtain ⟨x, -, rfl⟩ := List.mem_map.1 hw
  split
  · exact le_max_right _ _
  · exact le_rfl

theorem weightWhere_mono (h : ∀ a, p a → q a) (values : List (α × K)) :
    weightWhere p values ≤ weightWhere q values := by
  apply List.sum_le_sum
  intro x _
  by_cases hp : p x.1
  · rw [if_pos hp, if_pos (h _ hp)]
  · rw [if_neg hp]
    split
    · exact le_max_right _ _
    · exact le_rfl

theorem weightWhere_le_total (p : α → Prop) [DecidablePred p] (values : List (α × K)) :
    weightWhere p values ≤ totalWeight values := by
  rw [totalWeight_eq_weightWhere]
  exact weightWhere_mono (fun _ _ => trivial) values

theorem totalWeight_pos (h : ∀ x ∈ values, 0 < x.2) (hne : values ≠ []) : 0 < totalWeight values := by
  rw [← sum_eq_totalWeight h]
  apply List.sum_pos
  · intro w hw
    obtain ⟨x, hx, rfl⟩ := List.mem_map.1 hw
    exact h x hx
  · exact fun heq => hne (List.map_eq_nil_iff.1 heq)

/-- Equal values can be merged, if their weights have one sign. -/
theorem weightWhere_merge {a b : K} (h : 0 ≤ a ∧ 0 ≤ b ∨ a ≤ 0 ∧ b ≤ 0) (v : α) (values : List (α × K)) :
    weightWhere p ((v, a + b) :: values) = weightWhere p ((v, a) :: (v, b) :: values) := by
  have hmax : max (a + b) 0 = max a 0 + max b 0 := by
    rcases h with ⟨ha, hb⟩ | ⟨ha, hb⟩
    · rw [max_eq_left ha, max_eq_left hb, max_eq_left (add_nonneg ha hb)]
    · rw [max_eq_right ha, max_eq_right hb, max_eq_right (add_nonpos ha hb), add_zero]
  rw [weightWhere_cons, weightWhere_cons, weightWhere_cons, hmax]
  by_cases hp : p v
  · rw [if_pos hp, if_pos hp, if_pos hp, add_assoc]
  · rw [if_neg hp, if_neg hp, if_neg hp, zero_add, zero_add]

end Ordered

/-! ## Quantiles -/

variable [LinearOrder α]

/-- Which value is the quantile depends only on the weights of the properties. -/
theorem isQuantile_congr (h : ∀ (p : α → Prop) [DecidablePred p], weightWhere p values = weightWhere p values') :
    IsQuantile values target v ↔ IsQuantile values' target v := by
  constructor
  · rintro ⟨hreached, hbefore⟩
    exact ⟨by rwa [← h], by rwa [← h]⟩
  · rintro ⟨hreached, hbefore⟩
    exact ⟨by rwa [h], by rwa [h]⟩

/-- A quantile occurs with a positive weight. -/
theorem IsQuantile.occurs (h : IsQuantile values target v) : ∃ w, 0 < w ∧ (v, w) ∈ values := by
  by_contra hnone
  have heq : weightWhere (· ≤ v) values = weightWhere (· < v) values := by
    unfold weightWhere
    rw [List.map_congr_left]
    intro x hx
    by_cases hv : x.1 = v
    · have hw : x.2 ≤ 0 := by
        by_contra hpos
        exact hnone ⟨x.2, not_le.1 hpos, hv ▸ hx⟩
      rw [max_eq_right hw, ite_self, ite_self]
    · have hiff : x.1 ≤ v ↔ x.1 < v := ⟨fun hle => lt_of_le_of_ne hle hv, le_of_lt⟩
      rw [if_congr hiff rfl rfl]
  have hbefore := h.before
  rw [← heq] at hbefore
  exact absurd h.reached (not_le.2 hbefore)

variable [IsOrderedAddMonoid K]

theorem IsQuantile.le (h : IsQuantile values target v) (h' : IsQuantile values target v') : v ≤ v' := by
  by_contra hlt
  have hmono : weightWhere (· ≤ v') values ≤ weightWhere (· < v) values :=
    weightWhere_mono (fun _ hle => hle.trans_lt (not_le.1 hlt)) values
  exact absurd (h'.reached.trans hmono) (not_le.2 h.before)

theorem IsQuantile.unique (h : IsQuantile values target v) (h' : IsQuantile values target v') : v = v' :=
  le_antisymm (h.le h') (h'.le h)

/-- Where the sum of the weights passes the target, in a list that is sorted by the values. -/
theorem isQuantile_of_sorted {before after : List (α × K)} {w : K}
    (hsorted : (before ++ (v, w) :: after).Pairwise fun x y => x.1 ≤ y.1)
    (hbefore : totalWeight before < target) (hreached : target ≤ totalWeight before + max w 0) :
    IsQuantile (before ++ (v, w) :: after) target v := by
  obtain ⟨-, hrest, hacross⟩ := List.pairwise_append.1 hsorted
  obtain ⟨hafter, -⟩ := List.pairwise_cons.1 hrest
  constructor
  · have hall : weightWhere (· ≤ v) before = totalWeight before :=
      weightWhere_of_forall fun x hx => hacross x hx (v, w) List.mem_cons_self
    have hnonneg : 0 ≤ weightWhere (· ≤ v) after := weightWhere_nonneg
    rw [weightWhere_append, weightWhere_cons, if_pos le_rfl, hall, ← add_assoc]
    exact hreached.trans (le_add_of_nonneg_right hnonneg)
  · have hnone : weightWhere (· < v) after = 0 :=
      weightWhere_of_forall_not fun x hx => not_lt.2 (hafter x hx)
    rw [weightWhere_append, weightWhere_cons, if_neg (lt_irrefl v), hnone, add_zero, add_zero]
    exact (weightWhere_le_total _ before).trans_lt hbefore

end Numbers
