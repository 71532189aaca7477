import Mathlib.Algebra.Order.Floor.Ring
import Mathlib.Algebra.Ring.Rat
import Mathlib.Data.Int.ConditionallyCompleteOrder
import Mathlib.Data.Int.Interval
import Mathlib.Data.List.Chain
import Mathlib.Data.Set.Card
import Mathlib.Tactic.Linarith
import GostManager.Numbers.Grids

/-!
# Proofs: grids

What the least later point with a property is, how many later points are before a bound, and that points on the
grids of each other are on one grid.
-/

namespace Numbers

variable {K : Type} [Field K] {start interval x y : K} {xs : List K} {k : ℤ}

theorem exists_nat_of_mem_laterPoints (hmem : x ∈ laterPoints start interval) :
    ∃ k : ℕ, x = start + k * interval := by
  obtain ⟨k, hk, rfl⟩ := hmem
  refine ⟨k.toNat, ?_⟩
  rw [← Int.cast_natCast k.toNat, Int.toNat_of_nonneg (by omega)]

/-- A later point of a later point is a later point. -/
theorem mem_laterPoints_trans (hx : x ∈ laterPoints start interval) (hy : y ∈ laterPoints x interval) :
    y ∈ laterPoints start interval := by
  obtain ⟨j, hj, rfl⟩ := hx
  obtain ⟨k, hk, rfl⟩ := hy
  refine ⟨j + k, by omega, ?_⟩
  rw [Int.cast_add, add_mul, add_assoc]

/-- Points of which each is on the later grid of the one before it are on the grid of the first one. -/
theorem mem_laterPoints_of_isChain (hchain : (start :: xs).IsChain fun x y => y ∈ laterPoints x interval)
    (hmem : x ∈ xs) : x ∈ laterPoints start interval := by
  induction xs generalizing start with
  | nil => cases hmem
  | cons next xs ih =>
    obtain ⟨hnext, hchain⟩ := List.isChain_cons_cons.1 hchain
    rcases List.mem_cons.1 hmem with rfl | hmem
    · exact hnext
    · exact mem_laterPoints_trans hnext (ih hchain hmem)

variable [LinearOrder K] [IsStrictOrderedRing K]

theorem point_le_point (h : 0 < interval) {j : ℤ} (hle : j ≤ k) : start + j * interval ≤ start + k * interval := by
  have hcast : (j : K) ≤ k := Int.cast_le.2 hle
  have hmul := mul_le_mul_of_nonneg_right hcast h.le
  linarith

theorem point_lt_point (h : 0 < interval) {j : ℤ} : start + j * interval < start + k * interval ↔ j < k := by
  rw [add_lt_add_iff_left, mul_lt_mul_iff_left₀ h, Int.cast_lt]

theorem lt_of_mem_laterPoints (h : 0 < interval) (hmem : x ∈ laterPoints start interval) : start < x := by
  obtain ⟨k, hk, rfl⟩ := hmem
  have hcast : (1 : K) ≤ k := by exact_mod_cast hk
  have hmul := mul_pos (lt_of_lt_of_le one_pos hcast) h
  linarith

/-- The least later point with a property that later points keep is the first one, or the one after a point
without the property. -/
theorem isLeast_laterPoints {p : K → Prop} (hp : ∀ x y, x ≤ y → p x → p y) (h : 0 < interval) (hk : 1 ≤ k)
    (hpoint : p (start + k * interval)) (hbefore : k = 1 ∨ ¬ p (start + (k - 1) * interval)) :
    IsLeast {x ∈ laterPoints start interval | p x} (start + k * interval) := by
  constructor
  · exact ⟨⟨k, hk, rfl⟩, hpoint⟩
  · rintro _ ⟨⟨j, hj, rfl⟩, hpj⟩
    apply point_le_point h
    rcases hbefore with rfl | hbefore
    · exact hj
    · by_contra hlt
      apply hbefore
      apply hp _ _ _ hpj
      have hle : start + j * interval ≤ start + ((k - 1 : ℤ) : K) * interval := point_le_point h (by omega)
      rwa [Int.cast_sub, Int.cast_one] at hle

/-- The later points before one of them. -/
theorem laterPoints_lt_eq_image (h : 0 < interval) :
    {x ∈ laterPoints start interval | x < start + k * interval} =
      (fun j : ℤ => start + (j : K) * interval) '' Set.Ico 1 k := by
  ext x
  constructor
  · rintro ⟨⟨j, hj, rfl⟩, hlt⟩
    exact ⟨j, ⟨hj, (point_lt_point h).1 hlt⟩, rfl⟩
  · rintro ⟨j, ⟨hj, hlt⟩, rfl⟩
    exact ⟨⟨j, hj, rfl⟩, (point_lt_point h).2 hlt⟩

theorem ncard_laterPoints_lt (h : 0 < interval) (hk : 1 ≤ k) :
    ({x ∈ laterPoints start interval | x < start + k * interval}.ncard : ℤ) = k - 1 := by
  have hinjective : Function.Injective fun j : ℤ => start + (j : K) * interval := by
    intro i j heq
    have hmul := mul_right_cancel₀ h.ne' (add_left_cancel heq)
    exact_mod_cast hmul
  rw [laterPoints_lt_eq_image h, Set.ncard_image_of_injective _ hinjective, ← Finset.coe_Ico, Set.ncard_coe_finset,
    Int.card_Ico, Int.toNat_of_nonneg (by omega)]

theorem laterPoints_lt_eq_empty_iff (h : 0 < interval) (hk : 1 ≤ k) :
    {x ∈ laterPoints start interval | x < start + k * interval} = ∅ ↔ k = 1 := by
  rw [laterPoints_lt_eq_image h, Set.image_eq_empty, Set.Ico_eq_empty_iff]
  omega

/-- Points of which each is on the later grid of the one before it are increasing. -/
theorem pairwise_lt_of_isChain (h : 0 < interval)
    (hchain : xs.IsChain fun x y => y ∈ laterPoints x interval) : xs.Pairwise (· < ·) :=
  (hchain.imp fun _ _ hmem => lt_of_mem_laterPoints h hmem).pairwise

end Numbers
