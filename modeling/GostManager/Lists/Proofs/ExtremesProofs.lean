import Mathlib.Data.List.Basic
import Mathlib.Order.Lattice
import Mathlib.Order.MinMax

/-!
# Proofs: least and greatest elements of lists

The least element depends on the members only, and the least element of all is the least of the least
elements of the parts. The same for the greatest.
-/

namespace Lists

variable {α : Type} [LinearOrder α] {l l' : List α} {ls : List (List α)}

theorem min?_congr (h : ∀ a, a ∈ l ↔ a ∈ l') : l.min? = l'.min? := by
  refine Option.ext fun a => ?_
  rw [List.min?_eq_some_iff, List.min?_eq_some_iff]
  simp only [h]

theorem max?_congr (h : ∀ a, a ∈ l ↔ a ∈ l') : l.max? = l'.max? :=
  @min?_congr αᵒᵈ _ l l' h

/-- The least element is at most any other. -/
theorem exists_min?_le {a : α} (h : a ∈ l) : ∃ m, l.min? = some m ∧ m ≤ a := by
  obtain ⟨m, hm⟩ := Option.isSome_iff_exists.1 (List.isSome_min?_of_mem h)
  exact ⟨m, hm, (List.min?_eq_some_iff.1 hm).2 a h⟩

theorem exists_le_max? {a : α} (h : a ∈ l) : ∃ m, l.max? = some m ∧ a ≤ m :=
  @exists_min?_le αᵒᵈ _ l a h

/-- One more element. -/
theorem min?_concat (a : α) : (l ++ [a]).min? = some (l.min?.elim a (min · a)) := by
  cases l with
  | nil => rfl
  | cons b l =>
    rw [List.cons_append, List.min?_cons', List.min?_cons', List.foldl_append, List.foldl_cons,
      List.foldl_nil, Option.elim_some]

theorem max?_concat (a : α) : (l ++ [a]).max? = some (l.max?.elim a (max · a)) :=
  @min?_concat αᵒᵈ _ l a

theorem min?_flatten : ls.flatten.min? = (ls.filterMap List.min?).min? := by
  refine Option.ext fun a => ?_
  rw [List.min?_eq_some_iff, List.min?_eq_some_iff]
  constructor
  · rintro ⟨hmem, hle⟩
    obtain ⟨l, hl, ha⟩ := List.mem_flatten.1 hmem
    have hmin : l.min? = some a :=
      List.min?_eq_some_iff.2 ⟨ha, fun b hb => hle b (List.mem_flatten.2 ⟨l, hl, hb⟩)⟩
    refine ⟨List.mem_filterMap.2 ⟨l, hl, hmin⟩, fun b hb => ?_⟩
    obtain ⟨l', hl', hb⟩ := List.mem_filterMap.1 hb
    exact hle b (List.mem_flatten.2 ⟨l', hl', (List.min?_eq_some_iff.1 hb).1⟩)
  · rintro ⟨hmem, hle⟩
    obtain ⟨l, hl, ha⟩ := List.mem_filterMap.1 hmem
    refine ⟨List.mem_flatten.2 ⟨l, hl, (List.min?_eq_some_iff.1 ha).1⟩, fun b hb => ?_⟩
    obtain ⟨l', hl', hb⟩ := List.mem_flatten.1 hb
    obtain ⟨c, hc⟩ := Option.isSome_iff_exists.1 (List.isSome_min?_of_mem hb)
    exact (hle c (List.mem_filterMap.2 ⟨l', hl', hc⟩)).trans ((List.min?_eq_some_iff.1 hc).2 b hb)

theorem max?_flatten : ls.flatten.max? = (ls.filterMap List.max?).max? :=
  @min?_flatten αᵒᵈ _ ls

/-- The greatest element, or a default that is at most any element. -/
theorem getD_max?_eq_iff {d m : α} (h : ∀ a ∈ l, d ≤ a) :
    l.max?.getD d = m ↔ (m ∈ l ∨ m = d) ∧ d ≤ m ∧ ∀ a ∈ l, a ≤ m := by
  cases hmax : l.max? with
  | none =>
    obtain rfl := List.max?_eq_none_iff.1 hmax
    simp only [Option.getD_none, List.not_mem_nil, false_or]
    exact ⟨fun hm => ⟨hm.symm, hm.le, nofun⟩, fun hm => hm.1.symm⟩
  | some b =>
    obtain ⟨hmem, hle⟩ := List.max?_eq_some_iff.1 hmax
    rw [Option.getD_some]
    constructor
    · rintro rfl
      exact ⟨.inl hmem, h b hmem, hle⟩
    · rintro ⟨hm, hd, hm'⟩
      refine le_antisymm (hm' b hmem) ?_
      rcases hm with hm | rfl
      · exact hle m hm
      · exact h b hmem

end Lists
