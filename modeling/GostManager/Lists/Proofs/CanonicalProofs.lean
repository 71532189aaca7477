import GostManager.Lists.Canonical

/-!
# Proofs: canonical lists

A canonical list has the members of the list that it is made of, and lists with the same members have the same
canonical list.
-/

namespace Lists

variable {α : Type} [LinearOrder α] {a : α} {as bs : List α}

@[simp] theorem mem_canonical : a ∈ canonical as ↔ a ∈ as :=
  (List.mem_insertionSort (· ≤ ·)).trans List.mem_dedup

theorem nodup_canonical : (canonical as).Nodup :=
  (List.perm_insertionSort (· ≤ ·) as.dedup).nodup_iff.2 (List.nodup_dedup as)

theorem sortedLT_canonical : (canonical as).SortedLT :=
  List.SortedLE.sortedLT_of_nodup (List.pairwise_insertionSort (· ≤ ·) as.dedup).sortedLE nodup_canonical

/-- A list in ascending order is known by its members. -/
theorem eq_of_sortedLT (has : as.SortedLT) (hbs : bs.SortedLT) (h : ∀ a, a ∈ as ↔ a ∈ bs) : as = bs :=
  List.Pairwise.eq_of_mem_iff has.pairwise hbs.pairwise h

theorem canonical_congr (h : ∀ a, a ∈ as ↔ a ∈ bs) : canonical as = canonical bs :=
  eq_of_sortedLT sortedLT_canonical sortedLT_canonical fun a => by rw [mem_canonical, mem_canonical, h]

theorem canonical_eq_self (h : as.SortedLT) : canonical as = as :=
  eq_of_sortedLT sortedLT_canonical h fun _ => mem_canonical

theorem length_canonical_le : (canonical as).length ≤ as.length := by
  unfold canonical
  rw [List.length_insertionSort]
  exact (List.dedup_sublist as).length_le

end Lists
