import GostManager.Lists.Marked

/-!
# Proofs: lists with marked elements
-/

namespace Lists

variable {α : Type} {p : α → Bool} {l l' : List α} {n i : Nat} {a : α}

/-! ## Positions -/

@[simp] theorem marked_nil : marked p n [] = [] := rfl

theorem marked_cons : marked p n (a :: l) =
    (if p a then [(n, a)] else []) ++ marked p (n + 1) l := by
  by_cases ha : p a = true <;> simp [marked, ha]

theorem marked_append : marked p n (l ++ l') = marked p n l ++ marked p (n + l.length) l' := by
  induction l generalizing n with
  | nil => simp
  | cons a l ih =>
    rw [List.cons_append, marked_cons, marked_cons, ih, List.append_assoc, List.length_cons]
    congr 3
    omega

/-- A position is in the list, and a marked element stands there. -/
theorem of_mem_marked (h : (i, a) ∈ marked p n l) :
    n ≤ i ∧ i < n + l.length ∧ l[i - n]? = some a ∧ p a = true := by
  induction l generalizing n with
  | nil => simp at h
  | cons b l ih =>
    rw [marked_cons, List.mem_append] at h
    rcases h with h | h
    · by_cases hb : p b = true
      · simp only [hb, if_true, List.mem_singleton, Prod.mk.injEq] at h
        obtain ⟨rfl, rfl⟩ := h
        simp [hb]
      · simp [hb] at h
    · obtain ⟨hle, hlt, hget, ha⟩ := ih h
      refine ⟨by omega, by simp only [List.length_cons]; omega, ?_, ha⟩
      have hi : i - n = i - (n + 1) + 1 := by omega
      rw [hi, List.getElem?_cons_succ]
      exact hget

theorem mem_of_mem_marked (h : (i, a) ∈ marked p n l) : a ∈ l :=
  List.mem_of_getElem? (of_mem_marked h).2.2.1

/-- Moving the list moves the positions. -/
theorem marked_add {k : Nat} :
    marked p (n + k) l = (marked p n l).map fun x => (x.1 + k, x.2) := by
  induction l generalizing n with
  | nil => rfl
  | cons a l ih =>
    have hn : n + k + 1 = n + 1 + k := by omega
    rw [marked_cons, marked_cons, List.map_append, hn, ih]
    by_cases ha : p a = true <;> simp [ha]

/-- Positions ascend. -/
theorem pairwise_marked : (marked p n l).Pairwise fun x y => x.1 < y.1 := by
  induction l generalizing n with
  | nil => exact .nil
  | cons a l ih =>
    rw [marked_cons]
    by_cases ha : p a = true
    · simp only [ha, if_true, List.singleton_append, List.pairwise_cons]
      refine ⟨fun x hx => ?_, ih⟩
      obtain ⟨hle, -⟩ := of_mem_marked hx
      omega
    · simpa [ha] using ih

theorem marked_of_all (h : ∀ a ∈ l, p a = true) : marked p n l = enumerate n l := by
  induction l generalizing n with
  | nil => rfl
  | cons a l ih =>
    have hl : marked p (n + 1) l = enumerate (n + 1) l := ih fun b hb => h b (.tail _ hb)
    rw [marked_cons, h a (.head _), hl]
    rfl

theorem marked_of_none (h : ∀ a ∈ l, p a = false) : marked p n l = [] := by
  induction l generalizing n with
  | nil => rfl
  | cons a l ih =>
    rw [marked_cons, h a (.head _), ih fun b hb => h b (.tail _ hb)]
    rfl

theorem map_snd_marked : (marked p n l).map (·.2) = l.filter p := by
  induction l generalizing n with
  | nil => rfl
  | cons a l ih =>
    rw [marked_cons, List.map_append, ih, List.filter_cons]
    by_cases ha : p a = true <;> simp [ha]

/-- Marking more elements marks the same ones if all of them were marked before. -/
theorem marked_of_imp {q : α → Bool} (hpq : ∀ a ∈ l, p a = true → q a = true)
    (hqp : ∀ x ∈ marked q n l, p x.2 = true) : marked q n l = marked p n l := by
  induction l generalizing n with
  | nil => rfl
  | cons a l ih =>
    rw [marked_cons] at hqp
    have hl : marked q (n + 1) l = marked p (n + 1) l := by
      refine ih (fun b hb => hpq b (.tail _ hb)) fun x hx => ?_
      exact hqp x (List.mem_append.2 (.inr hx))
    have ha : q a = p a := by
      by_cases hp : p a = true
      · rw [hp, hpq a (.head _) hp]
      · by_cases hq : q a = true
        · have hmem : (n, a) ∈ (if q a = true then [(n, a)] else []) ++ marked q (n + 1) l := by
            simp [hq]
          exact absurd (hqp _ hmem) hp
        · simp [hp, hq]
    rw [marked_cons, marked_cons, hl, ha]

/-! ## The rest -/

@[simp] theorem unmarked_nil : unmarked p ([] : List α) = [] := rfl

theorem unmarked_cons : unmarked p (a :: l) = (if p a then [] else [a]) ++ unmarked p l := by
  unfold unmarked
  by_cases ha : p a = true <;> simp [ha]

theorem unmarked_append : unmarked p (l ++ l') = unmarked p l ++ unmarked p l' :=
  List.filter_append ..

theorem unmarked_of_all (h : ∀ a ∈ l, p a = true) : unmarked p l = [] :=
  List.filter_eq_nil_iff.2 fun a ha => by simp [h a ha]

theorem unmarked_unmarked : unmarked p (unmarked p l) = unmarked p l := by
  simp [unmarked]

theorem of_mem_unmarked (h : a ∈ unmarked p l) : a ∈ l ∧ p a = false := by
  simpa [unmarked] using h

/-- Inserting a marked element leaves the rest. -/
theorem unmarked_insertIdx (ha : p a = true) : unmarked p (l.insertIdx i a) = unmarked p l := by
  induction l generalizing i with
  | nil =>
    cases i with
    | zero => simp [unmarked, ha]
    | succ i => rfl
  | cons b l ih =>
    cases i with
    | zero => simp [unmarked, ha]
    | succ i => rw [List.insertIdx_succ_cons, unmarked_cons, unmarked_cons, ih]

/-- So does deleting one. -/
theorem unmarked_eraseIdx (hi : l[i]? = some a) (ha : p a = true) :
    unmarked p (l.eraseIdx i) = unmarked p l := by
  induction l generalizing i with
  | nil => rfl
  | cons b l ih =>
    cases i with
    | zero =>
      obtain rfl : b = a := by simpa using hi
      simp [unmarked, ha]
    | succ i =>
      rw [List.eraseIdx_cons_succ, unmarked_cons, unmarked_cons]
      rw [ih (by simpa using hi)]

theorem of_mem_insertIdx {b : α} (h : b ∈ l.insertIdx i a) : b = a ∨ b ∈ l := by
  by_cases hi : i ≤ l.length
  · exact (List.mem_insertIdx hi).1 h
  · rw [List.insertIdx_of_length_lt (by omega)] at h
    exact .inr h

theorem insertIdx_append {k : Nat} :
    (l ++ l').insertIdx (l.length + k) a = l ++ l'.insertIdx k a := by
  induction l with
  | nil => simp
  | cons b l ih =>
    have hk : (b :: l).length + k = l.length + k + 1 := by
      rw [List.length_cons]
      omega
    rw [hk, List.cons_append, List.insertIdx_succ_cons, ih]
    rfl

/-- A marked element that is inserted behind the others that are marked is marked last. -/
theorem marked_insertIdx (hlast : ∀ x ∈ marked p n l, x.1 < n + i) (hi : i ≤ l.length) (ha : p a = true) :
    marked p n (l.insertIdx i a) = marked p n l ++ [(n + i, a)] := by
  induction l generalizing n i with
  | nil =>
    obtain rfl : i = 0 := Nat.le_zero.mp hi
    simp [marked_cons, ha]
  | cons b l ih =>
    cases i with
    | zero =>
      have hnone : marked p n (b :: l) = [] := by
        rw [List.eq_nil_iff_forall_not_mem]
        rintro ⟨j, c⟩ hmem
        have hle := (of_mem_marked hmem).1
        have hlt := hlast _ hmem
        simp only [Nat.add_zero] at hlt
        omega
      rw [List.insertIdx_zero, marked_cons, if_pos ha, marked_add, hnone]
      rfl
    | succ i =>
      have htail : ∀ x ∈ marked p (n + 1) l, x.1 < n + 1 + i := by
        intro x hx
        have hlt := hlast x (by rw [marked_cons]; exact List.mem_append_right _ hx)
        omega
      have hposition : n + 1 + i = n + (i + 1) := by omega
      rw [List.insertIdx_succ_cons, marked_cons, marked_cons, ih htail (Nat.le_of_succ_le_succ hi),
        List.append_assoc, hposition]

/-- Deleting a marked element by its value leaves the rest. -/
theorem unmarked_erase [BEq α] [LawfulBEq α] (ha : p a = true) : unmarked p (l.erase a) = unmarked p l := by
  rw [unmarked, ← List.erase_filter]
  exact List.erase_of_not_mem fun hmem => by simp [ha] at hmem

/-! ## The list is known from both -/

/-- An element that comes later stands at a later position. -/
theorem ne_of_marked_later {x : List (Nat × α)} (h : marked p (n + 1) l = (n, a) :: x) : False := by
  have hmem : (n, a) ∈ marked p (n + 1) l := by
    rw [h]
    exact .head _
  have hle := (of_mem_marked hmem).1
  omega

/-- The positions of the marked elements together with the other elements determine a list. -/
theorem eq_of_marked_eq (hm : marked p n l = marked p n l') (hu : unmarked p l = unmarked p l') :
    l = l' := by
  induction l generalizing n l' with
  | nil =>
    cases l' with
    | nil => rfl
    | cons b l' =>
      by_cases hb : p b = true
      · simp [marked_cons, hb] at hm
      · simp [unmarked_cons, hb] at hu
  | cons a l ih =>
    cases l' with
    | nil =>
      by_cases ha : p a = true
      · simp [marked_cons, ha] at hm
      · simp [unmarked_cons, ha] at hu
    | cons b l' =>
      rw [marked_cons, marked_cons] at hm
      rw [unmarked_cons, unmarked_cons] at hu
      by_cases ha : p a = true <;> by_cases hb : p b = true
      · simp only [ha, hb, if_true, List.singleton_append, List.cons.injEq, Prod.mk.injEq, true_and,
          List.nil_append] at hm hu
        rw [hm.1, ih hm.2 hu]
      · simp only [ha, hb, if_true, Bool.false_eq_true, if_false, List.singleton_append,
          List.nil_append] at hm
        exact (ne_of_marked_later hm.symm).elim
      · simp only [ha, hb, if_true, Bool.false_eq_true, if_false, List.singleton_append,
          List.nil_append] at hm
        exact (ne_of_marked_later hm).elim
      · simp only [ha, hb, Bool.false_eq_true, if_false, List.singleton_append, List.nil_append,
          List.cons.injEq] at hm hu
        rw [hu.1, ih hm hu.2]

end Lists
