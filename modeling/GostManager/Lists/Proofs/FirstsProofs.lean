import GostManager.Lists.Firsts

/-!
# Proofs: first elements

Which elements are kept, and that an element hides those with its key that come after it.
-/

namespace Lists

variable {α κ : Type} {key : α → Option κ} {l l' before after after' : List α} {seen : List κ}
  {a b : α} {k : κ}

theorem isFirst_cons : IsFirst key k (b :: l) a ↔ (b = a ∧ key a = some k) ∨ (key b ≠ some k ∧ IsFirst key k l a) := by
  constructor
  · rintro ⟨before, after, hl, hkey, hbefore⟩
    cases before with
    | nil =>
      cases hl
      exact .inl ⟨rfl, hkey⟩
    | cons c before =>
      cases hl
      rw [List.forall_mem_cons] at hbefore
      exact .inr ⟨hbefore.1, before, after, rfl, hkey, hbefore.2⟩
  · rintro (⟨rfl, hkey⟩ | ⟨hb, before, after, rfl, hkey, hbefore⟩)
    · exact ⟨[], l, rfl, hkey, fun _ hmem => nomatch hmem⟩
    · exact ⟨b :: before, after, rfl, hkey, List.forall_mem_cons.mpr ⟨hb, hbefore⟩⟩

theorem isFirst_nil : ¬ IsFirst key k [] a := by
  rintro ⟨before, after, hl, _⟩
  cases before with
  | nil => cases hl
  | cons c before => cases hl

/-- The first element of a part of a list. -/
theorem isFirst_filter {p : α → Bool} : IsFirst key k (l.filter p) a ↔
    ∃ before after, l = before ++ a :: after ∧ p a = true ∧ key a = some k ∧
      ∀ b ∈ before, p b = true → key b ≠ some k := by
  constructor
  · rintro ⟨kept, rest, hl, hkey, hkept⟩
    obtain ⟨before, l', rfl, rfl, hl'⟩ := List.filter_eq_append_iff.mp hl
    obtain ⟨skipped, after, rfl, hskipped, ha, _⟩ := List.filter_eq_cons_iff.mp hl'
    refine ⟨before ++ skipped, after, (List.append_assoc _ _ _).symm, ha, hkey, fun b hb hp => ?_⟩
    rcases List.mem_append.mp hb with hb | hb
    · exact hkept b (List.mem_filter.mpr ⟨hb, hp⟩)
    · exact absurd hp (hskipped b hb)
  · rintro ⟨before, after, rfl, ha, hkey, hbefore⟩
    refine ⟨before.filter p, after.filter p, ?_, hkey, fun b hb => ?_⟩
    · rw [List.filter_append, List.filter_cons_of_pos ha]
    · exact hbefore b (List.mem_of_mem_filter hb) (List.mem_filter.mp hb).2

variable [DecidableEq κ]

/-- What is kept: elements without a key, and the first with each key that was not seen before. -/
theorem mem_firstsFrom : a ∈ firstsFrom key seen l ↔
    (a ∈ l ∧ key a = none) ∨ ∃ k, k ∉ seen ∧ IsFirst key k l a := by
  induction l generalizing seen with
  | nil =>
    simp [firstsFrom, isFirst_nil]
  | cons b l ih =>
    unfold firstsFrom
    cases hb : key b with
    | none =>
      simp only [List.mem_cons, ih, isFirst_cons, hb]
      constructor
      · rintro (rfl | ⟨hmem, ha⟩ | ⟨k, hk, hfirst⟩)
        · exact .inl ⟨.inl rfl, hb⟩
        · exact .inl ⟨.inr hmem, ha⟩
        · exact .inr ⟨k, hk, .inr ⟨fun h => (nomatch h), hfirst⟩⟩
      · rintro (⟨rfl | hmem, ha⟩ | ⟨k, hk, ⟨rfl, ha⟩ | ⟨_, hfirst⟩⟩)
        · exact .inl rfl
        · exact .inr (.inl ⟨hmem, ha⟩)
        · exact .inl rfl
        · exact .inr (.inr ⟨k, hk, hfirst⟩)
    | some k₁ =>
      simp only [isFirst_cons, hb]
      split_ifs with hseen
      · rw [ih]
        constructor
        · rintro (⟨hmem, ha⟩ | ⟨k, hk, hfirst⟩)
          · exact .inl ⟨List.mem_cons_of_mem _ hmem, ha⟩
          · exact .inr ⟨k, hk, .inr ⟨fun h => hk (Option.some.inj h ▸ hseen), hfirst⟩⟩
        · rintro (⟨hmem, ha⟩ | ⟨k, hk, ⟨rfl, ha⟩ | ⟨_, hfirst⟩⟩)
          · rcases List.mem_cons.mp hmem with rfl | hmem
            · exact absurd (hb.symm.trans ha) (fun h => nomatch h)
            · exact .inl ⟨hmem, ha⟩
          · exact absurd (Option.some.inj (hb.symm.trans ha) ▸ hseen) hk
          · exact .inr ⟨k, hk, hfirst⟩
      · rw [List.mem_cons, ih]
        constructor
        · rintro (rfl | ⟨hmem, ha⟩ | ⟨k, hk, hfirst⟩)
          · exact .inr ⟨k₁, hseen, .inl ⟨rfl, hb⟩⟩
          · exact .inl ⟨List.mem_cons_of_mem _ hmem, ha⟩
          · rw [List.mem_cons, not_or] at hk
            exact .inr ⟨k, hk.2, .inr ⟨fun h => hk.1 (Option.some.inj h).symm, hfirst⟩⟩
        · rintro (⟨hmem, ha⟩ | ⟨k, hk, ⟨rfl, _⟩ | ⟨hne, hfirst⟩⟩)
          · rcases List.mem_cons.mp hmem with rfl | hmem
            · exact absurd (hb.symm.trans ha) (fun h => nomatch h)
            · exact .inr (.inl ⟨hmem, ha⟩)
          · exact .inl rfl
          · refine .inr (.inr ⟨k, ?_, hfirst⟩)
            rw [List.mem_cons, not_or]
            exact ⟨fun h => hne (h ▸ rfl), hk⟩

/-- Elements whose key was seen before are not kept. -/
theorem firstsFrom_filter (hseen : k ∈ seen) :
    firstsFrom key seen (l.filter fun b => key b ≠ some k) = firstsFrom key seen l := by
  induction l generalizing seen with
  | nil => rfl
  | cons b l ih =>
    cases hb : key b with
    | none =>
      rw [List.filter_cons_of_pos (by simp [hb])]
      simp only [firstsFrom, hb, ih hseen]
    | some k₁ =>
      by_cases hk : k₁ = k
      · rw [List.filter_cons_of_neg (by simp [hb, hk])]
        simp only [firstsFrom, hb, hk, if_pos hseen, ih hseen]
      · rw [List.filter_cons_of_pos (by simp [hb, hk])]
        simp only [firstsFrom, hb, ih hseen, ih (List.mem_cons_of_mem _ hseen)]

/-- After an element, those with its key do not matter. -/
theorem firstsFrom_append (hkey : key a = some k)
    (h : (after.filter fun b => key b ≠ some k) = after'.filter fun b => key b ≠ some k) :
    firstsFrom key seen (before ++ a :: after) = firstsFrom key seen (before ++ a :: after') := by
  have hrest : ∀ {seen : List κ}, k ∈ seen → firstsFrom key seen after = firstsFrom key seen after' := by
    intro seen hseen
    rw [← firstsFrom_filter hseen, h, firstsFrom_filter hseen]
  induction before generalizing seen with
  | nil =>
    simp only [List.nil_append, firstsFrom, hkey]
    split_ifs with hseen
    · exact hrest hseen
    · rw [hrest List.mem_cons_self]
  | cons b before ih =>
    simp only [List.cons_append, firstsFrom]
    cases key b with
    | none => simp only [ih]
    | some k₁ => simp only [ih]

end Lists
