import Mathlib.Data.List.Induction
import Mathlib.Tactic.Tauto
import GostManager.Lists.Groups

/-!
# Proofs: groups of a list

There is one group for each key that occurs, and it has the elements with that key. What is stored under
the keys of the groups, one after the other, can be looked up there.
-/

namespace Lists

variable {α κ : Type} [DecidableEq κ] {key : α → κ} {l : List α} {gs : List (κ × List α)} {k : κ} {a : α}

/-- What the groups of a list are. -/
structure Groups (key : α → κ) (l : List α) (gs : List (κ × List α)) : Prop where
  nodup : (gs.map (·.1)).Nodup
  mem : ∀ k g, (k, g) ∈ gs ↔ g = l.filter (fun a => key a = k) ∧ g ≠ []

theorem mem_keys_addToGroup {k' : κ} :
    k' ∈ (addToGroup k a gs).map (·.1) ↔ k' = k ∨ k' ∈ gs.map (·.1) := by
  induction gs with
  | nil => simp [addToGroup]
  | cons head gs ih =>
    obtain ⟨k₁, g⟩ := head
    unfold addToGroup
    by_cases h : k₁ = k
    · rw [if_pos h]
      subst h
      simp
    · rw [if_neg h, List.map_cons, List.mem_cons, ih]
      simp only [List.map_cons, List.mem_cons]
      tauto

theorem nodup_addToGroup (h : (gs.map (·.1)).Nodup) : ((addToGroup k a gs).map (·.1)).Nodup := by
  induction gs with
  | nil => simp [addToGroup]
  | cons head gs ih =>
    obtain ⟨k₁, g⟩ := head
    rw [List.map_cons, List.nodup_cons] at h
    unfold addToGroup
    by_cases hk : k₁ = k
    · rw [if_pos hk, List.map_cons, List.nodup_cons]
      exact h
    · rw [if_neg hk, List.map_cons, List.nodup_cons, mem_keys_addToGroup]
      refine ⟨?_, ih h.2⟩
      rintro (rfl | hmem)
      · exact hk rfl
      · exact h.1 hmem

theorem mem_addToGroup {k' : κ} {g' : List α} (h : (gs.map (·.1)).Nodup) :
    (k', g') ∈ addToGroup k a gs ↔
      (k' ≠ k ∧ (k', g') ∈ gs) ∨
      (k' = k ∧ ((∃ g, (k, g) ∈ gs ∧ g' = g ++ [a]) ∨ (k ∉ gs.map (·.1) ∧ g' = [a]))) := by
  induction gs with
  | nil =>
    simp only [addToGroup, List.mem_singleton, Prod.mk.injEq, List.not_mem_nil, List.map_nil]
    tauto
  | cons head gs ih =>
    obtain ⟨k₁, g₁⟩ := head
    rw [List.map_cons, List.nodup_cons] at h
    unfold addToGroup
    by_cases hk : k₁ = k
    · subst hk
      rw [if_pos rfl]
      have hout : ∀ g, (k₁, g) ∉ gs := fun g hg => h.1 (List.mem_map.2 ⟨_, hg, rfl⟩)
      simp only [List.mem_cons, Prod.mk.injEq, List.map_cons]
      constructor
      · rintro (⟨rfl, rfl⟩ | hmem)
        · exact .inr ⟨rfl, .inl ⟨g₁, .inl ⟨trivial, rfl⟩, rfl⟩⟩
        · refine .inl ⟨?_, .inr hmem⟩
          rintro rfl
          exact hout g' hmem
      · rintro (⟨hne, ⟨rfl, -⟩ | hmem⟩ | ⟨rfl, ⟨g, ⟨-, rfl⟩ | hmem, rfl⟩ | ⟨hnot, -⟩⟩)
        · exact absurd rfl hne
        · exact .inr hmem
        · exact .inl ⟨rfl, rfl⟩
        · exact absurd hmem (hout g)
        · exact absurd (.inl trivial) hnot
    · rw [if_neg hk, List.mem_cons, ih h.2]
      simp only [List.mem_cons, Prod.mk.injEq, List.map_cons]
      have hk' : k ≠ k₁ := Ne.symm hk
      constructor
      · rintro (⟨rfl, rfl⟩ | ⟨hne, hmem⟩ | ⟨rfl, ⟨g, hmem, rfl⟩ | ⟨hnot, rfl⟩⟩)
        · exact .inl ⟨hk, .inl ⟨rfl, rfl⟩⟩
        · exact .inl ⟨hne, .inr hmem⟩
        · exact .inr ⟨rfl, .inl ⟨g, .inr hmem, rfl⟩⟩
        · exact .inr ⟨rfl, .inr ⟨by tauto, rfl⟩⟩
      · rintro (⟨hne, ⟨rfl, rfl⟩ | hmem⟩ | ⟨rfl, ⟨g, ⟨rfl, -⟩ | hmem, rfl⟩ | ⟨hnot, rfl⟩⟩)
        · exact .inl ⟨rfl, rfl⟩
        · exact .inr (.inl ⟨hne, hmem⟩)
        · exact absurd rfl hk
        · exact .inr (.inr ⟨rfl, .inl ⟨g, hmem, rfl⟩⟩)
        · exact .inr (.inr ⟨rfl, .inr ⟨fun hmem => hnot (.inr hmem), rfl⟩⟩)

/-- One more element. -/
theorem Groups.add (h : Groups key l gs) : Groups key (l ++ [a]) (addToGroup (key a) a gs) := by
  have hkeys : ∀ k, k ∈ gs.map (·.1) ↔ l.filter (fun a => key a = k) ≠ [] := by
    intro k
    rw [List.mem_map]
    constructor
    · rintro ⟨⟨k, g⟩, hmem, rfl⟩
      obtain ⟨rfl, hne⟩ := (h.mem k g).1 hmem
      exact hne
    · exact fun hne => ⟨(k, _), (h.mem k _).2 ⟨rfl, hne⟩, rfl⟩
  refine ⟨nodup_addToGroup h.nodup, fun k g => ?_⟩
  rw [mem_addToGroup h.nodup, List.filter_append]
  by_cases hk : k = key a
  · subst hk
    have hone : [a].filter (fun b => key b = key a) = [a] := by simp
    rw [hone]
    constructor
    · rintro (⟨hne, -⟩ | ⟨-, ⟨g, hmem, rfl⟩ | ⟨hnot, rfl⟩⟩)
      · exact absurd rfl hne
      · obtain ⟨rfl, -⟩ := (h.mem _ g).1 hmem
        exact ⟨rfl, by simp⟩
      · rw [hkeys, not_not] at hnot
        rw [hnot]
        exact ⟨rfl, by simp⟩
    · rintro ⟨rfl, -⟩
      refine .inr ⟨rfl, ?_⟩
      by_cases hne : l.filter (fun b => key b = key a) = []
      · refine .inr ⟨?_, by rw [hne, List.nil_append]⟩
        rw [hkeys, not_not]
        exact hne
      · exact .inl ⟨_, (h.mem _ _).2 ⟨rfl, hne⟩, rfl⟩
  · have hnone : [a].filter (fun b => key b = k) = [] := by
      simpa using Ne.symm hk
    rw [hnone, List.append_nil, ← h.mem k g]
    constructor
    · rintro (⟨-, hmem⟩ | ⟨rfl, -⟩)
      · exact hmem
      · exact absurd rfl hk
    · exact fun hmem => .inl ⟨hk, hmem⟩

theorem groups_spec (key : α → κ) (l : List α) : Groups key l (groups key l) := by
  induction l using List.reverseRecOn with
  | nil => exact ⟨List.nodup_nil, by simp [groups]⟩
  | append_singleton l a ih =>
    have hstep : groups key (l ++ [a]) = addToGroup (key a) a (groups key l) := by
      unfold groups
      rw [List.foldl_append, List.foldl_cons, List.foldl_nil]
    rw [hstep]
    exact ih.add

/-! ## Storing under keys -/

section Store

variable {β γ : Type} [DecidableEq γ] {f : β → γ} {v : β → α} {bs : List β} {t : γ → Option α} {c : γ}

theorem storeAll_cons {b : β} :
    storeAll f v (b :: bs) t = storeAll f v bs (Function.update t (f b) (some (v b))) := rfl

/-- What is not stored stays. -/
theorem storeAll_of_ne (h : ∀ b ∈ bs, f b ≠ c) : storeAll f v bs t c = t c := by
  induction bs generalizing t with
  | nil => rfl
  | cons b bs ih =>
    rw [storeAll_cons, ih fun b' hb => h b' (.tail _ hb)]
    exact Function.update_of_ne (Ne.symm (h b (.head _))) _ _

/-- What is stored once can be looked up. -/
theorem storeAll_of_mem {b : β} (hb : b ∈ bs) (h : ∀ b' ∈ bs, f b' = f b → b' = b) :
    storeAll f v bs t (f b) = some (v b) := by
  induction bs generalizing t with
  | nil => cases hb
  | cons b₁ bs ih =>
    rw [storeAll_cons]
    by_cases hmem : b ∈ bs
    · exact ih hmem fun b' hb' => h b' (.tail _ hb')
    · obtain rfl : b = b₁ := (List.mem_cons.1 hb).resolve_right hmem
      rw [storeAll_of_ne, Function.update_self]
      intro b' hb' heq
      exact hmem (h b' (.tail _ hb') heq ▸ hb')

end Store

/-! ## Fibers -/

/-- The fibers over a range hold the members whose values are in the range. -/
theorem flatten_fibers_perm {α : Type} (f : α → Nat) (l : List α) (start n : Nat) :
    ((List.range' start n).map fun m => l.filter fun a => f a = m).flatten.Perm
      (l.filter fun a => start ≤ f a ∧ f a < start + n) := by
  induction n with
  | zero =>
    have hempty : l.filter (fun a => start ≤ f a ∧ f a < start + 0) = [] := by
      refine List.filter_eq_nil_iff.2 fun a _ h => ?_
      have hrange := of_decide_eq_true h
      omega
    rw [hempty]
    rfl
  | succ n ih =>
    rw [List.range'_concat, List.map_append, List.flatten_append, List.map_singleton,
      List.flatten_singleton, Nat.one_mul]
    -- the last fiber is split off
    have hlower : (l.filter fun a => start ≤ f a ∧ f a < start + n) =
        (l.filter fun a => start ≤ f a ∧ f a < start + (n + 1)).filter fun a => f a < start + n := by
      rw [List.filter_filter]
      refine List.filter_congr fun a _ => ?_
      rw [Bool.and_eq_decide, decide_eq_decide]
      simp only [decide_eq_true_eq]
      omega
    have hlast : (l.filter fun a => f a = start + n) =
        (l.filter fun a => start ≤ f a ∧ f a < start + (n + 1)).filter fun a => !(f a < start + n) := by
      rw [List.filter_filter]
      refine List.filter_congr fun a _ => ?_
      rw [← decide_not, Bool.and_eq_decide, decide_eq_decide]
      simp only [decide_eq_true_eq]
      omega
    refine (ih.append_right _).trans ?_
    rw [hlower, hlast]
    exact List.filter_append_perm _ _

end Lists
