import Mathlib.Data.List.Induction
import Mathlib.Data.List.Nodup
import Mathlib.Tactic.Tauto
import GostManager.Lists.Dictionary

/-!
# Proofs: dictionaries

A dictionary has one value for each key. What is kept of two lists after one another is told by what is kept
of each.
-/

namespace Lists

variable {α κ : Type} [DecidableEq κ] {key : α → κ} {rank : α → Nat} {l l' d : List α} {a b : α} {k : κ}

/-! ## Storing -/

theorem mem_keys_store : k ∈ (store key a d).map key ↔ k = key a ∨ k ∈ d.map key := by
  induction d with
  | nil => simp [store]
  | cons b d ih =>
    unfold store
    by_cases h : key b = key a
    · rw [if_pos h, List.map_cons, List.map_cons, List.mem_cons, h, List.mem_cons, or_self_left]
    · rw [if_neg h, List.map_cons, List.map_cons, List.mem_cons, List.mem_cons, ih]
      tauto

theorem nodup_store (h : (d.map key).Nodup) : ((store key a d).map key).Nodup := by
  induction d with
  | nil => simp [store]
  | cons b d ih =>
    rw [List.map_cons, List.nodup_cons] at h
    unfold store
    by_cases hb : key b = key a
    · rw [if_pos hb, List.map_cons, List.nodup_cons, ← hb]
      exact h
    · rw [if_neg hb, List.map_cons, List.nodup_cons, mem_keys_store]
      refine ⟨?_, ih h.2⟩
      rintro (heq | hmem)
      · exact hb heq
      · exact h.1 hmem

theorem mem_store (h : (d.map key).Nodup) : b ∈ store key a d ↔ b = a ∨ (b ∈ d ∧ key b ≠ key a) := by
  induction d with
  | nil => simp [store]
  | cons c d ih =>
    rw [List.map_cons, List.nodup_cons] at h
    unfold store
    by_cases hc : key c = key a
    · have hne : b ∈ d → key b ≠ key a := fun hb heq =>
        h.1 (hc ▸ heq ▸ List.mem_map_of_mem hb)
      rw [if_pos hc, List.mem_cons, List.mem_cons]
      constructor
      · rintro (rfl | hb)
        · exact .inl rfl
        · exact .inr ⟨.inr hb, hne hb⟩
      · rintro (rfl | ⟨rfl | hb, hba⟩)
        · exact .inl rfl
        · exact absurd hc hba
        · exact .inr hb
    · rw [if_neg hc, List.mem_cons, List.mem_cons, ih h.2]
      constructor
      · rintro (rfl | rfl | ⟨hb, hba⟩)
        · exact .inr ⟨.inl rfl, hc⟩
        · exact .inl rfl
        · exact .inr ⟨.inr hb, hba⟩
      · tauto

theorem find_store : find key k (store key a d) = if key a = k then some a else find key k d := by
  unfold find
  induction d with
  | nil =>
    by_cases hk : key a = k
    · simp [store, hk]
    · simp [store, hk]
  | cons b d ih =>
    unfold store
    by_cases hb : key b = key a
    · rw [if_pos hb, List.find?_cons, List.find?_cons, hb]
      by_cases hk : key a = k
      · simp [hk]
      · simp [hk]
    · rw [if_neg hb, List.find?_cons, List.find?_cons, ih]
      by_cases hk : key a = k
      · rw [hk] at hb
        simp [hk, hb]
      · simp [hk]

theorem find_filter_ne {k' : κ} :
    find key k (d.filter fun b => key b ≠ k') = if k = k' then none else find key k d := by
  unfold find
  rw [List.find?_filter]
  by_cases hk : k = k'
  · rw [if_pos hk, List.find?_eq_none]
    intro b _ hb
    simp only [decide_eq_true_eq] at hb
    exact hb.1 (hb.2.trans hk)
  · rw [if_neg hk]
    congr 1
    funext b
    by_cases hb : key b = k
    · simp [hb, hk]
    · simp [hb]

/-- A value is found in a part that keeps its key. -/
theorem find_filter {p : α → Bool} (h : ∀ b, key b = k → p b = true) : find key k (d.filter p) = find key k d := by
  unfold find
  rw [List.find?_filter]
  congr 1
  funext b
  by_cases hb : key b = k
  · simp [hb, h b hb]
  · simp [hb]

theorem dictionary_concat : dictionary key (l ++ [a]) = store key a (dictionary key l) := by
  simp only [dictionary, List.foldl_append, List.foldl_cons, List.foldl_nil]

theorem nodup_dictionary : ((dictionary key l).map key).Nodup := by
  induction l using List.reverseRecOn with
  | nil => exact List.nodup_nil
  | append_singleton l a ih =>
    rw [dictionary_concat]
    exact nodup_store ih

theorem mem_of_mem_dictionary (h : a ∈ dictionary key l) : a ∈ l := by
  induction l using List.reverseRecOn with
  | nil => exact h
  | append_singleton l b ih =>
    rw [dictionary_concat, mem_store nodup_dictionary] at h
    rcases h with rfl | ⟨hl, _⟩
    · exact List.mem_append_right _ (List.mem_singleton.mpr rfl)
    · exact List.mem_append_left _ (ih hl)

/-- The keys of a dictionary are those of its values. -/
theorem mem_keys_dictionary : k ∈ (dictionary key l).map key ↔ k ∈ l.map key := by
  induction l using List.reverseRecOn with
  | nil => rfl
  | append_singleton l a ih =>
    rw [dictionary_concat, mem_keys_store, ih, List.map_append, List.mem_append, List.map_singleton,
      List.mem_singleton, or_comm]

theorem store_of_notMem (h : key a ∉ d.map key) : store key a d = d ++ [a] := by
  induction d with
  | nil => rfl
  | cons b d ih =>
    rw [List.map_cons, List.mem_cons, not_or] at h
    rw [store, if_neg (Ne.symm h.1), ih h.2, List.cons_append]

theorem dictionary_of_nodup (h : (l.map key).Nodup) : dictionary key l = l := by
  induction l using List.reverseRecOn with
  | nil => rfl
  | append_singleton l a ih =>
    rw [List.map_append, List.map_singleton, List.nodup_append] at h
    rw [dictionary_concat, ih h.1, store_of_notMem]
    exact fun hmem => h.2.2 _ hmem _ (List.mem_singleton.mpr rfl) rfl

/-- The last value of a key is in the dictionary. -/
theorem mem_dictionary_append (h : ∀ b ∈ l', key b ≠ key a) : a ∈ dictionary key (l ++ a :: l') := by
  induction l' using List.reverseRecOn with
  | nil =>
    rw [dictionary_concat, mem_store nodup_dictionary]
    exact .inl rfl
  | append_singleton l' b ih =>
    rw [← List.cons_append, ← List.append_assoc, dictionary_concat, mem_store nodup_dictionary]
    have hb : key b ≠ key a := h b (List.mem_append_right _ (List.mem_singleton.mpr rfl))
    exact .inr ⟨ih fun c hc => h c (List.mem_append_left _ hc), hb.symm⟩

/-! ## Keeping the best -/

theorem find_eq_some (h : (d.map key).Nodup) : find key k d = some a ↔ a ∈ d ∧ key a = k := by
  unfold find
  constructor
  · intro hfind
    exact ⟨List.mem_of_find?_eq_some hfind, by simpa using List.find?_some hfind⟩
  · rintro ⟨ha, rfl⟩
    cases hfind : d.find? fun b => key b = key a with
    | none => exact absurd (List.find?_eq_none.mp hfind a ha) (by simp)
    | some b =>
      have hkey : key b = key a := by simpa using List.find?_some hfind
      rw [List.inj_on_of_nodup_map h (List.mem_of_find?_eq_some hfind) ha hkey]

theorem nodup_keep (h : (d.map key).Nodup) : ((keep key rank a d).map key).Nodup := by
  unfold keep
  split
  · exact nodup_store h
  · split_ifs
    · exact nodup_store h
    · exact h

theorem mem_keep (h : (d.map key).Nodup) : b ∈ keep key rank a d ↔
    (b = a ∧ ∀ c ∈ d, key c = key a → rank a ≤ rank c) ∨ (b ∈ d ∧ (key b = key a → rank b < rank a)) := by
  unfold keep
  cases hfind : find key (key a) d with
  | none =>
    have hnone : ∀ c ∈ d, key c ≠ key a := by
      intro c hc
      simpa using List.find?_eq_none.mp hfind c hc
    rw [mem_store h]
    constructor
    · rintro (rfl | ⟨hb, hne⟩)
      · exact .inl ⟨rfl, fun c hc heq => absurd heq (hnone c hc)⟩
      · exact .inr ⟨hb, fun heq => absurd heq hne⟩
    · rintro (⟨rfl, _⟩ | ⟨hb, _⟩)
      · exact .inl rfl
      · exact .inr ⟨hb, hnone b hb⟩
  | some c =>
    obtain ⟨hc, hkey⟩ := (find_eq_some h).mp hfind
    have hunique : ∀ c' ∈ d, key c' = key a → c' = c := fun c' hc' heq =>
      List.inj_on_of_nodup_map h hc' hc (heq.trans hkey.symm)
    simp only
    split_ifs with hle
    · rw [mem_store h]
      constructor
      · rintro (rfl | ⟨hb, hne⟩)
        · exact .inl ⟨rfl, fun c' hc' heq => hunique c' hc' heq ▸ hle⟩
        · exact .inr ⟨hb, fun heq => absurd heq hne⟩
      · rintro (⟨rfl, _⟩ | ⟨hb, hlt⟩)
        · exact .inl rfl
        · refine .inr ⟨hb, fun heq => ?_⟩
          have hbc := hunique b hb heq
          subst hbc
          exact absurd (hlt heq) (by omega)
    · constructor
      · intro hb
        refine .inr ⟨hb, fun heq => ?_⟩
        have hbc := hunique b hb heq
        subst hbc
        omega
      · rintro (⟨_, hall⟩ | ⟨hb, _⟩)
        · exact absurd (hall c hc hkey) hle
        · exact hb

theorem keepBest_concat : keepBest key rank (l ++ [a]) = keep key rank a (keepBest key rank l) := by
  simp only [keepBest, List.foldl_append, List.foldl_cons, List.foldl_nil]

theorem nodup_keepBest : ((keepBest key rank l).map key).Nodup := by
  induction l using List.reverseRecOn with
  | nil => exact List.nodup_nil
  | append_singleton l a ih =>
    rw [keepBest_concat]
    exact nodup_keep ih

theorem mem_of_mem_keepBest (h : a ∈ keepBest key rank l) : a ∈ l := by
  induction l using List.reverseRecOn with
  | nil => exact h
  | append_singleton l b ih =>
    rw [keepBest_concat, mem_keep nodup_keepBest] at h
    rcases h with ⟨rfl, _⟩ | ⟨hl, _⟩
    · exact List.mem_append_right _ (List.mem_singleton.mpr rfl)
    · exact List.mem_append_left _ (ih hl)

/-- Of each key something is kept that is as good as any other. -/
theorem exists_mem_keepBest (h : a ∈ l) :
    ∃ b ∈ keepBest key rank l, key b = key a ∧ rank b ≤ rank a := by
  induction l using List.reverseRecOn with
  | nil => exact absurd h List.not_mem_nil
  | append_singleton l c ih =>
    -- What was kept before stays, or `c` takes its place and is as good.
    have hreplaced : ∀ b ∈ keepBest key rank l,
        ∃ b' ∈ keepBest key rank (l ++ [c]), key b' = key b ∧ rank b' ≤ rank b := by
      intro b hb
      rw [keepBest_concat]
      by_cases hkeep : key b = key c → rank b < rank c
      · exact ⟨b, (mem_keep nodup_keepBest).mpr (.inr ⟨hb, hkeep⟩), rfl, Nat.le_refl _⟩
      · obtain ⟨hkey, hlt⟩ : key b = key c ∧ ¬ rank b < rank c := by tauto
        refine ⟨c, (mem_keep nodup_keepBest).mpr (.inl ⟨rfl, fun b' hb' heq => ?_⟩), hkey.symm, by omega⟩
        rw [List.inj_on_of_nodup_map nodup_keepBest hb' hb (heq.trans hkey.symm)]
        omega
    rcases List.mem_append.mp h with hl | hc
    · obtain ⟨b, hb, hkey, hle⟩ := ih hl
      obtain ⟨b', hb', hkey', hle'⟩ := hreplaced b hb
      exact ⟨b', hb', hkey'.trans hkey, Nat.le_trans hle' hle⟩
    · obtain rfl := List.mem_singleton.mp hc
      by_cases hbest : ∀ b ∈ keepBest key rank l, key b = key a → rank a ≤ rank b
      · refine ⟨a, ?_, rfl, Nat.le_refl _⟩
        rw [keepBest_concat]
        exact (mem_keep nodup_keepBest).mpr (.inl ⟨rfl, hbest⟩)
      · obtain ⟨b, hb, hkey, hlt⟩ : ∃ b ∈ keepBest key rank l, key b = key a ∧ rank b < rank a := by
          by_contra hnone
          exact hbest fun b hb hkey => by
            by_contra hle
            exact hnone ⟨b, hb, hkey, by omega⟩
        obtain ⟨b', hb', hkey', hle'⟩ := hreplaced b hb
        exact ⟨b', hb', hkey'.trans hkey, by omega⟩

theorem mem_keepBest_concat : b ∈ keepBest key rank (l ++ [a]) ↔
    (b = a ∧ ∀ c ∈ l, key c = key a → rank a ≤ rank c) ∨
    (b ∈ keepBest key rank l ∧ (key b = key a → rank b < rank a)) := by
  have hbest : (∀ c ∈ keepBest key rank l, key c = key a → rank a ≤ rank c) ↔
      ∀ c ∈ l, key c = key a → rank a ≤ rank c := by
    constructor
    · intro h c hc heq
      obtain ⟨c', hc', hkey, hle⟩ := @exists_mem_keepBest _ _ _ key rank _ _ hc
      exact Nat.le_trans (h c' hc' (hkey.trans heq)) hle
    · exact fun h c hc => h c (mem_of_mem_keepBest hc)
  rw [keepBest_concat, mem_keep nodup_keepBest, hbest]

/-- What is kept of a list and then another: what is kept of the second, unless the first has something
better, and what is kept of the first, unless the second has something as good. -/
theorem mem_keepBest_append : a ∈ keepBest key rank (l ++ l') ↔
    (a ∈ keepBest key rank l' ∧ ∀ b ∈ l, key b = key a → rank a ≤ rank b) ∨
    (a ∈ keepBest key rank l ∧ ∀ b ∈ l', key b = key a → rank a < rank b) := by
  induction l' using List.reverseRecOn with
  | nil => simp [keepBest]
  | append_singleton l' c ih =>
    rw [← List.append_assoc, mem_keepBest_concat, mem_keepBest_concat, ih]
    simp only [List.forall_mem_append, List.forall_mem_singleton]
    constructor
    · rintro (⟨rfl, hl, hl'⟩ | ⟨⟨hmem, hl⟩ | ⟨hmem, hl'⟩, hc⟩)
      · exact .inl ⟨.inl ⟨rfl, hl'⟩, hl⟩
      · exact .inl ⟨.inr ⟨hmem, hc⟩, hl⟩
      · exact .inr ⟨hmem, hl', fun heq => hc heq.symm⟩
    · rintro (⟨⟨rfl, hl'⟩ | ⟨hmem, hc⟩, hl⟩ | ⟨hmem, hl', hc⟩)
      · exact .inl ⟨rfl, hl, hl'⟩
      · exact .inr ⟨.inl ⟨hmem, hl⟩, hc⟩
      · exact .inr ⟨.inr ⟨hmem, hl'⟩, fun heq => hc heq.symm⟩

theorem mem_keepBest_append_of_disjoint (h : ∀ b ∈ l, ∀ c ∈ l', key b ≠ key c) :
    a ∈ keepBest key rank (l ++ l') ↔ a ∈ keepBest key rank l ∨ a ∈ keepBest key rank l' := by
  rw [mem_keepBest_append]
  constructor
  · rintro (⟨hmem, _⟩ | ⟨hmem, _⟩)
    · exact .inr hmem
    · exact .inl hmem
  · rintro (hmem | hmem)
    · exact .inr ⟨hmem, fun b hb heq => absurd heq.symm (h a (mem_of_mem_keepBest hmem) b hb)⟩
    · exact .inl ⟨hmem, fun b hb heq => absurd heq (h b hb a (mem_of_mem_keepBest hmem))⟩

/-- Parts that share no keys are kept apart. -/
theorem mem_keepBest_flatMap {β : Type} {f : β → List α} {bs : List β}
    (h : bs.Pairwise fun b c => ∀ a ∈ f b, ∀ a' ∈ f c, key a ≠ key a') :
    a ∈ keepBest key rank (bs.flatMap f) ↔ ∃ b ∈ bs, a ∈ keepBest key rank (f b) := by
  induction bs with
  | nil => simp [keepBest]
  | cons b bs ih =>
    rw [List.pairwise_cons] at h
    rw [List.flatMap_cons, mem_keepBest_append_of_disjoint, ih h.2]
    · simp only [List.mem_cons, exists_eq_or_imp]
    · intro a ha a' ha'
      obtain ⟨c, hc, hac⟩ := List.mem_flatMap.mp ha'
      exact h.1 c hc a ha a' hac

theorem mem_keepBest_of_nodup (h : (l.map key).Nodup) : a ∈ keepBest key rank l ↔ a ∈ l := by
  have hdisjoint : l.Pairwise fun b c => ∀ a ∈ [b], ∀ a' ∈ [c], key a ≠ key a' :=
    (List.pairwise_map.mp h).imp fun hne a ha a' ha' => by
      rw [List.mem_singleton.mp ha, List.mem_singleton.mp ha']
      exact hne
  have hflat : l.flatMap (fun b => [b]) = l := by simp
  have hmem := @mem_keepBest_flatMap _ _ _ _ rank a _ _ _ hdisjoint
  rw [hflat] at hmem
  rw [hmem]
  constructor
  · rintro ⟨b, hb, ha⟩
    rwa [List.mem_singleton.mp (mem_of_mem_keepBest ha)]
  · exact fun ha => ⟨a, ha, List.mem_singleton.mpr rfl⟩

end Lists
