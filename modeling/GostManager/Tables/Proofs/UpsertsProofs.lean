import GostManager.Lists.Proofs.DictionaryProofs
import GostManager.Tables.Upserts

/-!
# Proofs: upserts

An upsert that copies all columns leaves the row that it was given, whether there was one with its key or not, and
all other rows.
-/

namespace Tables

open Lists

variable {C : Type} [DecidableEq C] {key : C} {updates : List (C × C)} {row excluded : Row C} {rows : List (Row C)}
  {value : Value} {c : C}

theorem assign_concat (update : C × C) :
    assign (updates ++ [update]) row excluded = Function.update (assign updates row excluded) update.1 (excluded update.2) := by
  rw [assign, List.foldl_append]
  rfl

/-- What a column holds after updates that copy. -/
theorem assign_apply (hsame : ∀ update ∈ updates, update.1 = update.2) (c : C) :
    assign updates row excluded c = if ∃ update ∈ updates, update.1 = c then excluded c else row c := by
  induction updates using List.reverseRecOn with
  | nil => simp [assign]
  | append_singleton updates update ih =>
    rw [List.forall_mem_append, List.forall_mem_singleton] at hsame
    rw [assign_concat]
    by_cases hc : c = update.1
    · rw [hc, Function.update_self, ← hsame.2, if_pos ⟨update, List.mem_append_right _ (List.mem_singleton_self _), rfl⟩]
    · have hiff : (∃ u ∈ updates ++ [update], u.1 = c) ↔ ∃ u ∈ updates, u.1 = c := by
        constructor
        · rintro ⟨u, hu, huc⟩
          rcases List.mem_append.1 hu with hu | hu
          · exact ⟨u, hu, huc⟩
          · rw [List.mem_singleton.1 hu] at huc
            exact absurd huc.symm hc
        · rintro ⟨u, hu, huc⟩
          exact ⟨u, List.mem_append_left _ hu, huc⟩
      rw [Function.update_of_ne hc, ih hsame.1, if_congr hiff rfl rfl]

/-- Where all columns are copied, the row is overwritten. -/
theorem assign_eq (h : CopiesAll key updates) (hkey : row key = excluded key) : assign updates row excluded = excluded := by
  funext c
  rw [assign_apply h.same]
  by_cases hc : c = key
  · rw [if_neg, hc, hkey]
    rintro ⟨update, hmem, heq⟩
    exact h.keeps update hmem (heq.trans hc)
  · rw [if_pos (h.covers c hc)]

theorem upsert_eq (h : CopiesAll key updates) : upsert key updates excluded rows =
    if rows.any fun row => row key = excluded key then
      rows.map fun row => if row key = excluded key then excluded else row
    else rows ++ [excluded] := by
  have hassign : (fun row : Row C => if row key = excluded key then assign updates row excluded else row) =
      fun row => if row key = excluded key then excluded else row := by
    funext row
    by_cases hkey : row key = excluded key
    · rw [if_pos hkey, if_pos hkey, assign_eq h hkey]
    · rw [if_neg hkey, if_neg hkey]
  rw [upsert, hassign]

theorem keys_upsert (h : CopiesAll key updates) : (upsert key updates excluded rows).map (· key) =
    if rows.any fun row => row key = excluded key then rows.map (· key)
    else rows.map (· key) ++ [excluded key] := by
  rw [upsert_eq h]
  by_cases hany : (rows.any fun row => row key = excluded key) = true
  · rw [if_pos hany, if_pos hany, List.map_map]
    apply List.map_congr_left
    intro row _
    by_cases hkey : row key = excluded key
    · simp [hkey]
    · simp [hkey]
  · rw [if_neg hany, if_neg hany, List.map_append]
    rfl

/-- The keys stay distinct. -/
theorem nodup_upsert (h : CopiesAll key updates) (hnodup : (rows.map (· key)).Nodup) :
    ((upsert key updates excluded rows).map (· key)).Nodup := by
  rw [keys_upsert h]
  by_cases hany : (rows.any fun row => row key = excluded key) = true
  · rwa [if_pos hany]
  · rw [if_neg hany, List.nodup_append]
    refine ⟨hnodup, List.nodup_singleton _, ?_⟩
    intro k hk k' hk' heq
    obtain ⟨row, hrow, rfl⟩ := List.mem_map.1 hk
    rw [List.mem_singleton] at hk'
    exact hany (List.any_eq_true.2 ⟨row, hrow, decide_eq_true (heq.trans hk')⟩)

theorem mem_upsert (h : CopiesAll key updates) (hmem : row ∈ upsert key updates excluded rows) :
    row = excluded ∨ row ∈ rows := by
  rw [upsert_eq h] at hmem
  split at hmem
  · obtain ⟨row', hrow', rfl⟩ := List.mem_map.1 hmem
    split
    · exact .inl rfl
    · exact .inr hrow'
  · rcases List.mem_append.1 hmem with hmem | hmem
    · exact .inr hmem
    · exact .inl (List.mem_singleton.1 hmem)

omit [DecidableEq C] in
/-- Overwriting the row of a key leaves the keys, and the rows of the other keys. -/
theorem rowOf_map (rows : List (Row C)) :
    rowOf key value (rows.map fun row => if row key = excluded key then excluded else row) =
      (rowOf key value rows).map fun row => if excluded key = value then excluded else row := by
  have hkeys : ((fun row : Row C => decide (row key = value)) ∘
      fun row => if row key = excluded key then excluded else row) = fun row => decide (row key = value) := by
    funext row
    rw [Function.comp_apply]
    by_cases hkey : row key = excluded key
    · rw [if_pos hkey, hkey]
    · rw [if_neg hkey]
  unfold rowOf find
  rw [List.find?_map, hkeys]
  cases hfind : rows.find? fun row => decide (row key = value) with
  | none => rfl
  | some row =>
    have hfound := List.find?_some hfind
    have hrow : row key = value := of_decide_eq_true hfound
    rw [Option.map_some, Option.map_some, hrow, if_congr eq_comm rfl rfl]

/-- The row of the key is the inserted one, and those of the other keys are as before. -/
theorem rowOf_upsert (h : CopiesAll key updates) : rowOf key value (upsert key updates excluded rows) =
    if excluded key = value then some excluded else rowOf key value rows := by
  rw [upsert_eq h]
  by_cases hany : (rows.any fun row => row key = excluded key) = true
  · rw [if_pos hany, rowOf_map]
    by_cases hvalue : excluded key = value
    · obtain ⟨row, hrow, hkey⟩ := List.any_eq_true.1 hany
      have hsome : (rowOf key value rows).isSome := by
        unfold rowOf find
        rw [List.find?_isSome]
        exact ⟨row, hrow, by rw [← hvalue]; exact hkey⟩
      obtain ⟨row', hrow'⟩ := Option.isSome_iff_exists.1 hsome
      rw [if_pos hvalue, hrow', Option.map_some, if_pos hvalue]
    · simp only [if_neg hvalue, Option.map_id']
  · rw [if_neg hany]
    unfold rowOf find
    rw [List.find?_append, List.find?_singleton]
    by_cases hvalue : excluded key = value
    · have hnone : (rows.find? fun row => row key = value) = none := by
        rw [List.find?_eq_none]
        intro row hrow hkey
        rw [← hvalue] at hkey
        exact hany (List.any_eq_true.2 ⟨row, hrow, hkey⟩)
      rw [if_pos hvalue, hnone, if_pos (decide_eq_true hvalue), Option.none_or]
    · rw [if_neg hvalue, if_neg (by simpa using hvalue), Option.or_none]

end Tables
