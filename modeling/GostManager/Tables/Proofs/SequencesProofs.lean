import GostManager.Tables.Sequences

/-!
# Proofs: sequences

An upsert keeps the keys of the rows, and their values in the unique column, and there is a row with the new value
then.
-/

namespace Tables.Sequenced

variable {ρ κ : Type} [DecidableEq κ] {unique : ρ → κ} {update : ρ → ρ} {row : ρ} {table : Sequenced ρ} {value : κ}
  {entry : Nat × κ}

theorem any_iff_mem_column : (table.rows.any fun other => unique other.2 = value) = true ↔
    value ∈ (table.column unique).map Prod.snd := by
  rw [column, List.map_map, List.any_eq_true, List.mem_map]
  exact exists_congr fun other => and_congr_right fun _ => decide_eq_true_iff

omit [DecidableEq κ] in
theorem column_insert : (table.insert row).column unique = table.column unique ++ [(table.sequence + 1, unique row)] :=
  List.map_append

omit [DecidableEq κ] in
theorem column_change {kind : ρ → Bool} (hupdate : ∀ other, kind other → unique (update other) = unique other) :
    (table.change kind update).column unique = table.column unique := by
  unfold column change
  rw [List.map_map]
  apply List.map_congr_left
  intro other _
  by_cases hkind : kind other.2 = true
  · simp only [Function.comp_apply, if_pos hkind, hupdate other.2 hkind]
  · simp only [Function.comp_apply, if_neg hkind]

/-- The unique column after an upsert. -/
theorem column_upsert (hupdate : ∀ other, unique other = unique row → unique (update other) = unique other) :
    (table.upsert unique update row).column unique =
      if unique row ∈ (table.column unique).map Prod.snd then table.column unique
      else table.column unique ++ [(table.sequence + 1, unique row)] := by
  unfold upsert
  rw [if_congr any_iff_mem_column rfl rfl]
  split
  · exact column_change fun other hother => hupdate other (of_decide_eq_true hother)
  · exact column_insert

omit [DecidableEq κ] in
theorem mem_keys_iff {k : Nat} : k ∈ table.keys ↔ ∃ value, (k, value) ∈ table.column unique := by
  have hkeys : table.keys = (table.column unique).map Prod.fst := by
    rw [column, List.map_map]
    rfl
  rw [hkeys, List.mem_map]
  constructor
  · rintro ⟨entry, hentry, rfl⟩
    exact ⟨entry.2, hentry⟩
  · rintro ⟨value, hentry⟩
    exact ⟨(k, value), hentry, rfl⟩

omit [DecidableEq κ] in
/-- A key has one row. -/
theorem eq_of_mem_column {k : Nat} {a b : κ} (ha : (k, a) ∈ table.column unique) (hb : (k, b) ∈ table.column unique) :
    a = b := by
  obtain ⟨row, hrow, hka⟩ := List.mem_map.1 ha
  obtain ⟨other, hother, hkb⟩ := List.mem_map.1 hb
  obtain ⟨hk, rfl⟩ := Prod.mk.inj hka
  obtain ⟨hk', rfl⟩ := Prod.mk.inj hkb
  rw [List.inj_on_of_nodup_map table.keyed hrow hother (hk.trans hk'.symm)]

theorem column_subset_upsert (hupdate : ∀ other, unique other = unique row → unique (update other) = unique other)
    (h : entry ∈ table.column unique) : entry ∈ (table.upsert unique update row).column unique := by
  rw [column_upsert hupdate]
  split
  · exact h
  · exact List.mem_append_left _ h

theorem keys_subset_upsert {k : Nat}
    (hupdate : ∀ other, unique other = unique row → unique (update other) = unique other) (h : k ∈ table.keys) :
    k ∈ (table.upsert unique update row).keys := by
  obtain ⟨value, hentry⟩ := mem_keys_iff.1 h
  exact mem_keys_iff.2 ⟨value, column_subset_upsert hupdate hentry⟩

theorem mem_values_upsert (hupdate : ∀ other, unique other = unique row → unique (update other) = unique other) :
    value ∈ ((table.upsert unique update row).column unique).map Prod.snd ↔
      value ∈ (table.column unique).map Prod.snd ∨ value = unique row := by
  rw [column_upsert hupdate]
  split
  · next hmem =>
    refine ⟨.inl, ?_⟩
    rintro (h | rfl)
    · exact h
    · exact hmem
  · rw [List.map_append, List.mem_append]
    exact or_congr_right List.mem_singleton

theorem nodup_values_upsert (hupdate : ∀ other, unique other = unique row → unique (update other) = unique other)
    (h : ((table.column unique).map Prod.snd).Nodup) :
    (((table.upsert unique update row).column unique).map Prod.snd).Nodup := by
  rw [column_upsert hupdate]
  split
  · exact h
  · next hmem =>
    rw [List.map_append, List.nodup_append]
    refine ⟨h, List.nodup_singleton _, ?_⟩
    intro v hv v' hv' heq
    rw [List.map_singleton, List.mem_singleton] at hv'
    rw [heq, hv'] at hv
    exact hmem hv

/-- A row with a value is found. -/
theorem exists_keyOf (h : value ∈ (table.column unique).map Prod.snd) :
    ∃ k, table.keyOf unique value = some k ∧ (k, value) ∈ table.column unique := by
  unfold keyOf
  cases hfind : table.rows.find? fun other => unique other.2 = value with
  | none =>
    obtain ⟨other, hother, hvalue⟩ := List.any_eq_true.1 (any_iff_mem_column.2 h)
    exact absurd hvalue (List.find?_eq_none.1 hfind other hother)
  | some other =>
    have hfound := List.find?_some hfind
    have hvalue : unique other.2 = value := of_decide_eq_true hfound
    exact ⟨other.1, rfl, List.mem_map.2 ⟨other, List.mem_of_find?_eq_some hfind, by rw [hvalue]⟩⟩

/-- The row of an upsert is found. -/
theorem exists_keyOf_upsert (table : Sequenced ρ)
    (hupdate : ∀ other, unique other = unique row → unique (update other) = unique other) :
    ∃ k, (table.upsert unique update row).keyOf unique (unique row) = some k ∧
      (k, unique row) ∈ (table.upsert unique update row).column unique :=
  exists_keyOf ((mem_values_upsert hupdate).2 (.inr rfl))

end Tables.Sequenced
