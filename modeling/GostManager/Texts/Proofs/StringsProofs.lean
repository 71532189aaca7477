import Mathlib.Data.String.Basic
import GostManager.Texts.Strings

/-!
# Proofs: strings

What can be read back from a text: the parts around a separator, and the number of a decimal numeral.
-/

namespace Texts

/-- A text is taken apart at its last separator in one way. -/
theorem append_separator_inj {c : Char} {a b a' b' : Text} (hb : c ∉ b) (hb' : c ∉ b')
    (h : a ++ c :: b = a' ++ c :: b') : a = a' ∧ b = b' := by
  rcases List.append_eq_append_iff.mp h with ⟨rest, hleft, hright⟩ | ⟨rest, hleft, hright⟩
  · cases rest with
    | nil => exact ⟨by simpa using hleft.symm, (List.cons.inj hright).2⟩
    | cons d rest =>
      have hmem : c ∈ b := by
        rw [(List.cons.inj hright).2]
        exact List.mem_append_right rest List.mem_cons_self
      exact absurd hmem hb
  · cases rest with
    | nil => exact ⟨by simpa using hleft, (List.cons.inj hright).2.symm⟩
    | cons d rest =>
      have hmem : c ∈ b' := by
        rw [(List.cons.inj hright).2]
        exact List.mem_append_right rest List.mem_cons_self
      exact absurd hmem hb'

theorem mem_of_mem_intercalate {c : Char} {separator : Text} {parts : List Text}
    (hc : c ∈ separator.intercalate parts) : c ∈ separator ∨ ∃ part ∈ parts, c ∈ part := by
  induction parts with
  | nil => exact absurd hc List.not_mem_nil
  | cons part parts ih =>
    cases parts with
    | nil => exact .inr ⟨part, List.mem_cons_self, by simpa using hc⟩
    | cons part' parts =>
      rw [List.intercalate_cons_cons, List.append_assoc] at hc
      rcases List.mem_append.mp hc with hc | hc
      · exact .inr ⟨part, List.mem_cons_self, hc⟩
      · rcases List.mem_append.mp hc with hc | hc
        · exact .inl hc
        · rcases ih hc with hc | ⟨part'', hpart'', hc⟩
          · exact .inl hc
          · exact .inr ⟨part'', List.mem_cons_of_mem part hpart'', hc⟩

/-- Parts that stand between separators can be read back. -/
theorem intercalate_inj {c : Char} {parts parts' : List Text} (hparts : ∀ part ∈ parts, c ∉ part ∧ part ≠ [])
    (hparts' : ∀ part ∈ parts', c ∉ part ∧ part ≠ [])
    (h : [c].intercalate parts = [c].intercalate parts') : parts = parts' := by
  have hempty : ∀ {parts : List Text}, (∀ part ∈ parts, c ∉ part ∧ part ≠ []) →
      [c].intercalate parts = [] → parts = [] := by
    intro parts hparts hnil
    by_contra hne
    have hsplit := List.splitOn_intercalate c (fun part hpart => (hparts part hpart).1) hne
    rw [hnil] at hsplit
    refine (hparts [] ?_).2 rfl
    rw [← hsplit]
    exact List.mem_singleton_self []
  by_cases hnil : parts = []
  · subst hnil
    exact (hempty hparts' h.symm).symm
  · have hnil' : parts' ≠ [] := by
      rintro rfl
      exact hnil (hempty hparts h)
    rw [← List.splitOn_intercalate c (fun part hpart => (hparts part hpart).1) hnil,
      ← List.splitOn_intercalate c (fun part hpart => (hparts' part hpart).1) hnil', h]

/-! ## Numerals -/

/-- A numeral consists of digits, after a sign. -/
theorem mem_numeral {n : Int} {c : Char} (hc : c ∈ (toString n).toList) : c = '-' ∨ c.isDigit := by
  rw [Int.toString_eq_repr, Int.repr_eq_if] at hc
  split at hc
  · rw [Nat.toList_repr] at hc
    exact .inr (Nat.isDigit_of_mem_toDigits (by decide) (by decide) hc)
  · rw [String.toList_append, Nat.toList_repr, List.mem_append] at hc
    rcases hc with hc | hc
    · exact .inl (by simpa using hc)
    · exact .inr (Nat.isDigit_of_mem_toDigits (by decide) (by decide) hc)

theorem repr_nat_inj {m n : Nat} (h : m.repr.toList = n.repr.toList) : m = n := by
  rw [Nat.toList_repr, Nat.toList_repr] at h
  rw [← Nat.ofDigitChars_toDigits (b := 10) (n := m) (by decide) (by decide), h,
    Nat.ofDigitChars_toDigits (by decide) (by decide)]

theorem numeral_inj {m n : Int} (h : (toString m).toList = (toString n).toList) : m = n := by
  have hsign : ∀ k : Nat, '-' ∉ k.repr.toList := by
    intro k hk
    rw [Nat.toList_repr] at hk
    exact absurd (Nat.isDigit_of_mem_toDigits (by decide) (by decide) hk) (by decide)
  rw [Int.toString_eq_repr, Int.toString_eq_repr, Int.repr_eq_if, Int.repr_eq_if] at h
  split at h <;> split at h
  · have := repr_nat_inj h
    omega
  · rw [String.toList_append] at h
    refine absurd ?_ (hsign m.toNat)
    rw [h]
    simp
  · rw [String.toList_append] at h
    refine absurd ?_ (hsign n.toNat)
    rw [← h]
    simp
  · rw [String.toList_append, String.toList_append] at h
    have := repr_nat_inj (List.append_cancel_left h)
    omega

end Texts
