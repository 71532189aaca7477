import Mathlib.Data.Nat.Digits.Lemmas
import GostManager.Texts.Addresses

/-!
# Proofs: lines and numerals

The lines of `splitlines` are the parts between line feeds, each of them cut once more at the other
boundaries; blank lines apart, it does not matter which is done first. A decimal numeral without leading
zero is known by its number.
-/

namespace Texts

variable {separator c : Char} {text text' part line : Text} {lines : List Text} {n : Nat}

/-! ## Parts -/

@[simp] theorem splitOnFrom_nil : splitOnFrom separator part [] = [part] := rfl

theorem splitOnFrom_cons_self : splitOnFrom separator part (separator :: text) =
    part :: splitOnFrom separator [] text := if_pos rfl

theorem splitOnFrom_cons_of_ne (h : c ≠ separator) : splitOnFrom separator part (c :: text) =
    splitOnFrom separator (part ++ [c]) text := if_neg h

/-- No part has the separator. -/
theorem not_mem_of_mem_splitOnFrom (hpart : separator ∉ part) (h : line ∈ splitOnFrom separator part text) :
    separator ∉ line := by
  induction text generalizing part with
  | nil =>
    obtain rfl := List.mem_singleton.1 h
    exact hpart
  | cons c text ih =>
    by_cases hc : c = separator
    · rw [hc, splitOnFrom_cons_self] at h
      rcases List.mem_cons.1 h with rfl | h
      · exact hpart
      · exact ih List.not_mem_nil h
    · rw [splitOnFrom_cons_of_ne hc] at h
      refine ih (fun hmem => ?_) h
      rcases List.mem_append.1 hmem with hmem | hmem
      · exact hpart hmem
      · exact hc (List.mem_singleton.1 hmem).symm

theorem not_mem_of_mem_splitOn (h : line ∈ splitOn separator text) : separator ∉ line :=
  not_mem_of_mem_splitOnFrom List.not_mem_nil h

/-- Every character of a part comes from the text. -/
theorem mem_of_mem_splitOnFrom (h : line ∈ splitOnFrom separator part text) (hc : c ∈ line) :
    c ∈ part ∨ c ∈ text := by
  induction text generalizing part with
  | nil =>
    obtain rfl := List.mem_singleton.1 h
    exact .inl hc
  | cons d text ih =>
    by_cases hd : d = separator
    · rw [hd, splitOnFrom_cons_self] at h
      rcases List.mem_cons.1 h with rfl | h
      · exact .inl hc
      · exact .inr (List.mem_cons_of_mem _ ((ih h).resolve_left List.not_mem_nil))
    · rw [splitOnFrom_cons_of_ne hd] at h
      rcases ih h with hmem | hmem
      · rcases List.mem_append.1 hmem with hmem | hmem
        · exact .inl hmem
        · exact .inr (List.mem_singleton.1 hmem ▸ List.mem_cons_self)
      · exact .inr (List.mem_cons_of_mem _ hmem)

theorem mem_of_mem_splitOn (h : line ∈ splitOn separator text) (hc : c ∈ line) : c ∈ text :=
  (mem_of_mem_splitOnFrom h hc).resolve_left List.not_mem_nil

/-- Every other character of the text is in a part. -/
theorem exists_mem_splitOnFrom (hc : c ∈ part ++ text) (hne : c ≠ separator) :
    ∃ line ∈ splitOnFrom separator part text, c ∈ line := by
  induction text generalizing part with
  | nil => exact ⟨part, List.mem_singleton_self part, by simpa using hc⟩
  | cons d text ih =>
    by_cases hd : d = separator
    · rw [hd, splitOnFrom_cons_self]
      rw [hd] at hc
      rcases List.mem_append.1 hc with hc | hc
      · exact ⟨part, List.mem_cons_self, hc⟩
      · obtain ⟨line, hline, hmem⟩ := ih (List.mem_append_right [] ((List.mem_cons.1 hc).resolve_left hne))
        exact ⟨line, List.mem_cons_of_mem _ hline, hmem⟩
    · rw [splitOnFrom_cons_of_ne hd]
      exact ih (by simpa using hc)

theorem exists_mem_splitOn (hc : c ∈ text) (hne : c ≠ separator) : ∃ line ∈ splitOn separator text, c ∈ line :=
  exists_mem_splitOnFrom (List.mem_append_right [] hc) hne

theorem splitOnFrom_append : splitOnFrom separator part (text ++ separator :: text') =
    splitOnFrom separator part text ++ splitOn separator text' := by
  induction text generalizing part with
  | nil => rw [List.nil_append, splitOnFrom_cons_self, splitOnFrom_nil, List.singleton_append]; rfl
  | cons c text ih =>
    by_cases hc : c = separator
    · rw [hc, List.cons_append, splitOnFrom_cons_self, splitOnFrom_cons_self, ih, List.cons_append]
    · rw [List.cons_append, splitOnFrom_cons_of_ne hc, splitOnFrom_cons_of_ne hc, ih]

theorem splitOnFrom_of_not_mem (h : separator ∉ text) : splitOnFrom separator part text = [part ++ text] := by
  induction text generalizing part with
  | nil => rw [splitOnFrom_nil, List.append_nil]
  | cons c text ih =>
    have hc : c ≠ separator := fun hc => h (hc ▸ List.mem_cons_self)
    rw [splitOnFrom_cons_of_ne hc, ih fun hmem => h (List.mem_cons_of_mem _ hmem), List.append_assoc,
      List.singleton_append]

/-- A line that is written is a part of the text, whatever the other lines are. -/
theorem mem_splitOn_flatten (h : line ∈ lines) (hline : separator ∉ line) :
    line ∈ splitOn separator (lines.map (· ++ [separator])).flatten := by
  induction lines with
  | nil => cases h
  | cons other lines ih =>
    rw [List.map_cons, List.flatten_cons, List.append_assoc, List.singleton_append]
    unfold splitOn
    rw [splitOnFrom_append]
    rcases List.mem_cons.1 h with rfl | h
    · rw [splitOnFrom_of_not_mem hline]
      exact List.mem_append_left _ (List.mem_singleton_self _)
    · exact List.mem_append_right _ (ih h)

/-- A text without spaces is its own strip. -/
theorem strip_eq_self (h : ∀ c ∈ text, isspace c = false) : strip text = text := by
  have hleft : text.dropWhile isspace = text := by
    cases text with
    | nil => rfl
    | cons c text => rw [List.dropWhile_cons_of_neg (by simp [h c List.mem_cons_self])]
  unfold strip
  rw [hleft, List.rdropWhile_eq_self_iff]
  intro hne
  simp [h _ (List.getLast_mem hne)]

/-! ## Lines -/

/-- The lines that are not blank. -/
def inkedLines (text : Text) : List Text := (splitlines text).filter (· ≠ [])

/-- A boundary other than a carriage return is one character. -/
theorem splitlinesFrom_cons (hc : c ≠ '\r') : splitlinesFrom line (c :: text) =
    if isLineBoundary c then line :: splitlinesFrom [] text else splitlinesFrom (line ++ [c]) text := by
  rw [splitlinesFrom]
  exact fun _ hreturn => absurd hreturn hc

@[simp] theorem inkedLines_nil : inkedLines [] = [] := rfl

theorem splitlinesFrom_append (h : ∀ c ∈ text, isLineBoundary c = false) :
    splitlinesFrom line (text ++ '\n' :: text') = (line ++ text) :: splitlines text' := by
  induction text generalizing line with
  | nil =>
    have hfeed : isLineBoundary '\n' = true := by decide
    rw [List.nil_append, splitlinesFrom_cons (by decide), if_pos hfeed, List.append_nil]
    rfl
  | cons c text ih =>
    have hc := h c List.mem_cons_self
    have hreturn : c ≠ '\r' := by
      rintro rfl
      cases hc
    rw [List.cons_append, splitlinesFrom_cons hreturn, hc, if_neg Bool.false_ne_true,
      ih fun d hd => h d (List.mem_cons_of_mem _ hd), List.append_assoc, List.singleton_append]

/-- Lines without boundaries are read as they were written. -/
theorem splitlines_flatten (h : ∀ line ∈ lines, ∀ c ∈ line, isLineBoundary c = false) :
    splitlines (lines.map (· ++ ['\n'])).flatten = lines := by
  induction lines with
  | nil => rfl
  | cons line lines ih =>
    rw [List.forall_mem_cons] at h
    rw [List.map_cons, List.flatten_cons, List.append_assoc, List.singleton_append, splitlines,
      splitlinesFrom_append h.1, ih h.2, List.nil_append]

/-! ## Numerals -/

/-- A numeral of digits is read unless it is too long. -/
theorem toNat?_ascii (h : text ≠ []) (hdigits : ∀ c ∈ text, c.isDigit = true) : toNat? Digits.ascii text =
    if 4300 < text.length then none else some (numberOf 10 (text.map fun c => c.toNat - '0'.toNat)) := by
  have hdecimal : ∀ c : Char, c.isDigit = true → Digits.ascii.decimal c = some (c.toNat - '0'.toNat) := by
    intro c hc
    have hrange : '0' ≤ c ∧ c ≤ '9' := by simpa [Char.isDigit, Char.le_def] using hc
    exact if_pos hrange
  have hread : numeralDigits Digits.ascii text = some (text.map fun c => c.toNat - '0'.toNat) := by
    induction text with
    | nil => exact absurd rfl h
    | cons c text ih =>
      rw [List.forall_mem_cons] at hdigits
      cases text with
      | nil => simp [numeralDigits, hdecimal c hdigits.1]
      | cons d text =>
        have hd : d ≠ '_' := by
          rintro rfl
          exact absurd (hdigits.2 '_' List.mem_cons_self) (by decide)
        rw [numeralDigits]
        · simp [hdecimal c hdigits.1, ih (List.cons_ne_nil _ _) hdigits.2]
        · simp
        · simp [hd]
  have hlimit : Digits.ascii.maxStrDigits = 4300 := rfl
  simp [toNat?, hread, hlimit, numberOf]

theorem numberOf_concat {base d : Nat} {digits : List Nat} :
    numberOf base (digits ++ [d]) = base * numberOf base digits + d := by
  unfold numberOf
  rw [List.foldl_append, List.foldl_cons, List.foldl_nil]

theorem numberOf_eq_ofDigits {base : Nat} (digits : List Nat) :
    numberOf base digits = Nat.ofDigits base digits.reverse := by
  induction digits using List.reverseRecOn with
  | nil => rfl
  | append_singleton digits d ih =>
    rw [numberOf_concat, ih, List.reverse_concat, Nat.ofDigits_cons, Nat.add_comm]

theorem numberOf_lt {base : Nat} {digits : List Nat} (hbase : 1 < base) (h : ∀ d ∈ digits, d < base) :
    numberOf base digits < base ^ digits.length := by
  rw [numberOf_eq_ofDigits, ← List.length_reverse]
  exact Nat.ofDigits_lt_base_pow_length hbase fun d hd => h d (List.mem_reverse.1 hd)

/-- Digits without leading zero are known by their number. -/
theorem numberOf_inj {base : Nat} {digits digits' : List Nat} (hbase : 1 < base)
    (h : ∀ d ∈ digits, d < base) (h' : ∀ d ∈ digits', d < base) (hhead : digits.head? ≠ some 0)
    (hhead' : digits'.head? ≠ some 0) (heq : numberOf base digits = numberOf base digits') :
    digits = digits' := by
  have hdigits : ∀ {digits : List Nat}, (∀ d ∈ digits, d < base) → digits.head? ≠ some 0 →
      Nat.digits base (numberOf base digits) = digits.reverse := by
    intro digits h hhead
    rw [numberOf_eq_ofDigits]
    refine Nat.digits_ofDigits base hbase _ (fun d hd => h d (List.mem_reverse.1 hd)) fun hne hzero => ?_
    rw [List.getLast_reverse] at hzero
    exact hhead (List.head_eq_iff_head?_eq_some _ |>.1 hzero)
  have hsame := hdigits h hhead
  rw [heq, hdigits h' hhead'] at hsame
  exact (List.reverse_injective hsame).symm

end Texts
