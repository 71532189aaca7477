import GostManager.Texts.Shell
import GostManager.Texts.Proofs.LinesProofs

/-!
# Proofs: fields

The fields of a text are its parts, and the parts can be joined again.
-/

namespace Texts

variable {separator c : Char} {text part : Text} {parts : List Text}

theorem splitOnFrom_eq : splitOnFrom separator part text =
    List.splitOnPPrepend (· == separator) text part.reverse := by
  induction text generalizing part with
  | nil => rw [List.splitOnPPrepend_nil, List.reverse_reverse, splitOnFrom_nil]
  | cons c text ih =>
    by_cases hc : c = separator
    · rw [hc, splitOnFrom_cons_self, ih,
        List.splitOnPPrepend_cons_pos (p := (· == separator)) (beq_self_eq_true separator),
        List.reverse_reverse, List.reverse_nil, List.splitOnPPrepend_nil_right]
    · rw [splitOnFrom_cons_of_ne hc, ih, List.splitOnPPrepend_cons_neg (by simpa using hc),
        List.reverse_append, List.reverse_singleton, List.singleton_append]

theorem splitOn_eq : splitOn separator text = List.splitOn separator text := splitOnFrom_eq

theorem splitOn_ne_nil : splitOn separator text ≠ [] := by
  rw [splitOn_eq]
  exact List.splitOn_ne_nil separator text

/-- The parts between separators make up the text. -/
theorem intercalate_splitOn : [separator].intercalate (splitOn separator text) = text := by
  rw [splitOn_eq]
  exact List.intercalate_splitOn separator

theorem splitOn_intercalate (hparts : ∀ part ∈ parts, separator ∉ part) (hne : parts ≠ []) :
    splitOn separator ([separator].intercalate parts) = parts := by
  rw [splitOn_eq]
  exact List.splitOn_intercalate separator hparts hne

theorem infix_cons_iff : [separator, separator] <:+: c :: text ↔
    c = separator ∧ text.head? = some separator ∨ [separator, separator] <:+: text := by
  rw [List.infix_cons_iff, List.cons_prefix_cons, eq_comm]
  refine or_congr (and_congr Iff.rfl ?_) Iff.rfl
  cases text with
  | nil => simp
  | cons d text => simp [List.cons_prefix_cons, eq_comm]

/-- A part is empty at the ends of the text or between two separators. -/
theorem nil_mem_splitOnFrom : [] ∈ splitOnFrom separator part text ↔
    part = [] ∧ (text = [] ∨ text.head? = some separator) ∨ text.getLast? = some separator ∨
      [separator, separator] <:+: text := by
  induction text generalizing part with
  | nil =>
    rw [splitOnFrom_nil, List.mem_singleton, @eq_comm _ []]
    simp
  | cons c text ih =>
    rw [infix_cons_iff]
    by_cases hc : c = separator
    · subst hc
      rw [splitOnFrom_cons_self, List.mem_cons, ih]
      cases text with
      | nil => simp
      | cons d text =>
        simp
        tauto
    · rw [splitOnFrom_cons_of_ne hc, ih]
      cases text with
      | nil => simp [hc]
      | cons d text => simp [hc]

theorem nil_mem_splitOn : [] ∈ splitOn separator text ↔
    text = [] ∨ text.head? = some separator ∨ text.getLast? = some separator ∨
      [separator, separator] <:+: text := by
  unfold splitOn
  rw [nil_mem_splitOnFrom]
  tauto

/-- The last part is empty where a separator ends the text. -/
theorem getLast?_splitOnFrom : (splitOnFrom separator part text).getLast? = some [] ↔
    part = [] ∧ text = [] ∨ text.getLast? = some separator := by
  induction text generalizing part with
  | nil => simp
  | cons c text ih =>
    by_cases hc : c = separator
    · subst hc
      have hne : splitOnFrom c [] text ≠ [] := splitOn_ne_nil
      rw [splitOnFrom_cons_self, List.getLast?_cons_of_ne_nil hne, ih]
      cases text <;> simp
    · rw [splitOnFrom_cons_of_ne hc, ih]
      cases text with
      | nil => simp [hc]
      | cons d text => simp

theorem getLast?_splitOn : (splitOn separator text).getLast? = some [] ↔
    text = [] ∨ text.getLast? = some separator := by
  unfold splitOn
  rw [getLast?_splitOnFrom]
  simp

theorem headD_splitOn (h : c ∉ text) : (splitOn c text).headD [] = text := by
  unfold splitOn
  rw [splitOnFrom_of_not_mem h]
  rfl

/-- Without an empty part the fields are the parts. -/
theorem readArray_eq_splitOn (hline : '\n' ∉ text) (hnil : [] ∉ splitOn separator text) :
    readArray separator text = splitOn separator text := by
  unfold readArray
  rw [headD_splitOn hline]
  exact if_neg fun hlast => hnil (List.mem_of_mem_getLast? hlast)

/-! ## Before and after -/

theorem separator_not_mem_before : separator ∉ before separator text := by
  intro hmem
  have hfalse := List.mem_takeWhile_imp hmem
  simp at hfalse

theorem before_of_not_mem (h : separator ∉ text) : before separator text = text := by
  unfold before
  rw [List.takeWhile_eq_self_iff]
  intro c hc
  rw [decide_eq_true_eq]
  rintro rfl
  exact h hc

/-- A text is what comes before the first separator and what comes after it. -/
theorem before_append_after (h : separator ∈ text) :
    before separator text ++ separator :: after separator text = text := by
  have hne : text.dropWhile (· ≠ separator) ≠ [] := by
    intro hnil
    have hall := List.dropWhile_eq_nil_iff.1 hnil _ h
    simp at hall
  have hhead : (text.dropWhile (· ≠ separator)).head hne = separator := by
    simpa using List.head_dropWhile_not (· ≠ separator) hne
  have hcons : separator :: (text.dropWhile (· ≠ separator)).tail = text.dropWhile (· ≠ separator) := by
    conv => lhs; arg 1; rw [← hhead]
    exact List.cons_head_tail hne
  unfold before after
  rw [if_pos h, hcons, List.takeWhile_append_dropWhile]

/-- A text is cut at its first separator. -/
theorem splitOn_of_mem (h : separator ∈ text) :
    splitOn separator text = before separator text :: splitOn separator (after separator text) := by
  conv => lhs; rw [← before_append_after h]
  unfold splitOn
  rw [splitOnFrom_append, splitOnFrom_of_not_mem separator_not_mem_before]
  rfl

/-! ## Space -/

theorem mem_of_mem_strip (h : c ∈ strip text) : c ∈ text :=
  (List.dropWhile_sublist isspace).mem ((List.rdropWhile_prefix isspace _).mem h)

theorem strip_strip : strip (strip text) = strip text := by
  have hleft : (strip text).dropWhile isspace = strip text := by
    obtain ⟨rest, hrest⟩ := List.rdropWhile_prefix isspace (text.dropWhile isspace)
    cases hstrip : strip text with
    | nil => rfl
    | cons c word =>
      have hdrop : text.dropWhile isspace = c :: (word ++ rest) := by
        rw [← hrest]
        exact congrArg (· ++ rest) hstrip
      have hc : isspace c = false := by
        have hhead := List.head_dropWhile_not isspace (l := text) (by rw [hdrop]; exact nofun)
        simpa [hdrop] using hhead
      exact List.dropWhile_cons_of_neg (by simp [hc])
  calc strip (strip text) = (strip text).rdropWhile isspace := congrArg (List.rdropWhile isspace) hleft
    _ = strip text := List.rdropWhile_idempotent isspace _

end Texts
