import GostManager.Texts.Paths

/-!
# Proofs: paths

An absolute path is read back from its text, and one that is its own `normpath` does not lead upwards.
-/

namespace Texts

variable {text comp name : Text} {names : List Text} {root : PathRoot} {path other base : PurePath}

theorem isName_iff : isName name = true ↔ name ≠ [] ∧ name ≠ ['.'] ∧ '/' ∉ name := by
  simp [isName, and_assoc]

theorem filter_splitOn_intercalate (h : ∀ name ∈ names, isName name = true) :
    (splitOn '/' (['/'].intercalate names)).filter isName = names := by
  by_cases hempty : names = []
  · rw [hempty]
    rfl
  · rw [splitOn_intercalate (fun name hname => (isName_iff.1 (h name hname)).2.2) hempty]
    exact List.filter_eq_self.2 h

/-- The slashes of the root stand before empty parts. -/
theorem filter_splitOn_root : (splitOn '/' (root.text ++ text)).filter isName = (splitOn '/' text).filter isName := by
  cases root with
  | relative => rfl
  | single => rfl
  | double => rfl

theorem head_intercalate_ne (h : ∀ name ∈ names, isName name = true) :
    (['/'].intercalate names).head? ≠ some '/' := by
  cases names with
  | nil => exact nofun
  | cons name names =>
    obtain ⟨hne, -, hslash⟩ := isName_iff.1 (h name List.mem_cons_self)
    obtain ⟨c, rest, rfl⟩ := List.exists_cons_of_ne_nil hne
    intro hhead
    have hc : c = '/' := by
      cases names <;> simpa [List.intercalate, List.intersperse] using hhead
    exact hslash (hc ▸ List.mem_cons_self)

theorem pathRoot_append (h : text.head? ≠ some '/') (habsolute : root ≠ .relative) :
    pathRoot (root.text ++ text) = root := by
  cases text with
  | nil =>
    cases root with
    | relative => exact absurd rfl habsolute
    | single => rfl
    | double => rfl
  | cons c text =>
    have hc : c ≠ '/' := fun heq => h (heq ▸ rfl)
    cases root with
    | relative => exact absurd rfl habsolute
    | single => simp [pathRoot, PathRoot.text, hc]
    | double => simp [pathRoot, PathRoot.text, hc]

theorem pathRoot_ne_relative (h : text.head? = some '/') : pathRoot text ≠ .relative := by
  cases text with
  | nil => cases h
  | cons c text =>
    obtain rfl := Option.some.inj h
    unfold pathRoot
    split
    · exact nofun
    · exact nofun
    · exact nofun
    · next hother => exact absurd rfl (hother text)

namespace PurePath

theorem ext (hroot : path.root = other.root) (hnames : path.names = other.names) : path = other := by
  cases path
  cases other
  cases hroot
  cases hnames
  rfl

theorem text_of_absolute (h : path.root ≠ .relative) :
    path.text = path.root.text ++ ['/'].intercalate path.names :=
  if_neg fun hempty => h hempty.1

/-- An absolute path is read back. -/
theorem ofText_text (h : path.root ≠ .relative) : ofText path.text = path := by
  rw [text_of_absolute h]
  refine ext (pathRoot_append (head_intercalate_ne path.named) h) ?_
  exact filter_splitOn_root.trans (filter_splitOn_intercalate path.named)

theorem mem_parents : base ∈ path.parents ↔
    base.root = path.root ∧ ∃ rest, rest ≠ [] ∧ path.names = base.names ++ rest := by
  simp only [parents, List.mem_map, List.mem_reverse, List.mem_range]
  constructor
  · rintro ⟨n, hn, rfl⟩
    refine ⟨rfl, path.names.drop n, ?_, (List.take_append_drop n path.names).symm⟩
    exact fun hempty => Nat.not_le_of_lt hn (List.drop_eq_nil_iff.1 hempty)
  · rintro ⟨hroot, rest, hrest, hnames⟩
    refine ⟨base.names.length, ?_, ext hroot.symm ?_⟩
    · rw [hnames, List.length_append]
      exact Nat.lt_add_of_pos_right (List.length_pos_of_ne_nil hrest)
    · exact (congrArg (List.take base.names.length) hnames).trans List.take_left

end PurePath

/-! ## `normpath` -/

/-- The parts of an absolute path that `normpath` keeps. -/
def Upright (names : List Text) : Prop := ∀ name ∈ names, isName name = true ∧ name ≠ parentName

theorem Upright.push (h : Upright names) (hslash : '/' ∉ comp) : Upright (pushComponent true names comp) := by
  unfold pushComponent
  by_cases hskipped : comp = [] ∨ comp = ['.']
  · rw [if_pos hskipped]
    exact h
  · rw [if_neg hskipped]
    by_cases hkept : comp ≠ parentName ∨ (true = false ∧ names = []) ∨ names.getLast? = some parentName
    · rw [if_pos hkept]
      -- nothing leads upwards, so the last part does not
      have hcomp : comp ≠ parentName := by
        rcases hkept with hcomp | ⟨hfalse, -⟩ | hlast
        · exact hcomp
        · cases hfalse
        · exact absurd rfl (h _ (List.mem_of_getLast? hlast)).2
      intro name hname
      rcases List.mem_append.1 hname with hname | hname
      · exact h name hname
      · rw [List.mem_singleton.1 hname]
        exact ⟨isName_iff.2 ⟨fun heq => hskipped (.inl heq), fun heq => hskipped (.inr heq), hslash⟩, hcomp⟩
    · rw [if_neg hkept]
      exact fun name hname => h name (List.mem_of_mem_dropLast hname)

theorem Upright.foldl {comps : List Text} (h : Upright names) (hslash : ∀ comp ∈ comps, '/' ∉ comp) :
    Upright (comps.foldl (pushComponent true) names) := by
  induction comps generalizing names with
  | nil => exact h
  | cons comp comps ih =>
    rw [List.forall_mem_cons] at hslash
    exact ih (h.push hslash.1) hslash.2

/-- An absolute path that is its own `normpath` is the text of a path, and leads nowhere upwards. -/
theorem of_normpath_eq (habsolute : pathRoot text ≠ .relative) (h : normpath text = text) :
    (PurePath.ofText text).text = text ∧ parentName ∉ (PurePath.ofText text).names := by
  have hne : text ≠ [] := by
    rintro rfl
    exact habsolute rfl
  have hupright : Upright ((splitOn '/' text).foldl (pushComponent true) []) :=
    Upright.foldl nofun fun comp hcomp => not_mem_of_mem_splitOn hcomp
  generalize hnames : (splitOn '/' text).foldl (pushComponent true) [] = names at hupright
  have hpath : text = (pathRoot text).text ++ ['/'].intercalate names := by
    have hroot : (pathRoot text).text ≠ [] := by
      cases hroot : pathRoot text with
      | relative => exact absurd hroot habsolute
      | single => exact nofun
      | double => exact nofun
    unfold normpath at h
    simp only [if_neg hne, habsolute, ne_eq, not_false_eq_true, decide_true, hnames] at h
    rw [if_neg fun hempty => hroot (List.append_eq_nil_iff.1 hempty).1] at h
    exact h.symm
  have hread : (PurePath.ofText text).names = names := by
    have hfilter := filter_splitOn_intercalate fun name hname => (hupright name hname).1
    exact (congrArg (fun text => (splitOn '/' text).filter isName) hpath).trans (filter_splitOn_root.trans hfilter)
  refine ⟨?_, ?_⟩
  · rw [PurePath.text_of_absolute habsolute, hread]
    exact hpath.symm
  · rw [hread]
    exact fun hmem => (hupright _ hmem).2 rfl

end Texts
