import GostManager.Firewall.Proofs.RulesProofs

/-!
# Proofs: transitions of the firewall

At every moment of a transition the chain is an end of the candidate, followed by what remains of the old
chain: its unmanaged rules in their order and some of its managed rules. The old chain is complete unless
the candidate is.
-/

namespace Firewall

open Effects Effects.Prog Lists

variable {number : Nat} {before rest chain : Chain} {candidate front : List Rule} {r : Request}
  {ψ : Chain → Prop} {χ : Nat → Chain → Prop}

/-! ## What the chain may be -/

/-- What remains of the old chain: its unmanaged rules, and some of its managed rules. -/
structure Remains (number : Nat) (before rest : Chain) : Prop where
  unmanaged : unmanaged number rest = unmanaged number before
  old : ∀ rule ∈ rest, isManaged number rule = true → rule ∈ before

theorem Remains.refl : Remains number before before := ⟨rfl, fun _ h _ => h⟩

/-- A chain in a transition. -/
def Staged (number : Nat) (candidate : List Rule) (before chain : Chain) : Prop :=
  ∃ front rest, chain = front ++ rest ∧ front <:+ candidate ∧ Remains number before rest ∧
    (rest = before ∨ front = candidate)

theorem staged_before (h : front <:+ candidate) : Staged number candidate before (front ++ before) :=
  ⟨front, before, rfl, h, .refl, .inl rfl⟩

theorem staged_candidate (h : Remains number before rest) :
    Staged number candidate before (candidate ++ rest) :=
  ⟨candidate, rest, rfl, List.suffix_refl _, h, .inr rfl⟩

/-- The unmanaged rules are the same all the time. -/
theorem Staged.unmanaged (h : Staged number candidate before chain)
    (hc : ∀ rule ∈ candidate, isManaged number rule = true) :
    unmanaged number chain = unmanaged number before := by
  obtain ⟨front, rest, rfl, hfront, hrest, -⟩ := h
  have hf : ∀ rule ∈ front, isManaged number rule = true := fun rule hr => hc rule (hfront.subset hr)
  unfold Firewall.unmanaged
  rw [unmarked_append, unmarked_of_all hf, List.nil_append]
  exact hrest.unmanaged

/-! ## `prepare` -/

theorem addCandidate_ends {rules : List Rule} {added : Nat} (hc : rules.reverse ++ front = candidate)
    (ha : added = front.length) :
    wp (within (Staged number candidate before)) (addCandidate rules added)
      (Ending (fun result chain => ∃ front, front <:+ candidate ∧ chain = front ++ before ∧
        result.1 = front.length ∧ (result.2 = true → front = candidate)) ψ χ) (front ++ before) := by
  induction rules generalizing front added with
  | nil =>
    have hfront : front = candidate := hc
    exact ⟨front, hfront ▸ List.suffix_refl _, rfl, ha, fun _ => hfront⟩
  | cons rule rules ih =>
    have hfront : front <:+ candidate := ⟨_, hc⟩
    refine Ending.bind (Ending.attempt (insertRule_ends (staged_before hfront))) ?_
    rintro (_ | ⟨⟩) chain h
    · obtain rfl : chain = front ++ before := h
      exact ⟨front, hfront, rfl, ha, fun h => (Bool.false_ne_true h).elim⟩
    · obtain ⟨-, -, rfl⟩ := h
      have hc' : rules.reverse ++ rule :: front = candidate := by
        rw [← hc, List.reverse_cons, List.append_assoc]
        rfl
      have ha' : added + 1 = (rule :: front).length := by
        rw [ha, List.length_cons]
      exact ih hc' ha'

/-- Deleting the first rules of what is there of the candidate. -/
theorem deleteFront_ends {count : Nat} {K : Chain → Prop}
    (hK : ∀ front, front <:+ candidate → K (front ++ before)) (hfront : front <:+ candidate)
    (hcount : count ≤ front.length) :
    wp (within K) (deleteFront count)
      (Ending (fun _ chain => chain = front.drop count ++ before)
        (fun chain => ∃ front, front <:+ candidate ∧ chain = front ++ before) χ) (front ++ before) := by
  induction count generalizing front with
  | zero => rfl
  | succ count ih =>
    cases front with
    | nil => simp at hcount
    | cons rule front =>
      have htail : front <:+ candidate := (List.suffix_cons rule front).trans hfront
      refine Ending.bind (Ending.mono (deletePosition_ends (hK _ hfront)) (fun _ _ h => h) ?_
        fun _ _ h => h) ?_
      · intro chain h
        exact ⟨_, hfront, h⟩
      · intro _ chain h
        obtain ⟨-, -, rfl⟩ := h
        have hcount' : count ≤ front.length := by
          rw [List.length_cons] at hcount
          omega
        exact ih htail hcount'

theorem verify_ends {K : Chain → Prop} {expected : Chain} {message : String} (hK : K chain) :
    wp (within K) (verify expected message)
      (Ending (fun _ chain' => chain' = chain ∧ chain = expected) (fun chain' => chain' = chain) χ)
      chain := by
  refine Ending.bind (inputRules_ends hK) ?_
  rintro rules chain' ⟨rfl, rfl⟩
  refine Ending.mono require_ends ?_ (fun _ h => h) fun _ _ h => h
  rintro _ chain' ⟨h, rfl⟩
  exact ⟨rfl, h⟩

theorem verifyCandidate_ends {inserted : Bool} (hfront : front <:+ candidate) :
    wp (within (Staged number candidate before)) (verifyCandidate candidate before inserted)
      (Ending (fun verified chain => chain = front ++ before ∧
        (verified = some () → front ++ before = candidate ++ before)) ψ χ) (front ++ before) := by
  unfold verifyCandidate
  by_cases h : inserted = true
  · rw [if_pos h]
    refine Ending.mono (Ending.attempt (verify_ends (staged_before hfront))) ?_ (fun _ h => h)
      fun _ _ h => h
    rintro (_ | ⟨⟩) chain h
    · exact ⟨h, nofun⟩
    · exact ⟨h.1, fun _ => h.2⟩
  · rw [if_neg h]
    exact ⟨rfl, nofun⟩

/-- The insertions are undone. -/
theorem undo_ends (hfront : front <:+ candidate) :
    wp (within (Staged number candidate before))
      (do deleteFront front.length; verify before "prepare rollback verification failed")
      (Ending (fun _ chain => chain = before)
        (fun chain => ∃ front, front <:+ candidate ∧ chain = front ++ before) χ) (front ++ before) := by
  refine Ending.bind (deleteFront_ends (fun _ h => staged_before h) hfront (Nat.le_refl _)) ?_
  rintro _ chain rfl
  rw [List.drop_length, List.nil_append]
  have hbefore : Staged number candidate before ([] ++ before) := staged_before List.nil_suffix
  refine Ending.mono (verify_ends hbefore) (fun _ _ h => h.1) ?_ fun _ _ h => h
  rintro chain rfl
  exact ⟨[], List.nil_suffix, rfl⟩

/-- `prepare` puts the candidate before the chain, or undoes what it did, or says that it could not. -/
theorem prepare_ends :
    wp (within (Staged r.number r.candidate before)) (prepare r)
      (Ending (fun count chain => count = r.candidate.length ∧ chain = r.candidate ++ before)
        (fun chain => chain = before)
        (fun code chain => code = 1 ∧ chain = before ∨
          code = 2 ∧ Staged r.number r.candidate before chain)) before := by
  have hbefore : Staged r.number r.candidate before ([] ++ before) := staged_before List.nil_suffix
  refine Ending.bind (inputRules_ends hbefore) ?_
  rintro _ before ⟨rfl, rfl⟩
  have hreverse : r.candidate.reverse.reverse ++ [] = r.candidate := by simp
  have hnil : ([] : List Rule) ++ before = before := rfl
  rw [← hnil]
  refine Ending.bind (addCandidate_ends hreverse rfl) ?_
  rintro ⟨added, inserted⟩ _ ⟨front, hfront, rfl, hadded, -⟩
  obtain rfl : added = front.length := hadded
  refine Ending.bind (verifyCandidate_ends hfront) ?_
  rintro (_ | ⟨⟩) _ ⟨rfl, hverified⟩
  · refine Ending.bind (Ending.attempt (undo_ends hfront)) ?_
    rintro (_ | ⟨⟩) chain h
    · obtain ⟨front, hfront, rfl⟩ := h
      exact .inr ⟨rfl, staged_before hfront⟩
    · exact .inl ⟨rfl, h⟩
  · exact ⟨rfl, hverified rfl⟩

/-! ## Deleting the old rules -/

theorem Remains.eraseIdx {i : Nat} {rule : Rule} (h : Remains number before rest)
    (hi : rest[i]? = some rule) (hm : isManaged number rule = true) :
    Remains number before (rest.eraseIdx i) := by
  refine ⟨?_, fun rule hr hrm => h.old rule (List.mem_of_mem_eraseIdx hr) hrm⟩
  unfold Firewall.unmanaged
  rw [unmarked_eraseIdx hi hm]
  exact h.unmanaged

/-- Positions that descend, of managed rules after the first ones. -/
structure Obsolete (number : Nat) (chain : Chain) (count : Nat) (positions : List Nat) : Prop where
  descend : positions.Pairwise fun x y => y < x
  later : ∀ position ∈ positions, count < position
  managed : ∀ position ∈ positions, ∃ rule, chain[position - 1]? = some rule ∧
    isManaged number rule = true

theorem obsolete_positions {count : Nat} :
    Obsolete number chain count ((obsolete number count chain).map (·.1)).reverse := by
  have hmem : ∀ position ∈ ((obsolete number count chain).map (·.1)).reverse, ∃ rule,
      (position, rule) ∈ managedPositions number chain ∧ count < position := by
    intro position hp
    rw [List.mem_reverse, List.mem_map] at hp
    obtain ⟨⟨position, rule⟩, hp, rfl⟩ := hp
    unfold obsolete at hp
    rw [List.mem_filter] at hp
    exact ⟨rule, hp.1, of_decide_eq_true hp.2⟩
  refine ⟨?_, fun position hp => ?_, fun position hp => ?_⟩
  · rw [List.pairwise_reverse, List.pairwise_map]
    exact pairwise_marked.filter _
  · obtain ⟨rule, -, hlater⟩ := hmem position hp
    exact hlater
  · obtain ⟨rule, hrule, -⟩ := hmem position hp
    obtain ⟨-, -, hget, hm⟩ := of_mem_marked hrule
    exact ⟨rule, hget, hm⟩

/-- The deletion at the last position leaves the others where they are. -/
theorem Obsolete.tail {count position : Nat} {positions : List Nat}
    (h : Obsolete number chain count (position :: positions)) :
    Obsolete number (chain.eraseIdx (position - 1)) count positions := by
  obtain ⟨hfirst, hdescend⟩ := List.pairwise_cons.1 h.descend
  refine ⟨hdescend, fun q hq => h.later q (.tail _ hq), fun q hq => ?_⟩
  obtain ⟨rule, hget, hm⟩ := h.managed q (.tail _ hq)
  have hlt : q < position := hfirst q hq
  have hlater := h.later q (.tail _ hq)
  refine ⟨rule, ?_, hm⟩
  rw [List.getElem?_eraseIdx_of_lt (by omega)]
  exact hget

/-- The candidate is complete, with what remains of the old chain behind it. -/
def Complete (number : Nat) (candidate : List Rule) (before chain : Chain) : Prop :=
  ∃ rest, chain = candidate ++ rest ∧ Remains number before rest

theorem Complete.staged (h : Complete number candidate before chain) :
    Staged number candidate before chain := by
  obtain ⟨rest, rfl, hrest⟩ := h
  exact staged_candidate hrest

theorem deletePositions_ends {K : Chain → Prop} {positions : List Nat}
    (hK : ∀ chain, Complete number candidate before chain → K chain)
    (hp : Obsolete number (candidate ++ rest) candidate.length positions)
    (hrest : Remains number before rest) :
    wp (within K) (deletePositions positions)
      (Ending (fun _ => Complete number candidate before) (Complete number candidate before) χ)
      (candidate ++ rest) := by
  induction positions generalizing rest with
  | nil => exact ⟨rest, rfl, hrest⟩
  | cons position positions ih =>
    have hcomplete : Complete number candidate before (candidate ++ rest) := ⟨rest, rfl, hrest⟩
    refine Ending.bind (Ending.mono (deletePosition_ends (hK _ hcomplete)) (fun _ _ h => h) ?_
      fun _ _ h => h) ?_
    · rintro chain rfl
      exact hcomplete
    · rintro _ chain ⟨-, -, rfl⟩
      obtain ⟨rule, hget, hm⟩ := hp.managed position (.head _)
      have hlater := hp.later position (.head _)
      have hle : candidate.length ≤ position - 1 := by omega
      have htail := hp.tail
      rw [List.getElem?_append_right hle] at hget
      rw [List.eraseIdx_append_of_length_le hle] at htail ⊢
      exact ih htail (hrest.eraseIdx hget hm)

/-! ## `finalize` -/

/-- A complete candidate at the front, and nothing managed behind it. -/
theorem eq_of_positions (hc : ∀ rule ∈ candidate, isManaged number rule = true)
    (hm : managedPositions number chain = enumerate 1 candidate) :
    chain = candidate ++ unmanaged number chain := by
  have hnone : ∀ rule ∈ unmanaged number chain, isManaged number rule = false :=
    fun rule h => (of_mem_unmarked h).2
  refine eq_of_marked_eq (n := 1) (p := isManaged number) ?_ ?_
  · rw [marked_append, marked_of_all hc, marked_of_none hnone, List.append_nil]
    exact hm
  · rw [unmarked_append, unmarked_of_all hc, List.nil_append]
    exact unmarked_unmarked.symm

/-- `finalize` deletes what remains of the old managed rules. -/
theorem finalize_ends :
    wp (within (Complete r.number r.candidate before)) (finalize r r.candidate.length)
      (Ending (fun _ chain => chain = r.candidate ++ unmanaged r.number before)
        (Complete r.number r.candidate before)
        (fun code chain => code = 1 ∧ Complete r.number r.candidate before chain))
      (r.candidate ++ before) := by
  have hstart : Complete r.number r.candidate before (r.candidate ++ before) := ⟨before, rfl, .refl⟩
  refine Ending.bind (Ending.mono (inputRules_ends hstart) (fun _ _ h => h) ?_ fun _ _ h => h) ?_
  · rintro chain rfl
    exact hstart
  rintro current _ ⟨rfl, rfl⟩
  refine wp_ite.2 ⟨fun _ => ⟨rfl, hstart⟩, fun _ => ?_⟩
  refine Ending.bind (Ending.attempt (deletePositions_ends (fun _ h => h) obsolete_positions .refl)) ?_
  rintro (_ | ⟨⟩) chain hchain
  · exact ⟨rfl, hchain⟩
  refine Ending.bind (Ending.mono (inputRules_ends hchain) (fun _ _ h => h) ?_ fun _ _ h => h) ?_
  · rintro _ rfl
    exact hchain
  rintro _ chain ⟨rfl, rfl⟩
  refine wp_ite.2 ⟨fun _ => ⟨rfl, hchain⟩, fun hverified => ?_⟩
  have hpositions : managedPositions r.number chain = enumerate 1 r.candidate := by
    by_contra h
    exact hverified (.inr h)
  have hunmanaged : unmanaged r.number chain = unmanaged r.number before :=
    hchain.staged.unmanaged r.isManaged_candidate
  rw [← hunmanaged]
  exact eq_of_positions r.isManaged_candidate hpositions

/-! ## `rollback` -/

/-- The managed rules behind a candidate stand as far behind it as in the rest alone. -/
theorem obsolete_append :
    obsolete number candidate.length (candidate ++ rest) =
      (managedPositions number rest).map fun item => (item.1 + candidate.length, item.2) := by
  unfold obsolete managedPositions
  rw [marked_append, List.filter_append, marked_add]
  have hfront : (marked (isManaged number) 1 candidate).filter
      (fun item => candidate.length < item.1) = [] := by
    refine List.filter_eq_nil_iff.2 fun item hitem => ?_
    obtain ⟨-, hlt, -⟩ := of_mem_marked (i := item.1) (a := item.2) hitem
    simp only [decide_eq_true_eq]
    omega
  rw [hfront, List.nil_append, List.filter_eq_self]
  intro item hitem
  obtain ⟨⟨position, rule⟩, hmem, rfl⟩ := List.mem_map.1 hitem
  obtain ⟨hle, -⟩ := of_mem_marked hmem
  simp only [decide_eq_true_eq]
  omega

theorem Remains.insertIdx {i : Nat} {rule : Rule} (h : Remains number before rest)
    (hm : isManaged number rule = true) (hrule : rule ∈ before) :
    Remains number before (rest.insertIdx i rule) := by
  refine ⟨?_, fun other hother hom => ?_⟩
  · unfold Firewall.unmanaged
    rw [unmarked_insertIdx hm]
    exact h.unmanaged
  · rcases of_mem_insertIdx hother with rfl | hother
    · exact hrule
    · exact h.old other hother hom

theorem insertSaved_ends {K : Chain → Prop} {saved : List (Nat × Rule)}
    (hK : ∀ chain, Complete number candidate before chain → K chain)
    (hsaved : ∀ item ∈ saved, item ∈ managedPositions number before)
    (hrest : Remains number before rest) :
    wp (within K) (insertSaved candidate.length saved)
      (Ending (fun _ => Complete number candidate before) (Complete number candidate before) χ)
      (candidate ++ rest) := by
  induction saved generalizing rest with
  | nil => exact ⟨rest, rfl, hrest⟩
  | cons item saved ih =>
    obtain ⟨position, rule⟩ := item
    have hcomplete : Complete number candidate before (candidate ++ rest) := ⟨rest, rfl, hrest⟩
    refine Ending.bind (Ending.mono (insertRule_ends (hK _ hcomplete)) (fun _ _ h => h) ?_
      fun _ _ h => h) ?_
    · rintro chain rfl
      exact hcomplete
    · rintro _ chain ⟨-, -, rfl⟩
      have hmem := hsaved _ (.head _)
      obtain ⟨hle, -, -, hm⟩ := of_mem_marked hmem
      have hinsert : (candidate ++ rest).insertIdx (position + candidate.length - 1) rule =
          candidate ++ rest.insertIdx (position - 1) rule := by
        have hp : position + candidate.length - 1 = candidate.length + (position - 1) := by omega
        rw [hp, insertIdx_append]
      rw [hinsert]
      exact ih (fun item h => hsaved item (.tail _ h)) (hrest.insertIdx hm (mem_of_mem_marked hmem))

/-! ### The snapshot -/

theorem ruleComment_cons {argument : String} {rule : Rule} : ruleComment (argument :: rule) =
    if argument = "--comment" then rule.head? else ruleComment rule := by
  by_cases h : argument = "--comment"
  · cases rule <;> simp [ruleComment, h]
  · simp [ruleComment, h]

theorem exists_of_ruleComment {rule : Rule} {comment : String} (h : ruleComment rule = some comment) :
    ∃ front rest, rule = front ++ "--comment" :: comment :: rest := by
  induction rule with
  | nil => cases h
  | cons argument rule ih =>
    rw [ruleComment_cons] at h
    by_cases ha : argument = "--comment"
    · rw [if_pos ha] at h
      obtain ⟨rest, hrest⟩ := List.head?_eq_some_iff.1 h
      exact ⟨[], rest, by rw [ha, hrest, List.nil_append]⟩
    · rw [if_neg ha] at h
      obtain ⟨front, rest, hrule⟩ := ih h
      exact ⟨argument :: front, rest, by rw [hrule, List.cons_append]⟩

theorem ruleText_cons {argument other : String} {rule : Rule} :
    ruleText (argument :: other :: rule) = argument.toList ++ ' ' :: ruleText (other :: rule) := rfl

theorem ruleText_suffix {front : List String} {argument : String} {rule : Rule} :
    ruleText (argument :: rule) <:+ ruleText (front ++ argument :: rule) := by
  induction front with
  | nil => exact List.suffix_refl _
  | cons other front ih =>
    refine ih.trans ?_
    have hstep : ∀ l : Rule, l ≠ [] → ruleText l <:+ ruleText (other :: l) := by
      intro l hl
      cases l with
      | nil => exact absurd rfl hl
      | cons a l =>
        rw [ruleText_cons]
        exact (List.suffix_cons _ _).trans (List.suffix_append _ _)
    exact hstep _ (by simp)

theorem mentionsComment_of_ruleComment {rule : Rule} {comment : String}
    (h : ruleComment rule = some comment) : mentionsComment comment rule = true := by
  obtain ⟨front, rest, rfl⟩ := exists_of_ruleComment h
  have hprefix : comment.toList <+: ruleText (comment :: rest) := by
    cases rest with
    | nil => exact List.prefix_refl _
    | cons argument rest =>
      rw [ruleText_cons]
      exact List.prefix_append _ _
  have hwithin : ("--comment " ++ comment).toList <:+: ruleText ("--comment" :: comment :: rest) := by
    rw [ruleText_cons, String.toList_append]
    obtain ⟨tail, htail⟩ := hprefix
    exact ⟨[], tail, by rw [← htail]; simp⟩
  unfold mentionsComment
  rw [Bool.or_eq_true]
  exact .inl (decide_eq_true (hwithin.trans ruleText_suffix.isInfix))

/-- The text of every managed rule has its comment. -/
theorem mentionsComment_of_isManaged {rule : Rule} (h : isManaged number rule = true) :
    (mentionsComment (allowComment number) rule || mentionsComment (dropComment number) rule) = true := by
  unfold isManaged at h
  rw [Bool.or_eq_true, beq_iff_eq, beq_iff_eq] at h
  rw [Bool.or_eq_true]
  exact h.imp mentionsComment_of_ruleComment mentionsComment_of_ruleComment

/-- If the other rules that are in the snapshot for their text are managed too, the snapshot has the managed
rules. -/
theorem snapshotRules_eq (h : ∀ item ∈ snapshotRules number before, isManaged number item.2 = true) :
    snapshotRules number before = managedPositions number before := by
  exact marked_of_imp (fun rule _ hm => mentionsComment_of_isManaged hm) h

/-! ### Restoring it -/

/-- The old chain is known from its managed positions. -/
theorem Remains.eq (h : Remains number before rest)
    (hm : managedPositions number rest = managedPositions number before) : rest = before :=
  eq_of_marked_eq hm h.unmanaged

theorem sorted_saved : (managedPositions number before).insertionSort (fun x y => x.1 ≤ y.1) =
    managedPositions number before := by
  refine List.Pairwise.insertionSort_eq ?_
  exact pairwise_marked.imp fun h => Nat.le_of_lt h

/-- The `try` block of `rollback` restores the old rules behind the candidate, and then deletes it. -/
theorem restoreSaved_ends (hrest : Remains number before rest) :
    wp (within (Staged number candidate before))
      (restoreSaved number candidate.length (managedPositions number before) (candidate ++ rest))
      (Ending (fun _ chain => chain = before) (Staged number candidate before) χ)
      (candidate ++ rest) := by
  have hK : ∀ chain, Complete number candidate before chain → Staged number candidate before chain :=
    fun _ h => h.staged
  refine Ending.bind (Ending.mono (deletePositions_ends hK obsolete_positions hrest) (fun _ _ h => h)
    hK fun _ _ h => h) ?_
  rintro _ _ ⟨rest, rfl, hrest⟩
  rw [sorted_saved]
  refine Ending.bind (Ending.mono (insertSaved_ends hK (fun _ h => h) hrest) (fun _ _ h => h) hK
    fun _ _ h => h) ?_
  rintro _ _ ⟨rest, rfl, hrest⟩
  have hstaged : Staged number candidate before (candidate ++ rest) := staged_candidate hrest
  refine Ending.bind (Ending.mono (inputRules_ends hstaged) (fun _ _ h => h) ?_ fun _ _ h => h) ?_
  · rintro _ rfl
    exact hstaged
  rintro _ _ ⟨rfl, rfl⟩
  refine Ending.bind (Ending.mono require_ends (fun _ _ h => h) ?_ fun _ _ h => h) ?_
  · rintro _ rfl
    exact hstaged
  rintro _ _ ⟨⟨-, hpositions⟩, rfl⟩
  -- the verification says that the old chain is complete again
  obtain rfl : rest = before := by
    refine hrest.eq ?_
    rw [obsolete_append] at hpositions
    refine List.map_injective_iff.2 ?_ hpositions
    rintro ⟨x, rule⟩ ⟨y, rule'⟩ h
    simpa using h
  refine Ending.bind (Ending.mono (deleteFront_ends (fun _ h => staged_before h) (List.suffix_refl _)
    (Nat.le_refl _)) (fun _ _ h => h) ?_ fun _ _ h => h) ?_
  · rintro _ ⟨front, hfront, rfl⟩
    exact staged_before hfront
  rintro _ _ rfl
  rw [List.drop_length, List.nil_append]
  have hdone : Staged number candidate rest ([] ++ rest) := staged_before List.nil_suffix
  refine Ending.bind (Ending.mono (inputRules_ends hdone) (fun _ _ h => h) ?_ fun _ _ h => h) ?_
  · rintro _ rfl
    exact hdone
  rintro _ _ ⟨rfl, rfl⟩
  refine Ending.mono require_ends ?_ ?_ fun _ _ h => h
  · rintro _ _ ⟨-, rfl⟩
    rfl
  · rintro _ rfl
    exact hdone

/-- `rollback` restores the chain of the snapshot. -/
theorem rollback_ends (hchain : Complete number candidate before chain) :
    wp (within (Staged number candidate before))
      (rollback number candidate.length (snapshotRules number before))
      (Ending (fun _ chain => chain = before) (Staged number candidate before)
        (fun code chain => code = 1 ∧ Staged number candidate before chain)) chain := by
  have hstart := hchain.staged
  obtain ⟨rest, rfl, hrest⟩ := hchain
  refine Ending.bind (Ending.mono (inputRules_ends hstart) (fun _ _ h => h) ?_ fun _ _ h => h) ?_
  · rintro _ rfl
    exact hstart
  rintro _ _ ⟨rfl, rfl⟩
  refine wp_ite.2 ⟨fun _ => ⟨rfl, hstart⟩, fun _ => wp_ite.2 ⟨fun _ => ⟨rfl, hstart⟩, fun hsaved => ?_⟩⟩
  have hmanaged : ∀ item ∈ snapshotRules number before, isManaged number item.2 = true := by
    intro item hitem
    by_contra hm
    refine hsaved (List.any_eq_true.2 ⟨item, hitem, ?_⟩)
    simpa using hm
  rw [snapshotRules_eq hmanaged]
  refine Ending.bind (Ending.attempt (restoreSaved_ends hrest)) ?_
  rintro (_ | ⟨⟩) chain h
  · exact ⟨rfl, h⟩
  · exact h

/-! ## Every chain on the way -/

section Visits

variable {prepared staged : Chain}

/-- A successful `prepare` has put the candidate before the chain. -/
theorem Ends.prepare (h : Ends (prepare r) before 0 chain) : chain = r.candidate ++ before := by
  rcases h.post prepare_ends with ⟨-, _, -, h⟩ | ⟨h, -⟩ | ⟨h, -⟩ | ⟨h, -⟩
  · exact h
  · cases h
  · cases h
  · cases h

theorem Visits.prepare (h : Visits (prepare r) before chain) :
    Staged r.number r.candidate before chain := by
  have hbefore : Staged r.number r.candidate before before := staged_before List.nil_suffix
  refine Visits.within h prepare_ends ?_ ?_ ?_
  · rintro _ _ ⟨-, rfl⟩
    exact staged_before (List.suffix_refl _)
  · rintro _ rfl
    exact hbefore
  · rintro _ _ (⟨-, rfl⟩ | ⟨-, hstaged⟩)
    · exact hbefore
    · exact hstaged

theorem Visits.finalize (hp : Ends (Firewall.prepare r) before 0 prepared)
    (h : Visits (finalize r r.candidate.length) prepared chain) :
    Complete r.number r.candidate before chain := by
  obtain rfl := hp.prepare
  refine Visits.within h finalize_ends ?_ (fun _ h => h) fun _ _ h => h.2
  rintro _ _ rfl
  refine ⟨_, rfl, unmarked_unmarked, fun rule hrule _ => (of_mem_unmarked hrule).1⟩

theorem Visits.rollback (hp : Ends (Firewall.prepare r) before 0 prepared)
    (hf : Visits (Firewall.finalize r r.candidate.length) prepared staged)
    (h : Visits (rollback r.number r.candidate.length (snapshotRules r.number before)) staged chain) :
    Staged r.number r.candidate before chain := by
  refine Visits.within h (rollback_ends (Visits.finalize hp hf)) ?_ (fun _ h => h) fun _ _ h => h.2
  rintro _ _ rfl
  exact staged_before List.nil_suffix

end Visits

/-- Every chain that exists in a transition is staged. -/
theorem Intermediate.staged (h : Intermediate r before chain) :
    Staged r.number r.candidate before chain := by
  cases h with
  | prepare h => exact Visits.prepare h
  | finalize hp h => exact (Visits.finalize hp h).staged
  | rollback hp hf h => exact Visits.rollback hp hf h

/-! ### A port is moved -/

theorem answers_obeying (chain : Chain) (op : Op) :
    answers chain op (obeying chain op).1 (obeying chain op).2 := by
  cases op with
  | list => exact ⟨rfl, rfl⟩
  | insert position rule =>
    by_cases h : 1 ≤ position ∧ position ≤ chain.length + 1
    · rw [show obeying chain (.insert position rule) = (true, _) from if_pos h]
      exact ⟨h.1, h.2, rfl⟩
    · rw [show obeying chain (.insert position rule) = (false, chain) from if_neg h]
      rfl
  | deletePosition position =>
    by_cases h : 1 ≤ position ∧ position ≤ chain.length
    · rw [show obeying chain (.deletePosition position) = (true, _) from if_pos h]
      exact ⟨h.1, h.2, rfl⟩
    · rw [show obeying chain (.deletePosition position) = (false, chain) from if_neg h]
      rfl
  | deleteRule rule =>
    by_cases h : rule ∈ chain
    · rw [show obeying chain (.deleteRule rule) = (true, _) from if_pos h]
      exact ⟨h, rfl⟩
    · rw [show obeying chain (.deleteRule rule) = (false, chain) from if_neg h]
      rfl

/-- What a run on an obeying chain gives. -/
theorem ends_of_obeying {α : Type} {script : Script α} {a : α} {chain' : Chain} {n : Nat}
    (h : runFor obeying n script chain = (.done (.ok a), chain')) : Ends script chain 0 chain' :=
  ⟨.ok a, h ▸ runFor_steps answers_obeying n script chain, rfl⟩

theorem visits_of_obeying {α : Type} (script : Script α) (n : Nat) :
    Visits script chain (runFor obeying n script chain).2 :=
  ⟨_, runFor_steps answers_obeying n script chain⟩

/-- The port of the first profile, for one source. -/
def firstPort : Request where
  number := 1
  port := "8080"
  sources := ["10.0.0.1"]
  enabled := true
  port_ne := by decide
  sources_ne := by decide

/-- Its old port, between other rules. -/
def busyChain : Chain := [["-p", "udp", "-j", "DROP"], dropRule 1 "9090", ["-j", "ACCEPT"]]

theorem snapshotRules_busyChain : snapshotRules 1 busyChain = [(2, dropRule 1 "9090")] := by
  decide +kernel

/-- **Atomic transitions.** Whatever commands fail: `prepare` with exit code `0` has put the candidate
before the chain, and with `1` it has changed nothing; `finalize` with `0` has deleted the old managed
rules; from where a `finalize` may have been cut off, `rollback` with `0` restores the chain; and no
moment of all this touches the unmanaged rules. -/
theorem transition_atomic (r : Request) (before : Chain) :
    (∀ chain, Ends (prepare r) before 0 chain → chain = r.candidate ++ before) ∧
    (∀ chain, Ends (prepare r) before 1 chain → chain = before) ∧
    (∀ prepared chain, Ends (prepare r) before 0 prepared →
      Ends (finalize r r.candidate.length) prepared 0 chain →
      chain = r.candidate ++ unmanaged r.number before) ∧
    (∀ prepared staged chain, Ends (prepare r) before 0 prepared →
      Visits (finalize r r.candidate.length) prepared staged →
      Ends (rollback r.number r.candidate.length (snapshotRules r.number before)) staged 0 chain →
      chain = before) ∧
    (∀ chain, Visits (prepare r) before chain → unmanaged r.number chain = unmanaged r.number before) ∧
    ∀ prepared staged, Ends (prepare r) before 0 prepared →
      Visits (finalize r r.candidate.length) prepared staged →
      unmanaged r.number staged = unmanaged r.number before ∧
      ∀ chain, Visits (rollback r.number r.candidate.length (snapshotRules r.number before)) staged
        chain → unmanaged r.number chain = unmanaged r.number before := by
  refine ⟨fun chain h => h.prepare, fun chain h => ?_, fun prepared chain hp hf => ?_,
    fun prepared staged chain hp hf hr => ?_,
    fun chain h => (Visits.prepare h).unmanaged r.isManaged_candidate,
    fun prepared staged hp hf => ⟨(Visits.finalize hp hf).staged.unmanaged r.isManaged_candidate,
      fun chain hr => (Visits.rollback hp hf hr).unmanaged r.isManaged_candidate⟩⟩
  · rcases h.post prepare_ends with ⟨h, -⟩ | ⟨-, h⟩ | ⟨-, h⟩ | ⟨h, -⟩
    · cases h
    · exact h
    · exact h
    · cases h
  · obtain rfl := hp.prepare
    rcases hf.post finalize_ends with ⟨-, _, h⟩ | ⟨h, -⟩ | ⟨h, -⟩
    · exact h
    · cases h
    · cases h
  · rcases hr.post (rollback_ends (Visits.finalize hp hf)) with ⟨-, _, h⟩ | ⟨h, -⟩ | ⟨h, -⟩
    · exact h
    · cases h
    · cases h

/-- The port is moved, `finalize` is cut off after a deletion, and the old chain comes back. -/
theorem transition_atomic_firstPort :
    Ends (rollback 1 2 (snapshotRules 1 busyChain))
      (runFor obeying 3 (finalize firstPort 2) (firstPort.candidate ++ busyChain)).2 0 busyChain ∧
    ∀ chain, Ends (rollback 1 2 (snapshotRules 1 busyChain))
      (runFor obeying 3 (finalize firstPort 2) (firstPort.candidate ++ busyChain)).2 0 chain →
      chain = busyChain := by
  have hp : Ends (prepare firstPort) busyChain 0 (firstPort.candidate ++ busyChain) := by
    have hrun : runFor obeying 20 (prepare firstPort) busyChain =
      (.done (.ok 2), firstPort.candidate ++ busyChain) := rfl
    exact ends_of_obeying hrun
  refine ⟨?_, fun chain h => ?_⟩
  · rw [snapshotRules_busyChain]
    have hrun : runFor obeying 20 (rollback 1 2 [(2, dropRule 1 "9090")])
      (runFor obeying 3 (finalize firstPort 2) (firstPort.candidate ++ busyChain)).2 =
      (.done (.ok ()), busyChain) := rfl
    exact ends_of_obeying hrun
  · exact (transition_atomic firstPort busyChain).2.2.2.1 _ _ _ hp (visits_of_obeying _ 3) h

end Firewall
