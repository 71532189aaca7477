import GostManager.Firewall.Mutation
import GostManager.Firewall.Proofs.TransitionProofs

/-!
# Proofs: mutations

The commands that fail are counted: the first one that fails ends the change of the rules, and if it is the
only one, the old rules are put back. Whatever was changed, the unmanaged rules are the same, and the managed
ones are known from their positions.
-/

namespace Firewall

open Effects Effects.Prog Lists

variable {number k : Nat} {chain chain' : Chain} {rule : Rule} {rules : List Rule} {α β : Type}

/-! ## Counting failures -/

/-- Commands are counted, and nothing else is asked for. -/
abbrev counting : Contract Op Ans (Chain × Nat) := ⟨counted, fun _ _ => True⟩

/-- No command fails on the way to a value, and one on the way to a `RuntimeError`. -/
def Counting (φ : α → Chain → Prop) (ψ : Chain → Prop) (k : Nat) : Except Exn α → Chain × Nat → Prop
  | .ok a, s => φ a s.1 ∧ s.2 = k
  | .error (.runtimeError _), s => ψ s.1 ∧ s.2 = k + 1
  | .error (.systemExit _), _ => False

section Counting

variable {p : Script α} {φ φ' : α → Chain → Prop} {ψ ψ' : Chain → Prop}

theorem Counting.mono (h : wp counting p (Counting φ ψ k) (chain, k))
    (hφ : ∀ a chain, φ a chain → φ' a chain) (hψ : ∀ chain, ψ chain → ψ' chain) :
    wp counting p (Counting φ' ψ' k) (chain, k) := by
  refine wp_mono h ?_
  rintro (⟨⟨message⟩ | ⟨code⟩⟩ | a) s h'
  · exact ⟨hψ _ h'.1, h'.2⟩
  · exact h'
  · exact ⟨hφ _ _ h'.1, h'.2⟩

theorem Counting.bind {f : α → Script β} {θ : β → Chain → Prop}
    (h : wp counting p (Counting φ ψ k) (chain, k))
    (hf : ∀ a chain, φ a chain → wp counting (f a) (Counting θ ψ k) (chain, k)) :
    wp counting (p >>= f) (Counting θ ψ k) (chain, k) := by
  refine wp_bind.2 (wp_mono h ?_)
  rintro (⟨⟨message⟩ | ⟨code⟩⟩ | a) ⟨chain', k'⟩ h'
  · exact h'
  · exact h'
  · obtain ⟨hφ, rfl⟩ := h'
    exact hf a chain' hφ

/-- What is caught has failed once. -/
theorem Counting.attempt {Q : Except Exn (Option α) → Chain × Nat → Prop}
    (h : wp counting p (Counting φ ψ k) (chain, k)) (hsome : ∀ a chain, φ a chain → Q (.ok (some a)) (chain, k))
    (hnone : ∀ chain, ψ chain → Q (.ok none) (chain, k + 1)) :
    wp counting (Firewall.attempt p) Q (chain, k) := by
  unfold Firewall.attempt
  refine wp_handle.2 (wp_bind.2 (wp_mono h ?_))
  rintro (⟨⟨message⟩ | ⟨code⟩⟩ | a) ⟨chain', k'⟩ h'
  · obtain ⟨hψ, rfl⟩ := h'
    exact hnone chain' hψ
  · exact h'.elim
  · obtain ⟨hφ, rfl⟩ := h'
    exact hsome a chain' hφ

end Counting

/-! ## Commands -/

theorem require_done {holds : Prop} [Decidable holds] {message : String} {φ : Unit → Chain → Prop}
    {ψ : Chain → Prop} (h : holds) (hφ : φ () chain) :
    wp counting (require holds message) (Counting φ ψ k) (chain, k) := by
  rw [require, if_pos h]
  exact ⟨hφ, rfl⟩

theorem require_counting {holds : Prop} [Decidable holds] {message : String} {ψ : Chain → Prop}
    (h : holds) : wp counting (require holds message) (Counting (fun _ chain' => chain' = chain) ψ k)
      (chain, k) :=
  require_done h rfl

theorem inputRules_counting : wp counting inputRules
    (Counting (fun rules chain' => rules = chain ∧ chain' = chain) (fun chain' => chain' = chain) k)
    (chain, k) := by
  unfold inputRules
  rw [wp_bind, wp_perform]
  refine ⟨trivial, ?_⟩
  rintro (_ | rules) ⟨chain', k'⟩ ⟨ha, hk⟩
  · exact ⟨ha, hk⟩
  · exact ⟨ha, hk⟩

theorem insertOr_counting {message : String} {position : Nat} :
    wp counting (insertOr message position rule)
      (Counting (fun _ chain' => 1 ≤ position ∧ position ≤ chain.length + 1 ∧
        chain' = chain.insertIdx (position - 1) rule) (fun chain' => chain' = chain) k) (chain, k) := by
  unfold insertOr
  rw [wp_bind, wp_perform]
  refine ⟨trivial, ?_⟩
  rintro (_ | _) ⟨chain', k'⟩ ⟨ha, hk⟩
  · exact ⟨ha, hk⟩
  · exact ⟨ha, hk⟩

/-! ## Deleting the managed rules -/

theorem managed_erase (h : managed number chain = rule :: rules) :
    isManaged number rule = true ∧ managed number (chain.erase rule) = rules := by
  have hrule : rule ∈ managed number chain := by
    rw [h]
    exact List.mem_cons_self
  refine ⟨(List.mem_filter.mp hrule).2, ?_⟩
  rw [managed, ← List.erase_filter, ← managed, h, List.erase_cons_head]

theorem eq_unmanaged (h : managed number chain = []) : chain = unmanaged number chain := by
  refine (List.filter_eq_self.mpr fun rule hrule => ?_).symm
  simpa using List.filter_eq_nil_iff.mp h rule hrule

/-- Each managed rule is deleted once, the first of those that are equal. -/
theorem deleteRules_counting (h : managed number chain = rules) :
    wp counting (deleteRules rules) (Counting (fun _ chain' => chain' = unmanaged number chain)
      (fun chain' => unmanaged number chain' = unmanaged number chain) k) (chain, k) := by
  induction rules generalizing chain with
  | nil => exact ⟨eq_unmanaged h, rfl⟩
  | cons rule rules ih =>
    obtain ⟨hrule, hrules⟩ := managed_erase h
    have hunmanaged : unmanaged number (chain.erase rule) = unmanaged number chain := unmarked_erase hrule
    unfold deleteRules
    rw [wp_bind, wp_perform]
    refine ⟨trivial, ?_⟩
    rintro (_ | _) ⟨chain', k'⟩ ⟨ha, hk⟩
    · obtain rfl : chain' = chain := ha
      exact ⟨rfl, hk⟩
    · obtain ⟨_, rfl⟩ : rule ∈ chain ∧ chain' = chain.erase rule := ha
      obtain rfl : k' = k := hk
      have hrest := ih hrules
      rw [hunmanaged] at hrest
      exact hrest

theorem clear_counting :
    wp counting (clear number) (Counting (fun _ chain' => chain' = unmanaged number chain)
      (fun chain' => unmanaged number chain' = unmanaged number chain) k) (chain, k) := by
  refine Counting.bind (Counting.mono inputRules_counting (fun _ _ h => h) ?_) ?_
  · rintro _ rfl
    rfl
  · rintro _ _ ⟨rfl, rfl⟩
    exact deleteRules_counting rfl

/-! ## Inserting at positions -/

/-- Managed rules at positions that ascend, all behind the managed rules of the chain. -/
structure Follows (number : Nat) (chain : Chain) (positioned : List (Nat × Rule)) : Prop where
  managed : ∀ item ∈ positioned, isManaged number item.2 = true
  ascending : positioned.Pairwise fun x y => x.1 < y.1
  behind : ∀ item ∈ managedPositions number chain, ∀ item' ∈ positioned, item.1 < item'.1

/-- A rule that is inserted is the last managed one. -/
theorem managedPositions_insertIdx {position : Nat} (hrule : isManaged number rule = true)
    (hlast : ∀ item ∈ managedPositions number chain, item.1 < position) (hone : 1 ≤ position)
    (hle : position ≤ chain.length + 1) :
    managedPositions number (chain.insertIdx (position - 1) rule) =
      managedPositions number chain ++ [(position, rule)] := by
  have hposition : 1 + (position - 1) = position := by omega
  have hmarked := @marked_insertIdx _ (isManaged number) chain 1 (position - 1) rule
    (by rwa [hposition]) (by omega) hrule
  rwa [hposition] at hmarked

theorem insertEach_counting {positioned : List (Nat × Rule)} (h : Follows number chain positioned) :
    wp counting (insertEach number positioned)
      (Counting (fun _ chain' => managedPositions number chain' = managedPositions number chain ++ positioned ∧
        unmanaged number chain' = unmanaged number chain)
        (fun chain' => unmanaged number chain' = unmanaged number chain) k) (chain, k) := by
  induction positioned generalizing chain with
  | nil => exact ⟨⟨(List.append_nil _).symm, rfl⟩, rfl⟩
  | cons item positioned ih =>
    obtain ⟨position, rule⟩ := item
    have hrule : isManaged number rule = true := h.managed _ List.mem_cons_self
    have hunmanaged : unmanaged number (chain.insertIdx (position - 1) rule) = unmanaged number chain :=
      unmarked_insertIdx hrule
    unfold insertEach
    refine Counting.bind (require_counting hrule) ?_
    rintro _ chain rfl
    refine Counting.bind (Counting.mono insertOr_counting (fun _ _ h => h) ?_) ?_
    · rintro _ rfl
      rfl
    · rintro _ _ ⟨hone, hle, rfl⟩
      have hmanaged := managedPositions_insertIdx hrule
        (fun item hitem => h.behind item hitem _ List.mem_cons_self) hone hle
      have hascending := List.pairwise_cons.mp h.ascending
      have hfollows : Follows number (chain.insertIdx (position - 1) rule) positioned := by
        refine ⟨fun item hitem => h.managed item (.tail _ hitem), hascending.2, ?_⟩
        intro item hitem item' hitem'
        rw [hmanaged] at hitem
        rcases List.mem_append.mp hitem with hold | hnew
        · exact h.behind item hold item' (.tail _ hitem')
        · rw [List.mem_singleton.mp hnew]
          exact hascending.1 item' hitem'
      refine Counting.mono (ih hfollows) ?_ ?_
      · rintro _ chain' ⟨hpositions, hsame⟩
        rw [hpositions, hmanaged, List.append_assoc]
        exact ⟨rfl, hsame.trans hunmanaged⟩
      · intro chain' hsame
        exact hsame.trans hunmanaged

theorem sorted_managedPositions : (managedPositions number chain).insertionSort sortsBefore =
    managedPositions number chain :=
  List.Pairwise.insertionSort_eq (pairwise_marked.imp fun h => .inl h)

theorem managedPositions_unmanaged : managedPositions number (unmanaged number chain) = [] :=
  marked_of_none fun _ hrule => (of_mem_unmarked hrule).2

theorem managed_eq_map : managed number chain = (managedPositions number chain).map (·.2) :=
  map_snd_marked.symm

/-- The managed rules of a chain are put among the unmanaged rules of another. -/
theorem insertAtPositions_counting {saved : Chain} :
    wp counting (insertAtPositions number (managedPositions number saved))
      (Counting (fun _ chain' => managedPositions number chain' = managedPositions number saved ∧
        unmanaged number chain' = unmanaged number chain)
        (fun chain' => unmanaged number chain' = unmanaged number chain) k) (unmanaged number chain, k) := by
  have hfollows : Follows number (unmanaged number chain) (managedPositions number saved) := by
    refine ⟨fun item hitem => (of_mem_marked hitem).2.2.2, pairwise_marked, ?_⟩
    rw [managedPositions_unmanaged]
    exact fun item hitem => absurd hitem List.not_mem_nil
  have hsame : unmanaged number (unmanaged number chain) = unmanaged number chain := unmarked_unmarked
  unfold insertAtPositions
  rw [sorted_managedPositions]
  refine Counting.mono (insertEach_counting hfollows) ?_ ?_
  · rintro _ chain' ⟨hpositions, hunmanaged⟩
    rw [managedPositions_unmanaged, List.nil_append] at hpositions
    exact ⟨hpositions, hunmanaged.trans hsame⟩
  · intro chain' hunmanaged
    exact hunmanaged.trans hsame

/-! ## New rules -/

theorem unmanaged_cons (h : isManaged number rule = true) :
    unmanaged number (rule :: chain) = unmanaged number chain := by
  rw [unmanaged, unmarked_cons, if_pos h]
  rfl

theorem unmanaged_append :
    unmanaged number (chain ++ unmanaged number chain') = unmanaged number (chain ++ chain') := by
  rw [unmanaged, unmarked_append, unmanaged, unmarked_unmarked, ← unmarked_append]
  rfl

/-- A rule is put at the front. -/
theorem insertFront_counting {message : String} :
    wp counting (insertOr message 1 rule) (Counting (fun _ chain' => chain' = rule :: chain)
      (fun chain' => unmanaged number chain' = unmanaged number chain) k) (chain, k) := by
  refine Counting.mono insertOr_counting ?_ ?_
  · rintro _ _ ⟨-, -, rfl⟩
    exact List.insertIdx_zero
  · rintro _ rfl
    rfl

theorem addAllows_counting (h : ∀ rule ∈ rules, isManaged number rule = true) :
    wp counting (addAllows rules) (Counting (fun _ chain' => chain' = rules.reverse ++ chain)
      (fun chain' => unmanaged number chain' = unmanaged number chain) k) (chain, k) := by
  induction rules generalizing chain with
  | nil => exact ⟨rfl, rfl⟩
  | cons rule rules ih =>
    rw [List.forall_mem_cons] at h
    unfold addAllows
    refine Counting.bind (insertFront_counting) ?_
    rintro _ _ rfl
    have hrest := @ih (rule :: chain) h.2
    rw [unmanaged_cons h.1] at hrest
    refine Counting.mono hrest ?_ fun _ h => h
    rintro _ _ rfl
    rw [List.reverse_cons, List.append_assoc, List.singleton_append]

variable {r : Request}

theorem addRules_counting :
    wp counting (addRules r) (Counting (fun _ chain' => chain' = r.candidate ++ chain)
      (fun chain' => unmanaged r.number chain' = unmanaged r.number chain) k) (chain, k) := by
  have hcandidate := r.isManaged_candidate
  unfold addRules
  unfold Request.candidate at hcandidate ⊢
  split
  · rename_i henabled
    rw [if_pos henabled] at hcandidate
    have hdrop : isManaged r.number (dropRule r.number r.port) = true :=
      hcandidate _ (List.mem_append_right _ (List.mem_singleton.mpr rfl))
    refine Counting.bind (insertFront_counting) ?_
    rintro _ _ rfl
    have hallows := @addAllows_counting r.number k (dropRule r.number r.port :: chain) _
      fun rule hrule => hcandidate rule (List.mem_append_left _ (List.mem_reverse.mp hrule))
    rw [unmanaged_cons hdrop] at hallows
    refine Counting.mono hallows ?_ fun _ h => h
    rintro _ _ rfl
    rw [List.reverse_reverse, List.append_assoc, List.singleton_append]
  · exact ⟨rfl, rfl⟩

/-! ## The script -/

theorem managed_candidate_append :
    managed r.number (r.candidate ++ unmanaged r.number chain) = r.candidate := by
  have hold : (unmanaged r.number chain).filter (isManaged r.number) = [] := by
    rw [List.filter_eq_nil_iff]
    intro rule hrule
    rw [(of_mem_unmarked hrule).2]
    exact Bool.false_ne_true
  rw [managed, List.filter_append, List.filter_eq_self.mpr r.isManaged_candidate, hold, List.append_nil]

/-- New rules are put before the unmanaged ones. -/
theorem change_counting_none :
    wp counting (change r none) (Counting (fun _ chain' => chain' = r.candidate ++ unmanaged r.number chain)
      (fun chain' => unmanaged r.number chain' = unmanaged r.number chain) k) (chain, k) := by
  have hsame : unmanaged r.number (unmanaged r.number chain) = unmanaged r.number chain := unmarked_unmarked
  have hadded : unmanaged r.number (r.candidate ++ unmanaged r.number chain) = unmanaged r.number chain := by
    rw [unmanaged, unmarked_append, unmarked_of_all r.isManaged_candidate]
    exact hsame
  unfold change
  refine Counting.bind clear_counting ?_
  rintro _ _ rfl
  refine Counting.bind (Counting.mono addRules_counting (fun _ _ h => h) fun _ h => h.trans hsame) ?_
  rintro _ _ rfl
  refine Counting.bind (Counting.mono inputRules_counting (fun _ _ h => h) ?_) ?_
  · rintro _ rfl
    exact hadded
  rintro _ _ ⟨rfl, rfl⟩
  refine Counting.bind (require_counting (congrArg (List.map signature) managed_candidate_append)) ?_
  rintro _ _ rfl
  exact require_done (fun _ hpositioned => nomatch hpositioned) rfl

/-- The rules of a snapshot are put among the unmanaged ones. -/
theorem change_counting_some {saved : Chain} :
    wp counting (change r (some (managedPositions r.number saved)))
      (Counting (fun _ chain' => managedPositions r.number chain' = managedPositions r.number saved ∧
        unmanaged r.number chain' = unmanaged r.number chain)
        (fun chain' => unmanaged r.number chain' = unmanaged r.number chain) k) (chain, k) := by
  unfold change
  refine Counting.bind clear_counting ?_
  rintro _ _ rfl
  refine Counting.bind insertAtPositions_counting ?_
  rintro _ chain' ⟨hpositions, hunmanaged⟩
  refine Counting.bind (Counting.mono inputRules_counting (fun _ _ h => h) ?_) ?_
  · rintro _ rfl
    exact hunmanaged
  rintro _ chain' ⟨rfl, rfl⟩
  have hmanaged : managed r.number chain' = (managedPositions r.number saved).map (·.2) := by
    rw [managed_eq_map, hpositions]
  refine Counting.bind (require_counting (congrArg (List.map signature) hmanaged)) ?_
  rintro _ chain' rfl
  refine require_done ?_ ⟨hpositions, hunmanaged⟩
  rintro positioned hpositioned
  rw [hpositions, Option.mem_some_iff.mp hpositioned]

/-- The old rules are put back where they were, among the unmanaged ones. -/
theorem undo_counting {old : Chain} (h : unmanaged number chain = unmanaged number old) :
    wp counting (undo number (managedPositions number old))
      (Counting (fun _ chain' => chain' = old) (fun _ => True) k) (chain, k) := by
  unfold undo
  refine Counting.bind (Counting.mono clear_counting (fun _ _ h => h) fun _ _ => trivial) ?_
  rintro _ _ rfl
  refine Counting.bind (Counting.mono insertAtPositions_counting (fun _ _ h => h) fun _ _ => trivial) ?_
  rintro _ chain' ⟨hpositions, hunmanaged⟩
  refine Counting.bind (Counting.mono inputRules_counting (fun _ _ h => h) fun _ _ => trivial) ?_
  rintro _ _ ⟨rfl, rfl⟩
  exact require_done (congrArg positionedSignatures hpositions)
    (eq_of_marked_eq hpositions (hunmanaged.trans h))

/-- How a script ends on a chain: it has done what is wanted and nothing failed, or it has failed and, if only
once, changed nothing. -/
def Outcome (φ : Chain → Prop) (chain : Chain) (res : Except Exn Unit) (s : Chain × Nat) : Prop :=
  exitCode res = 0 ∧ s.2 = 0 ∧ φ s.1 ∨ exitCode res = 1 ∧ 1 ≤ s.2 ∧ (s.2 = 1 → s.1 = chain)

/-- A change of the rules that fails only with a command is undone, unless another command fails. -/
theorem mutate_counting {restore : Option (List (Nat × Rule))} {φ : Chain → Prop}
    (h : wp counting (change r restore) (Counting (fun _ => φ)
      (fun chain' => unmanaged r.number chain' = unmanaged r.number chain) 0) (chain, 0)) :
    wp counting (mutate r restore) (Outcome φ chain) (chain, 0) := by
  unfold mutate
  refine wp_bind.2 (wp_mono inputRules_counting ?_)
  rintro (⟨⟨message⟩ | ⟨code⟩⟩ | rules) ⟨chain', k'⟩ hlisted
  · obtain ⟨rfl, rfl⟩ := hlisted
    exact .inr ⟨rfl, Nat.le_refl 1, fun _ => rfl⟩
  · exact hlisted.elim
  obtain ⟨⟨rfl, rfl⟩, rfl⟩ := hlisted
  refine wp_bind.2 (Counting.attempt h ?_ ?_)
  · exact fun _ chain' hdone => .inl ⟨rfl, rfl, hdone⟩
  · intro chain' hsame
    refine wp_bind.2 (Counting.attempt (undo_counting hsame) ?_ ?_)
    · exact fun _ chain'' hundone => .inr ⟨rfl, Nat.le_refl 1, fun _ => hundone⟩
    · exact fun chain'' _ => .inr ⟨rfl, Nat.le_succ 1, fun hone => nomatch hone⟩

/-! ## Nothing has to fail -/

/-- A command can succeed on a chain. -/
def CanSucceed (chain : Chain) : Op → Prop
  | .list => True
  | .insert position _ => 1 ≤ position ∧ position ≤ chain.length + 1
  | .deletePosition position => 1 ≤ position ∧ position ≤ chain.length
  | .deleteRule rule => rule ∈ chain

/-- Every command can succeed, and does. -/
abbrev obeyed : Contract Op Ans Chain :=
  ⟨fun chain op a chain' => answers chain op a chain' ∧ failures op a = 0, CanSucceed⟩

theorem exists_success {op : Op} (h : CanSucceed chain op) :
    ∃ a chain', answers chain op a chain' ∧ failures op a = 0 := by
  cases op with
  | list => exact ⟨some chain, chain, ⟨rfl, rfl⟩, rfl⟩
  | insert position rule => exact ⟨true, _, ⟨h.1, h.2, rfl⟩, rfl⟩
  | deletePosition position => exact ⟨true, _, ⟨h.1, h.2, rfl⟩, rfl⟩
  | deleteRule rule => exact ⟨true, _, ⟨h, rfl⟩, rfl⟩

/-- Then there is a run in which none fails. -/
theorem exists_steps {p : Script α} {Q : Except Exn α → Chain → Prop} (h : wp obeyed p Q chain) :
    ∃ res chain', Steps counted (p, chain, k) (.done res, chain', k) ∧ Q res chain' := by
  induction p generalizing chain with
  | done res => exact ⟨res, chain, .refl, h⟩
  | call op next ih =>
    obtain ⟨hop, hnext⟩ := h
    obtain ⟨a, chain', ha, hk⟩ := exists_success hop
    obtain ⟨res, chain'', hsteps, hres⟩ := ih a (hnext a chain' ⟨ha, hk⟩)
    have hstep : Step counted (.call op next, chain, k) (next a, chain', k) := by
      refine .call ⟨ha, ?_⟩
      rw [hk]
      rfl
    exact ⟨res, chain'', .head hstep hsteps, hres⟩

section Obeyed

variable {χ : Nat → Chain → Prop} {ψ : Chain → Prop}

theorem inputRules_obeyed : wp obeyed inputRules
    (Ending (fun rules chain' => rules = chain ∧ chain' = chain) ψ χ) chain := by
  unfold inputRules
  rw [wp_bind, wp_perform]
  refine ⟨trivial, ?_⟩
  rintro (_ | rules) chain' ⟨ha, hk⟩
  · exact absurd hk Nat.one_ne_zero
  · exact ha

theorem insertOr_obeyed {message : String} {position : Nat} (hone : 1 ≤ position)
    (hle : position ≤ chain.length + 1) : wp obeyed (insertOr message position rule)
      (Ending (fun _ chain' => chain' = chain.insertIdx (position - 1) rule) ψ χ) chain := by
  unfold insertOr
  rw [wp_bind, wp_perform]
  refine ⟨⟨hone, hle⟩, ?_⟩
  rintro (_ | _) chain' ⟨ha, hk⟩
  · exact absurd hk Nat.one_ne_zero
  · exact ha.2.2

theorem clear_obeyed :
    wp obeyed (clear number) (Ending (fun _ chain' => chain' = unmanaged number chain) ψ χ) chain := by
  have hdelete : ∀ {rules : List Rule} {chain : Chain}, managed number chain = rules →
      wp obeyed (deleteRules rules) (Ending (fun _ chain' => chain' = unmanaged number chain) ψ χ) chain := by
    intro rules
    induction rules with
    | nil => exact fun h => eq_unmanaged h
    | cons rule rules ih =>
      intro chain h
      obtain ⟨hrule, hrules⟩ := managed_erase h
      have hmem : rule ∈ managed number chain := by
        rw [h]
        exact List.mem_cons_self
      unfold deleteRules
      rw [wp_bind, wp_perform]
      refine ⟨List.mem_of_mem_filter hmem, ?_⟩
      rintro (_ | _) chain' ⟨ha, hk⟩
      · exact absurd hk Nat.one_ne_zero
      · obtain ⟨_, rfl⟩ : rule ∈ chain ∧ chain' = chain.erase rule := ha
        have hrest := ih hrules
        rw [show unmanaged number (chain.erase rule) = unmanaged number chain from unmarked_erase hrule] at hrest
        exact hrest
  refine Ending.bind inputRules_obeyed ?_
  rintro _ _ ⟨rfl, rfl⟩
  exact hdelete rfl

/-- Rules of a chain are put where they were, among its unmanaged rules: their positions are there. That all
are put there means that all are managed. -/
theorem insertEach_obeyed {p : Rule → Bool} {front back : Chain}
    (hp : ∀ rule, isManaged number rule = true → p rule = true) :
    wp obeyed (insertEach number (marked p (front.length + 1) back))
      (Ending (fun _ chain' => chain' = front ++ back ∧
          ∀ item ∈ marked p (front.length + 1) back, isManaged number item.2 = true)
        (fun chain' => unmanaged number chain' = unmanaged number (front ++ back)) χ)
      (front ++ unmanaged number back) := by
  induction back generalizing front with
  | nil => exact ⟨rfl, fun _ h => nomatch h⟩
  | cons rule back ih =>
    have hrest := @ih (front ++ [rule])
    rw [List.length_append, List.length_singleton, List.append_assoc, List.append_assoc,
      List.singleton_append, List.singleton_append] at hrest
    by_cases hmanaged : isManaged number rule = true
    · have hinsert : (front ++ unmanaged number back).insertIdx (front.length + 1 - 1) rule =
          front ++ rule :: unmanaged number back := by
        have happend := @insertIdx_append _ front (unmanaged number back) rule 0
        rwa [Nat.add_zero, List.insertIdx_zero] at happend
      rw [marked_cons, if_pos (hp rule hmanaged), unmanaged_cons hmanaged]
      refine Ending.bind (Ending.mono require_ends (fun _ _ h => h.2) ?_ fun _ _ h => h) ?_
      · rintro _ rfl
        have hcons := @unmanaged_append number front (rule :: back)
        rwa [unmanaged_cons hmanaged] at hcons
      rintro _ _ rfl
      refine Ending.bind (insertOr_obeyed (Nat.le_add_left 1 _) ?_) ?_
      · rw [List.length_append]
        omega
      rintro _ _ rfl
      rw [hinsert]
      refine Ending.mono hrest ?_ (fun _ h => h) fun _ _ h => h
      rintro _ _ ⟨rfl, hback⟩
      exact ⟨rfl, List.forall_mem_cons.mpr ⟨hmanaged, hback⟩⟩
    · have hunmanaged : unmanaged number (rule :: back) = rule :: unmanaged number back := by
        rw [unmanaged, unmarked_cons, if_neg hmanaged]
        rfl
      rw [marked_cons, hunmanaged]
      by_cases hrule : p rule = true
      · rw [if_pos hrule]
        refine Ending.bind (Ending.mono require_ends (fun _ _ h => h) ?_ fun _ _ h => h) ?_
        · rintro _ rfl
          rw [← hunmanaged]
          exact unmanaged_append
        · rintro _ _ ⟨h, _⟩
          exact absurd h hmanaged
      · rw [if_neg hrule]
        exact hrest

/-- Those that are put among the unmanaged rules of another chain find the same positions there. -/
theorem insertAtPositions_obeyed {p : Rule → Bool} {saved : Chain}
    (hp : ∀ rule, isManaged number rule = true → p rule = true)
    (h : unmanaged number saved = unmanaged number chain) :
    wp obeyed (insertAtPositions number (marked p 1 saved))
      (Ending (fun _ chain' => unmanaged number chain' = unmanaged number chain ∧
          ∀ item ∈ marked p 1 saved, isManaged number item.2 = true)
        (fun chain' => unmanaged number chain' = unmanaged number chain) χ) (unmanaged number chain) := by
  have hinserted := @insertEach_obeyed number χ p [] saved hp
  unfold insertAtPositions
  rw [List.Pairwise.insertionSort_eq (pairwise_marked.imp fun h => .inl h), ← h]
  refine Ending.mono hinserted ?_ (fun _ h => h) fun _ _ h => h
  rintro _ _ ⟨rfl, hmanaged⟩
  exact ⟨rfl, hmanaged⟩

theorem addRules_obeyed : wp obeyed (addRules r)
    (Ending (fun _ chain' => chain' = r.candidate ++ chain) ψ χ) chain := by
  have hfront : ∀ {rules : List Rule} {chain : Chain}, wp obeyed (addAllows rules)
      (Ending (fun _ chain' => chain' = rules.reverse ++ chain) ψ χ) chain := by
    intro rules
    induction rules with
    | nil => exact rfl
    | cons rule rules ih =>
      intro chain
      unfold addAllows
      refine Ending.bind (insertOr_obeyed (Nat.le_refl 1) (Nat.le_add_left 1 _)) ?_
      rintro _ _ rfl
      rw [List.reverse_cons, List.append_assoc, List.singleton_append]
      exact ih
  unfold addRules Request.candidate
  split
  · refine Ending.bind (insertOr_obeyed (Nat.le_refl 1) (Nat.le_add_left 1 _)) ?_
    rintro _ _ rfl
    refine Ending.mono hfront ?_ (fun _ h => h) fun _ _ h => h
    rintro _ _ rfl
    rw [List.reverse_reverse, List.append_assoc]
    rfl
  · exact rfl

/-- What is put back is put among the unmanaged rules, wherever a mutation stopped. -/
theorem undo_obeyed {old : Chain} (h : unmanaged number chain = unmanaged number old) :
    wp obeyed (undo number (managedPositions number old)) (Ending (fun _ _ => True) (fun _ => True) χ) chain := by
  unfold undo
  refine Ending.bind clear_obeyed ?_
  rintro _ _ rfl
  refine Ending.bind (Ending.mono (insertAtPositions_obeyed (fun _ h => h) h.symm) (fun _ _ _ => trivial)
    (fun _ _ => trivial) fun _ _ h => h) ?_
  rintro _ _ _
  refine Ending.bind inputRules_obeyed ?_
  rintro _ _ ⟨rfl, rfl⟩
  exact Ending.mono require_ends (fun _ _ _ => trivial) (fun _ _ => trivial) fun _ _ h => h

theorem change_obeyed {restore : Option (List (Nat × Rule))} {φ : Prop}
    (h : wp obeyed (putRules r restore)
      (Ending (fun _ chain' => unmanaged r.number chain' = unmanaged r.number chain ∧ φ)
        (fun chain' => unmanaged r.number chain' = unmanaged r.number chain) χ) (unmanaged r.number chain)) :
    wp obeyed (change r restore) (Ending (fun _ _ => φ)
      (fun chain' => unmanaged r.number chain' = unmanaged r.number chain) χ) chain := by
  unfold change
  refine Ending.bind clear_obeyed ?_
  rintro _ _ rfl
  refine Ending.bind h ?_
  rintro _ chain' ⟨hsame, hφ⟩
  refine Ending.bind inputRules_obeyed ?_
  rintro _ chain' ⟨rfl, rfl⟩
  refine Ending.bind (Ending.mono require_ends (fun _ _ h => h.2) ?_ fun _ _ h => h) ?_
  · rintro _ rfl
    exact hsame
  rintro _ chain' rfl
  refine Ending.mono require_ends (fun _ _ _ => hφ) ?_ fun _ _ h => h
  rintro _ rfl
  exact hsame

/-- A mutation, and what its `except` block does, can always go on. -/
theorem mutate_obeyed {restore : Option (List (Nat × Rule))} {φ : Prop}
    (h : wp obeyed (putRules r restore)
      (Ending (fun _ chain' => unmanaged r.number chain' = unmanaged r.number chain ∧ φ)
        (fun chain' => unmanaged r.number chain' = unmanaged r.number chain) fun code _ => code = 1)
      (unmanaged r.number chain)) :
    wp obeyed (mutate r restore) (Ending (fun _ _ => φ) (fun _ => True) fun code _ => code = 1) chain := by
  unfold mutate
  refine Ending.bind inputRules_obeyed ?_
  rintro _ chain ⟨rfl, rfl⟩
  refine Ending.bind (Ending.attempt (change_obeyed h)) ?_
  rintro (_ | _) chain' hchanged
  · refine Ending.bind (Ending.attempt (undo_obeyed hchanged)) ?_
    exact fun _ _ _ => rfl
  · exact hchanged

end Obeyed

/-! ## Atomic mutations -/

section Atomic

variable {saved : Option Chain} {φ : Chain → Prop} {failed code : Nat}

/-- How a run of a mutation ends. -/
theorem EndsAfter.outcome {restore : Option (List (Nat × Rule))}
    (h : wp counting (change r restore) (Counting (fun _ => φ)
      (fun chain' => unmanaged r.number chain' = unmanaged r.number chain) 0) (chain, 0))
    (he : EndsAfter failed (mutate r restore) chain code chain') :
    code = 0 ∧ failed = 0 ∧ φ chain' ∨ code = 1 ∧ 1 ≤ failed ∧ (failed = 1 → chain' = chain) := by
  obtain ⟨res, hsteps, rfl⟩ := he
  exact wp_steps hsteps (mutate_counting h)

/-- Without failures a mutation ends, and with exit code `0` only if what it restores is managed. -/
theorem exists_endsAfter (h : ∀ saved' ∈ saved, unmanaged r.number saved' = unmanaged r.number chain) :
    ∃ code chain', EndsAfter 0 (mutate r (saved.map (snapshotRules r.number))) chain code chain' ∧
      (code = 0 → ∀ saved' ∈ saved, ∀ item ∈ snapshotRules r.number saved',
        isManaged r.number item.2 = true) := by
  have hobeyed : wp obeyed (mutate r (saved.map (snapshotRules r.number)))
      (Ending (fun _ _ => ∀ saved' ∈ saved, ∀ item ∈ snapshotRules r.number saved',
        isManaged r.number item.2 = true) (fun _ => True) fun code _ => code = 1) chain := by
    refine mutate_obeyed ?_
    cases saved with
    | none =>
      refine Ending.mono addRules_obeyed ?_ (fun _ h => h) fun _ _ h => h
      rintro _ _ rfl
      refine ⟨?_, fun _ h => nomatch h⟩
      rw [unmanaged_append, unmanaged, unmarked_append, unmarked_of_all r.isManaged_candidate]
      rfl
    | some saved =>
      have hmentions : ∀ rule, isManaged r.number rule = true →
          (mentionsComment (allowComment r.number) rule || mentionsComment (dropComment r.number) rule) =
            true := fun rule hrule => mentionsComment_of_isManaged hrule
      refine Ending.mono (insertAtPositions_obeyed hmentions (h saved rfl)) ?_ (fun _ h => h) fun _ _ h => h
      rintro _ chain' ⟨hsame, hmanaged⟩
      refine ⟨hsame, fun saved' hsaved => ?_⟩
      rw [← Option.mem_some_iff.mp hsaved]
      exact hmanaged
  obtain ⟨res, chain', hsteps, hres⟩ := exists_steps hobeyed
  refine ⟨exitCode res, chain', ⟨res, hsteps, rfl⟩, fun hcode => ?_⟩
  rcases res with (⟨message⟩ | ⟨code⟩) | _
  · exact absurd hcode Nat.one_ne_zero
  · exact absurd (hres.symm.trans hcode) Nat.one_ne_zero
  · exact hres

theorem atomic_of_change {restored : Chain → Prop}
    (h : wp counting (change r (saved.map (snapshotRules r.number))) (Counting (fun _ => restored)
      (fun chain' => unmanaged r.number chain' = unmanaged r.number chain) 0) (chain, 0))
    (hrestored : ∀ chain', restored chain' → Wanted r chain saved chain') : Atomic r saved chain := by
  refine ⟨?_, ?_, ?_⟩
  · intro code chain' he
    rcases he.outcome h with ⟨_, hfailed, _⟩ | ⟨hcode, _, hchain⟩
    · exact absurd hfailed Nat.one_ne_zero
    · exact ⟨hcode, hchain rfl⟩
  · intro code chain' he
    rcases he.outcome h with ⟨hcode, _, hdone⟩ | ⟨_, hfailed, _⟩
    · exact ⟨hcode, hrestored chain' hdone⟩
    · exact absurd hfailed (Nat.not_succ_le_zero 0)
  · intro hsame
    obtain ⟨code, chain', he, _⟩ := exists_endsAfter hsame
    exact ⟨code, chain', he⟩

/-- A snapshot that can always be restored has managed rules only: without failures, its own chain is the
one where that is seen. -/
theorem isManaged_of_atomic (h : ∀ chain, Atomic r saved chain) :
    ∀ saved' ∈ saved, ∀ item ∈ snapshotRules r.number saved', isManaged r.number item.2 = true := by
  intro saved' hsaved
  obtain ⟨code, chain', he, hmanaged⟩ := @exists_endsAfter saved' r saved fun other hother => by
    rw [Option.mem_unique hother hsaved]
  exact hmanaged ((h saved').succeeded code chain' he).1 saved' hsaved

/-- **Atomic mutations.** Mutations are atomic on every chain exactly when a snapshot that they restore has
managed rules only. -/
theorem mutate_atomic_iff (r : Request) (saved : Option Chain) : (∀ chain, Atomic r saved chain) ↔
    ∀ saved' ∈ saved, ∀ item ∈ snapshotRules r.number saved', isManaged r.number item.2 = true := by
  refine ⟨isManaged_of_atomic, fun hmanaged chain => ?_⟩
  cases saved with
  | none => exact atomic_of_change change_counting_none fun _ h => h
  | some saved =>
    have hsnapshot := snapshotRules_eq (hmanaged saved rfl)
    have hchange := @change_counting_some 0 chain r saved
    rw [← hsnapshot, ← Option.map_some] at hchange
    refine atomic_of_change hchange ?_
    rintro chain' ⟨hpositions, hunmanaged⟩ hsame
    exact eq_of_marked_eq (hpositions.trans hsnapshot) (hunmanaged.trans hsame.symm)

/-- A chain with a rule whose comment quotes that of a profile. -/
def quotingChain : Chain :=
  [["-m", "comment", "--comment", "see --comment gost-manager:kharej-1:allow", "-j", "ACCEPT"]]

/-- It is in the snapshot, and then it is refused. -/
theorem not_mutate_atomic :
    ¬ ∀ (r : Request) (saved : Option Chain) (chain : Chain), Atomic r saved chain := by
  intro h
  have hmanaged := isManaged_of_atomic (h firstPort (some quotingChain)) quotingChain rfl
  have hrefused : (snapshotRules 1 quotingChain).all (fun item => isManaged 1 item.2) = false := by
    decide +kernel
  exact absurd (List.all_eq_true.mpr hmanaged) (ne_true_of_eq_false hrefused)

end Atomic

end Firewall
