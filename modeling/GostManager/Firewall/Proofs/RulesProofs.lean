import GostManager.Effects.Proofs.ProgramProofs
import GostManager.Firewall.Transition
import GostManager.Lists.Proofs.MarkedProofs

/-!
# Proofs: the commands of the firewall scripts

The weakest precondition of each command, when every chain on the way has to be in a set `K`.
-/

namespace Firewall

open Effects Effects.Prog Lists

/-! ## Managed rules -/

section Managed

variable {number : Nat} {port source : String} {rule : Rule}

theorem isManaged_allowRule (hs : source ≠ "--comment") (hp : port ≠ "--comment") :
    isManaged number (allowRule number port source) = true := by
  have hc : ruleComment (allowRule number port source) = some (allowComment number) := by
    simp [ruleComment, allowRule, hs, hp]
  simp [isManaged, hc]

theorem isManaged_dropRule (hp : port ≠ "--comment") :
    isManaged number (dropRule number port) = true := by
  have hc : ruleComment (dropRule number port) = some (dropComment number) := by
    simp [ruleComment, dropRule, hp]
  simp [isManaged, hc]

/-- The rules of a candidate are managed. -/
theorem Request.isManaged_candidate (r : Request) :
    ∀ rule ∈ r.candidate, isManaged r.number rule = true := by
  intro rule hrule
  unfold Request.candidate at hrule
  split at hrule
  · rcases List.mem_append.1 hrule with h | h
    · obtain ⟨source, hsource, rfl⟩ := List.mem_map.1 h
      exact isManaged_allowRule (r.sources_ne source hsource) r.port_ne
    · rw [List.mem_singleton.1 h]
      exact isManaged_dropRule r.port_ne
  · cases hrule

end Managed

/-! ## The ways a script ends -/

/-- The contract of a script whose chains all are in `K`. -/
abbrev within (K : Chain → Prop) : Contract Op Ans Chain := ⟨answers, fun chain _ => K chain⟩

/-- A script ends with a value in `φ`, with a `RuntimeError` in `ψ`, or with an exit code in `χ`. -/
def Ending {α : Type} (φ : α → Chain → Prop) (ψ : Chain → Prop) (χ : Nat → Chain → Prop) :
    Except Exn α → Chain → Prop
  | .ok a, chain => φ a chain
  | .error (.runtimeError _), chain => ψ chain
  | .error (.systemExit code), chain => χ code chain

section Ends

variable {C : Contract Op Ans Chain} {chain : Chain} {α β : Type} {p : Script α} {φ φ' : α → Chain → Prop}
  {ψ ψ' : Chain → Prop} {χ χ' : Nat → Chain → Prop}

theorem Ending.mono (h : wp (C) p (Ending φ ψ χ) chain)
    (hφ : ∀ a chain, φ a chain → φ' a chain) (hψ : ∀ chain, ψ chain → ψ' chain)
    (hχ : ∀ code chain, χ code chain → χ' code chain) :
    wp (C) p (Ending φ' ψ' χ') chain := by
  refine wp_mono h ?_
  rintro (⟨⟨message⟩ | ⟨code⟩⟩ | a) chain' h'
  · exact hψ chain' h'
  · exact hχ code chain' h'
  · exact hφ a chain' h'

theorem Ending.bind {f : α → Script β} {θ : β → Chain → Prop} (h : wp (C) p (Ending φ ψ χ) chain)
    (hf : ∀ a chain, φ a chain → wp (C) (f a) (Ending θ ψ χ) chain) :
    wp (C) (p >>= f) (Ending θ ψ χ) chain := by
  refine wp_bind.2 (wp_mono h ?_)
  rintro (⟨⟨message⟩ | ⟨code⟩⟩ | a) chain' h'
  · exact h'
  · exact h'
  · exact hf a chain' h'

/-- What `attempt` gives. -/
def Attempted (φ : α → Chain → Prop) (ψ : Chain → Prop) : Option α → Chain → Prop
  | some a, chain => φ a chain
  | none, chain => ψ chain

theorem Ending.attempt (h : wp (C) p (Ending φ ψ χ) chain) :
    wp (C) (attempt p) (Ending (Attempted φ ψ) ψ' χ) chain := by
  unfold Firewall.attempt
  refine wp_handle.2 (wp_bind.2 (wp_mono h ?_))
  rintro (⟨⟨message⟩ | ⟨code⟩⟩ | a) chain' h'
  · exact h'
  · exact h'
  · exact h'

end Ends

/-! ## Commands -/

section Commands

variable {K : Chain → Prop} {chain : Chain} {position : Nat} {rule : Rule} {χ : Nat → Chain → Prop}

theorem require_ends {C : Contract Op Ans Chain} {holds : Prop} [Decidable holds] {message : String} :
    wp C (require holds message)
      (Ending (fun _ chain' => holds ∧ chain' = chain) (fun chain' => chain' = chain) χ) chain := by
  unfold require
  by_cases h : holds
  · rw [if_pos h]
    exact ⟨h, rfl⟩
  · rw [if_neg h]
    rfl

theorem inputRules_ends (hK : K chain) :
    wp (within K) inputRules
      (Ending (fun rules chain' => rules = chain ∧ chain' = chain) (fun chain' => chain' = chain) χ)
      chain := by
  unfold inputRules
  rw [wp_bind, wp_perform]
  refine ⟨hK, ?_⟩
  rintro (_ | rules) chain' ha
  · exact ha
  · exact ha

theorem insertRule_ends (hK : K chain) :
    wp (within K) (insertRule position rule)
      (Ending (fun _ chain' => 1 ≤ position ∧ position ≤ chain.length + 1 ∧
        chain' = chain.insertIdx (position - 1) rule) (fun chain' => chain' = chain) χ) chain := by
  unfold insertRule
  rw [wp_bind, wp_perform]
  refine ⟨hK, ?_⟩
  rintro (_ | _) chain' ha
  · exact ha
  · exact ha

theorem deletePosition_ends (hK : K chain) :
    wp (within K) (deletePosition position)
      (Ending (fun _ chain' => 1 ≤ position ∧ position ≤ chain.length ∧
        chain' = chain.eraseIdx (position - 1)) (fun chain' => chain' = chain) χ) chain := by
  unfold deletePosition
  rw [wp_bind, wp_perform]
  refine ⟨hK, ?_⟩
  rintro (_ | _) chain' ha
  · exact ha
  · exact ha

end Commands

/-! ## Runs -/

section Runs

variable {K : Chain → Prop} {chain chain' : Chain} {α : Type} {script : Script α}
  {φ : α → Chain → Prop} {ψ : Chain → Prop} {χ : Nat → Chain → Prop} {code : Nat}

/-- Every chain that a run passes through is in `K`. -/
theorem Visits.within (hv : Visits script chain chain') (h : wp (within K) script (Ending φ ψ χ) chain)
    (hφ : ∀ a chain, φ a chain → K chain) (hψ : ∀ chain, ψ chain → K chain)
    (hχ : ∀ code chain, χ code chain → K chain) : K chain' := by
  obtain ⟨rest, hsteps⟩ := hv
  have hwp := wp_steps hsteps h
  cases rest with
  | done r =>
    rcases r with (⟨message⟩ | ⟨code⟩) | a
    · exact hψ _ hwp
    · exact hχ _ _ hwp
    · exact hφ _ _ hwp
  | call op k => exact hwp.1

/-- A run with exit code `0` has returned, or has asked for that code. -/
theorem Ends.post (he : Ends script chain code chain') (h : wp (within K) script (Ending φ ψ χ) chain) :
    code = 0 ∧ (∃ a, φ a chain') ∨ code = 1 ∧ ψ chain' ∨ χ code chain' := by
  obtain ⟨r, hsteps, rfl⟩ := he
  have hwp := wp_steps hsteps h
  rcases r with (⟨message⟩ | ⟨code⟩) | a
  · exact .inr (.inl ⟨rfl, hwp⟩)
  · exact .inr (.inr hwp)
  · exact .inl ⟨rfl, a, hwp⟩

end Runs

end Firewall
