import GostManager.Effects.Pool
import GostManager.Effects.Proofs.ProgramProofs

/-!
# Proofs: from one program to a pool

What a program keeps by itself, however it is answered, it keeps in a pool. A statement about all
programs together is then an invariant of single steps.
-/

namespace Effects.Pool

open Prog

variable {ι Op : Type} {Ans : Op → Type} {ε α World : Type} [DecidableEq ι]
variable {P : Pool ι Op Ans ε α World} {w₀ : World} {cfg : P.Config}

@[simp] theorem trace_cons_self {i : ι} {e : (op : Op) × Ans op}
    {h : List (ι × (op : Op) × Ans op)} : trace i ((i, e) :: h) = e :: trace i h := by
  simp [trace]

theorem trace_cons_other {i j : ι} (hne : j ≠ i) {e : (op : Op) × Ans op}
    {h : List (ι × (op : Op) × Ans op)} : trace i ((j, e) :: h) = trace i h := by
  simp [trace, hne]

section Alone

variable {A : (op : Op) → Ans op → Prop} {G : ι → Trace Op Ans → Op → Prop}
  {Q : ι → Except ε α → Trace Op Ans → Prop}

/-- A program in a pool keeps what it keeps by itself. -/
theorem wp_of_alone (hA : ∀ i w h op a w', P.answers i w h op a w' → A op a)
    (hwp : ∀ i, wp (alone A (G i)) (P.body i) (Q i) []) (hr : P.Reachable w₀ cfg) (i : ι) :
    wp (alone A (G i)) (cfg.threads i) (Q i) (trace i cfg.history) := by
  induction hr with
  | refl => exact hwp i
  | tail _ hs ih =>
    cases hs with
    | @answer j op k a w' hj ha =>
      dsimp only
      by_cases hij : j = i
      · subst hij
        rw [hj] at ih
        rw [Function.update_self, trace_cons_self]
        exact ih.2 a _ ⟨hA _ _ _ _ _ _ ha, rfl⟩
      · rw [Function.update_of_ne (Ne.symm hij), trace_cons_other hij]
        exact ih

/-- An assertion about the pool holds in every state, if it holds at the beginning and the steps in
which the programs keep their guards preserve it. -/
theorem invariant_of_alone {J : World → P.History → Prop}
    (hA : ∀ i w h op a w', P.answers i w h op a w' → A op a)
    (hwp : ∀ i, wp (alone A (G i)) (P.body i) (Q i) []) (h₀ : J w₀ [])
    (hstep : ∀ i w h op a w', J w h → G i (trace i h) op → P.answers i w h op a w' →
      J w' ((i, ⟨op, a⟩) :: h)) (hr : P.Reachable w₀ cfg) : J cfg.world cfg.history := by
  induction hr with
  | refl => exact h₀
  | tail hr hs ih =>
    cases hs with
    | @answer i op k a w' hi ha =>
      have hg := wp_of_alone hA hwp hr i
      rw [hi] at hg
      exact hstep i _ _ op a w' ih hg.1 ha

end Alone

/-- A schedule whose oracle only gives answers that the pool allows is a run. -/
theorem reachable_schedule {oracle : P.Oracle}
    (ho : ∀ i w h op a w', oracle i w h op = some (a, w') → P.answers i w h op a w')
    (is : List ι) (hr : P.Reachable w₀ cfg) : P.Reachable w₀ (cfg.schedule oracle is) := by
  induction is generalizing cfg with
  | nil => exact hr
  | cons i is ih =>
    rw [Config.schedule]
    split
    · exact ih hr
    · next hi =>
      split
      · next hop => exact ih (hr.tail (.answer hi (ho _ _ _ _ _ _ hop)))
      · exact hr

end Effects.Pool
