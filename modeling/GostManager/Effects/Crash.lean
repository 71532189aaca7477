import GostManager.Effects.Program

/-!
# Crashes: programs that are cut off

A program against a world that computes its answers. Some of its operations are effects. The program may
be killed between two of them, and then another program finds the world as it is.
-/

namespace Effects.Prog

variable {Op : Type} {Ans : Op → Type} {ε α σ : Type}

/-- Run a program to its end. -/
def run (respond : σ → (op : Op) → Ans op × σ) : Prog Op Ans ε α → σ → Except ε α × σ
  | .done r, s => (r, s)
  | .call op k, s => run respond (k (respond s op).1) (respond s op).2

/-- The world when a program is killed after `n` effects: before the next one, or at the end. -/
def cut (respond : σ → (op : Op) → Ans op × σ) (isEffect : Op → Bool) :
    Prog Op Ans ε α → Nat → σ → σ
  | .done _, _, s => s
  | .call op k, n, s =>
    match isEffect op, n with
    | false, n => cut respond isEffect (k (respond s op).1) n (respond s op).2
    | true, 0 => s
    | true, n + 1 => cut respond isEffect (k (respond s op).1) n (respond s op).2

/-- The contract of a program in such a world: `K s n` holds whenever the program issues an effect after
`n` others. -/
def crashing (respond : σ → (op : Op) → Ans op × σ) (isEffect : Op → Bool) (K : σ → Nat → Prop) :
    Contract Op Ans (σ × Nat) where
  answers s op a s' :=
    (a, s'.1) = respond s.1 op ∧ s'.2 = if isEffect op then s.2 + 1 else s.2
  guard s op := isEffect op → K s.1 s.2

end Effects.Prog
