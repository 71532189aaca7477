import Mathlib.Logic.Function.Basic
import GostManager.Effects.Program

/-!
# Pools: programs that run side by side

A pool runs several programs over one world. Their operations interleave in any order; each operation is
answered in one step. The history records who did what, newest first.
-/

namespace Effects

/-- The operations of one program with their answers, newest first. -/
abbrev Trace (Op : Type) (Ans : Op → Type) : Type := List ((op : Op) × Ans op)

/-- What one of the programs has done. -/
def trace {ι Op : Type} {Ans : Op → Type} [DecidableEq ι] (i : ι)
    (h : List (ι × (op : Op) × Ans op)) : Trace Op Ans :=
  h.filterMap fun e => if e.1 = i then some e.2 else none

/-- A pool: the programs, and how the world answers their operations. -/
structure Pool (ι Op : Type) (Ans : Op → Type) (ε α World : Type) where
  body : ι → Prog Op Ans ε α
  answers : ι → World → List (ι × (op : Op) × Ans op) → (op : Op) → Ans op → World → Prop

namespace Pool

variable {ι Op : Type} {Ans : Op → Type} {ε α World : Type}

/-- The operations of all programs, newest first. -/
abbrev History (_ : Pool ι Op Ans ε α World) : Type := List (ι × (op : Op) × Ans op)

/-- A state of a pool: the world, what has happened, and what is left of each program. -/
structure Config (P : Pool ι Op Ans ε α World) where
  world : World
  history : P.History
  threads : ι → Prog Op Ans ε α

variable [DecidableEq ι] (P : Pool ι Op Ans ε α World)

/-- One operation of one program is answered. -/
inductive Step : P.Config → P.Config → Prop where
  | answer {cfg : P.Config} {i : ι} {op : Op} {k : Ans op → Prog Op Ans ε α} {a : Ans op} {w' : World}
      (hi : cfg.threads i = .call op k) (ha : P.answers i cfg.world cfg.history op a w') :
      Step cfg ⟨w', (i, ⟨op, a⟩) :: cfg.history, Function.update cfg.threads i (k a)⟩

/-- The states that some interleaving reaches from the world `w₀`. -/
def Reachable (w₀ : World) (cfg : P.Config) : Prop :=
  Relation.ReflTransGen P.Step ⟨w₀, [], P.body⟩ cfg

variable {P}

/-- The contract of a program by itself. Only `A` is known of the answers: between two of its
operations the others may do anything. -/
def alone (A : (op : Op) → Ans op → Prop) (G : Trace Op Ans → Op → Prop) :
    Prog.Contract Op Ans (Trace Op Ans) where
  answers t op a t' := A op a ∧ t' = ⟨op, a⟩ :: t
  guard := G

/-- An oracle computes one of the answers that an operation may get, or declines. -/
abbrev Oracle (P : Pool ι Op Ans ε α World) : Type :=
  ι → World → P.History → (op : Op) → Option (Ans op × World)

/-- Let the programs take steps in the order of a schedule, as an oracle answers them. -/
def Config.schedule (oracle : P.Oracle) : List ι → P.Config → P.Config
  | [], cfg => cfg
  | i :: is, cfg =>
    match cfg.threads i with
    | .done _ => Config.schedule oracle is cfg
    | .call op k =>
      match oracle i cfg.world cfg.history op with
      | some (a, w') => Config.schedule oracle is
          ⟨w', (i, ⟨op, a⟩) :: cfg.history, Function.update cfg.threads i (k a)⟩
      | none => cfg

end Pool

end Effects
