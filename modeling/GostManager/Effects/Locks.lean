import Mathlib.Logic.Function.Basic
import GostManager.Effects.Program

/-!
# Locks: processes that exclude each other

Processes run side by side over one world, and share a lock that at most one of them holds. Whoever holds the lock
may change the world. A process may be killed at any time, and does not hold the lock any more then.

The world as it was when the lock was taken is remembered with the holder, so that what a process does while it
holds the lock is a relation between two worlds.
-/

namespace Effects

/-- The operations of a process: those on the lock, and the others. -/
inductive LockOp (Op : Type) where
  /-- Take the lock, without waiting for it. -/
  | take
  /-- Give the lock back. -/
  | drop
  | other (op : Op)

/-- Their answers. `δ` are the exceptions of the operations on the lock. -/
abbrev LockOp.Ans {Op : Type} (Ans : Op → Type) (δ : Type) : LockOp Op → Type
  | .take => Except δ Unit
  | .drop => Except δ Unit
  | .other op => Ans op

/-- Processes: their programs, and how the world answers their operations. -/
structure Processes (ι Op : Type) (Ans : Op → Type) (δ ε α World : Type) where
  body : ι → Prog (LockOp Op) (LockOp.Ans Ans δ) ε α
  answers : ι → World → (op : Op) → Ans op → World → Prop

namespace Processes

variable {ι Op : Type} {Ans : Op → Type} {δ ε α World : Type} [DecidableEq ι]

/-- The world, who holds the lock since which world, and what is left of the programs that are not killed. -/
structure Config (P : Processes ι Op Ans δ ε α World) where
  world : World
  holder : Option (ι × World)
  threads : ι → Option (Prog (LockOp Op) (LockOp.Ans Ans δ) ε α)

/-- Who holds the lock once a process does not. -/
def without (i : ι) (holder : Option (ι × World)) : Option (ι × World) := holder.filter fun h => h.1 ≠ i

/-- What a process knows of the world: nothing, unless it holds the lock. -/
def seenBy (i : ι) (holder : Option (ι × World)) (w : World) : Option (World × World) :=
  (holder.filter fun h => h.1 = i).map fun h => (h.2, w)

variable (P : Processes ι Op Ans δ ε α World)

/-- One operation of one process is answered, or one process is killed. -/
inductive Step : P.Config → P.Config → Prop where
  | take {w : World} {threads : ι → Option (Prog (LockOp Op) (LockOp.Ans Ans δ) ε α)} {i : ι}
      {k : Except δ Unit → Prog (LockOp Op) (LockOp.Ans Ans δ) ε α} (hi : threads i = some (.call .take k)) :
      Step ⟨w, none, threads⟩ ⟨w, some (i, w), Function.update threads i (some (k (.ok ())))⟩
  | refuse {w : World} {holder : Option (ι × World)} {i : ι} {e : δ}
      {threads : ι → Option (Prog (LockOp Op) (LockOp.Ans Ans δ) ε α)}
      {k : Except δ Unit → Prog (LockOp Op) (LockOp.Ans Ans δ) ε α} (hi : threads i = some (.call .take k)) :
      Step ⟨w, holder, threads⟩ ⟨w, holder, Function.update threads i (some (k (.error e)))⟩
  | drop {w : World} {holder : Option (ι × World)} {i : ι} {a : Except δ Unit}
      {threads : ι → Option (Prog (LockOp Op) (LockOp.Ans Ans δ) ε α)}
      {k : Except δ Unit → Prog (LockOp Op) (LockOp.Ans Ans δ) ε α} (hi : threads i = some (.call .drop k)) :
      Step ⟨w, holder, threads⟩ ⟨w, without i holder, Function.update threads i (some (k a))⟩
  | keep {w : World} {holder : Option (ι × World)} {i : ι} {e : δ}
      {threads : ι → Option (Prog (LockOp Op) (LockOp.Ans Ans δ) ε α)}
      {k : Except δ Unit → Prog (LockOp Op) (LockOp.Ans Ans δ) ε α} (hi : threads i = some (.call .drop k)) :
      Step ⟨w, holder, threads⟩ ⟨w, holder, Function.update threads i (some (k (.error e)))⟩
  | other {w w' : World} {holder : Option (ι × World)} {i : ι} {op : Op} {a : Ans op}
      {threads : ι → Option (Prog (LockOp Op) (LockOp.Ans Ans δ) ε α)}
      {k : Ans op → Prog (LockOp Op) (LockOp.Ans Ans δ) ε α} (hi : threads i = some (.call (.other op) k))
      (ha : P.answers i w op a w') :
      Step ⟨w, holder, threads⟩ ⟨w', holder, Function.update threads i (some (k a))⟩
  | kill {w : World} {holder : Option (ι × World)} {threads : ι → Option (Prog (LockOp Op) (LockOp.Ans Ans δ) ε α)}
      (i : ι) : Step ⟨w, holder, threads⟩ ⟨w, without i holder, Function.update threads i none⟩

/-- One process goes on, against a world that is a function. A lock that is held is refused with `busy`. -/
def turn (respond : ι → World → (op : Op) → Ans op × World) (busy : δ) (cfg : P.Config) (i : ι) : P.Config :=
  match cfg.threads i with
  | some (.call .take k) =>
    match cfg.holder with
    | none => ⟨cfg.world, some (i, cfg.world), Function.update cfg.threads i (some (k (.ok ())))⟩
    | some h => ⟨cfg.world, some h, Function.update cfg.threads i (some (k (.error busy)))⟩
  | some (.call .drop k) => ⟨cfg.world, without i cfg.holder, Function.update cfg.threads i (some (k (.ok ())))⟩
  | some (.call (.other op) k) =>
    ⟨(respond i cfg.world op).2, cfg.holder, Function.update cfg.threads i (some (k (respond i cfg.world op).1))⟩
  | _ => cfg

/-- All programs begin, and nobody holds the lock. -/
def start (w₀ : World) : P.Config := ⟨w₀, none, fun i => some (P.body i)⟩

/-- The states that some interleaving reaches from the world `w₀`. -/
def Reachable (w₀ : World) (cfg : P.Config) : Prop := Relation.ReflTransGen P.Step (P.start w₀) cfg

/-- The contract of one process by itself. Between two operations without the lock the others may do anything that
keeps `J`, and it may only issue operations of the kind `F`. While it holds the lock it may only issue operations
under `G`. -/
def alone (i : ι) (J : World → Prop) (F : Op → Prop) (G : World → World → Op → Prop) :
    Prog.Contract (LockOp Op) (LockOp.Ans Ans δ) (Option (World × World)) where
  answers
    | v, .take, .ok (), v' => v = none ∧ ∃ w, J w ∧ v' = some (w, w)
    | v, .take, .error _, v' => v' = v
    | _, .drop, .ok (), v' => v' = none
    | v, .drop, .error _, v' => v' = v ∨ v' = none
    | none, .other op, a, v' => v' = none ∧ ∃ w, J w ∧ P.answers i w op a w
    | some (w₀, w), .other op, a, v' => ∃ w', P.answers i w op a w' ∧ v' = some (w₀, w')
  guard
    | none, .other op => F op
    | some (w₀, w), .other op => G w₀ w op
    | _, _ => True

/-- What the processes keep: `J` when the lock is free, and `A` between the world in which a process took it and the
world now. The operations of the kind `F` need no lock, as they change nothing. -/
structure Keeps (J : World → Prop) (A : ι → World → World → Prop) (F : Op → Prop) (G : ι → World → World → Op → Prop) :
    Prop where
  free : ∀ i w op a w', F op → P.answers i w op a w' → w' = w
  taken : ∀ i w, J w → A i w w
  kept : ∀ i w₀ w op a w', A i w₀ w → G i w₀ w op → P.answers i w op a w' → A i w₀ w'
  given : ∀ i w₀ w, A i w₀ w → J w

end Processes

end Effects
