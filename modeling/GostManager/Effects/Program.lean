import Mathlib.Logic.Relation

/-!
# Programs with effects

A program issues operations one at a time and continues with the answer it gets; it ends by
returning a value or by raising an exception. `Op` is the type of operations, `Ans op` the type of
the answers to `op`. Nothing is said about what an operation does: that is the business of the
environment, a relation between the state before an operation, its answer and the state after.

`wp` is the weakest precondition of a program in such an environment. It has two parts: a guard that
holds whenever an operation is issued, and a postcondition for both ways of ending.
-/

namespace Effects

/-- A program over the operations `Op`, ending with a value in `α` or an exception in `ε`. -/
inductive Prog (Op : Type) (Ans : Op → Type) (ε α : Type) : Type where
  /-- The program has ended. -/
  | done (r : Except ε α)
  /-- Issue `op` and continue with its answer. -/
  | call (op : Op) (k : Ans op → Prog Op Ans ε α)

namespace Prog

variable {Op : Type} {Ans : Op → Type} {ε α β σ : Type}

/-- Sequencing: an exception skips the rest. -/
def bind : Prog Op Ans ε α → (α → Prog Op Ans ε β) → Prog Op Ans ε β
  | .done (.ok a), f => f a
  | .done (.error e), _ => .done (.error e)
  | .call op k, f => .call op fun a => (k a).bind f

instance : Monad (Prog Op Ans ε) where
  pure a := .done (.ok a)
  bind := Prog.bind

/-- Raise an exception. -/
def raise (e : ε) : Prog Op Ans ε α := .done (.error e)

/-- Issue one operation and return its answer. -/
def perform (op : Op) : Prog Op Ans ε (Ans op) := .call op fun a => .done (.ok a)

/-- `try p except e: h e`. A handler that does not apply raises `e` again. -/
def handle : Prog Op Ans ε α → (ε → Prog Op Ans ε α) → Prog Op Ans ε α
  | .done (.ok a), _ => .done (.ok a)
  | .done (.error e), h => h e
  | .call op k, h => .call op fun a => (k a).handle h

/-- Run a program over other operations as a part of this one: `f` says which operation stands for which,
and the part gives its outcome as a value. -/
def embed {Op' : Type} {Ans' : Op' → Type} {ε' : Type} (f : Op → Op') (g : ∀ op, Ans' (f op) → Ans op) :
    Prog Op Ans ε α → Prog Op' Ans' ε' (Except ε α)
  | .done r => .done (.ok r)
  | .call op k => .call (f op) fun a => (k (g op a)).embed f g

/-- `try p finally last`. -/
def andFinally (p : Prog Op Ans ε α) (last : Prog Op Ans ε Unit) : Prog Op Ans ε α := do
  match ← (p.embed id fun _ a => a : Prog Op Ans ε (Except ε α)) with
  | .ok a => do
    last
    pure a
  | .error e => do
    last
    .raise e

/-- What is asked of a program: how operations are answered, and what holds when one is issued. -/
structure Contract (Op : Type) (Ans : Op → Type) (σ : Type) where
  /-- `answers s op a s'`: in state `s` the operation `op` may be answered `a`, leading to `s'`. -/
  answers : σ → (op : Op) → Ans op → σ → Prop
  /-- What holds in the state in which an operation is issued. -/
  guard : σ → Op → Prop

/-- What a contract asks of an embedded program. -/
def Contract.part {Op' : Type} {Ans' : Op' → Type} (C : Contract Op' Ans' σ) (f : Op → Op')
    (g : ∀ op, Ans' (f op) → Ans op) : Contract Op Ans σ where
  answers s op a s' := ∃ a', g op a' = a ∧ C.answers s (f op) a' s'
  guard s op := C.guard s (f op)

/-- The weakest precondition: every operation is issued under the guard, and the program, however
its operations are answered, ends with `Q`. -/
def wp (C : Contract Op Ans σ) : Prog Op Ans ε α → (Except ε α → σ → Prop) → σ → Prop
  | .done r, Q, s => Q r s
  | .call op k, Q, s => C.guard s op ∧ ∀ a s', C.answers s op a s' → (k a).wp C Q s'

/-- However its operations are answered, a program issues only operations of one kind. -/
def Issues (P : Op → Prop) : Prog Op Ans ε α → Prop
  | .done _ => True
  | .call op k => P op ∧ ∀ a, (k a).Issues P

/-- One operation of a program is answered. -/
inductive Step (answers : σ → (op : Op) → Ans op → σ → Prop) :
    Prog Op Ans ε α × σ → Prog Op Ans ε α × σ → Prop where
  | call {op : Op} {k : Ans op → Prog Op Ans ε α} {s s' : σ} {a : Ans op}
      (h : answers s op a s') : Step answers (.call op k, s) (k a, s')

/-- Any number of operations are answered. -/
abbrev Steps (answers : σ → (op : Op) → Ans op → σ → Prop) :
    Prog Op Ans ε α × σ → Prog Op Ans ε α × σ → Prop :=
  Relation.ReflTransGen (Step answers)

/-- Run a program against an environment that is a function, at most `n` operations far. -/
def runFor (oracle : σ → (op : Op) → Ans op × σ) :
    Nat → Prog Op Ans ε α → σ → Prog Op Ans ε α × σ
  | 0, p, s => (p, s)
  | _ + 1, .done r, s => (.done r, s)
  | n + 1, .call op k, s => runFor oracle n (k (oracle s op).1) (oracle s op).2

/-- Run a program against an environment that may decline to answer; the run stops there. -/
def runWhile (oracle : σ → (op : Op) → Option (Ans op × σ)) :
    Nat → Prog Op Ans ε α → σ → Prog Op Ans ε α × σ
  | n + 1, .call op k, s =>
    match oracle s op with
    | some (a, s') => runWhile oracle n (k a) s'
    | none => (.call op k, s)
  | _, p, s => (p, s)

end Prog

end Effects
