import Mathlib.Init

/-!
# Transactions

A script executes statements one after the other. Each of them reads or changes a state, and may raise; then the
script raises the same, unless that is handled. A transaction leaves what a script has made of the state if the
script ends, and nothing of it if the script raises.

Some statements of a run may be made to raise. They are told by their number in the run.
-/

namespace Effects

variable {σ ε α β : Type}

/-- What the statements of a run are made to raise. -/
abbrev Faults (ε : Type) : Type := Nat → Option ε

/-- A script: how it ends, how many statements are then executed, and what it leaves of the state. -/
def Script (σ ε α : Type) : Type := Faults ε → Nat → σ → Except ε α × Nat × σ

namespace Script

/-- Run one script after another. -/
def bind (x : Script σ ε α) (f : α → Script σ ε β) : Script σ ε β := fun faults n s =>
  match x faults n s with
  | (.ok a, n, s) => f a faults n s
  | (.error e, n, s) => (.error e, n, s)

instance : Monad (Script σ ε) where
  pure a := fun _ n s => (.ok a, n, s)
  bind := Script.bind

/-- Raise an exception. -/
def raise (e : ε) : Script σ ε α := fun _ n s => (.error e, n, s)

/-- `try x except e: h e`. A handler that does not apply raises `e` again. -/
def handle (x : Script σ ε α) (h : ε → Script σ ε α) : Script σ ε α := fun faults n s =>
  match x faults n s with
  | (.ok a, n, s) => (.ok a, n, s)
  | (.error e, n, s) => h e faults n s

/-- Execute a statement. One that raises leaves the state as it is. -/
def execute (statement : σ → Except ε (α × σ)) : Script σ ε α := fun faults n s =>
  match faults n with
  | some e => (.error e, n + 1, s)
  | none =>
    match statement s with
    | .error e => (.error e, n + 1, s)
    | .ok (a, s) => (.ok a, n + 1, s)

/-- Execute a statement that only reads. -/
def query (read : σ → Except ε α) : Script σ ε α := execute fun s => (read s).map fun a => (a, s)

/-- Execute a statement that only changes. -/
def update (change : σ → Except ε σ) : Script σ ε Unit := execute fun s => (change s).map fun s => ((), s)

/-- Do something for each of a list. -/
def forEach (f : β → Script σ ε Unit) : List β → Script σ ε Unit
  | [] => pure ()
  | b :: bs => do
    f b
    forEach f bs

/-- Do something for each of a list, and collect the results. -/
def collect (f : β → Script σ ε α) : List β → Script σ ε (List α)
  | [] => pure []
  | b :: bs => do
    let a ← f b
    let rest ← collect f bs
    pure (a :: rest)

/-- Begin, run a script, and commit; roll back if this raises. -/
def transaction (script : Script σ ε α) (faults : Faults ε) (s : σ) : Except ε α × σ :=
  match faults 0 with
  | some e => (.error e, s)
  | none =>
    match (do let a ← script; execute fun s => .ok (a, s) : Script σ ε α) faults 1 s with
    | (.ok a, _, s') => (.ok a, s')
    | (.error e, _, _) => (.error e, s)

end Script

/-- Some statement is made to raise. -/
def Faulty (faults : Faults ε) : Prop := ∃ n, (faults n).isSome

namespace Script

/-- The weakest precondition: a script ends with `Q`, or it raises and some statement was made to, or there is another
reason to raise. -/
def wp (faults : Faults ε) (reason : Prop) (script : Script σ ε α) (Q : α → σ → Prop) (s : σ) : Prop :=
  ∀ n, match script faults n s with
    | (.ok a, _, s') => Q a s'
    | (.error _, _, _) => Faulty faults ∨ reason

end Script

end Effects
