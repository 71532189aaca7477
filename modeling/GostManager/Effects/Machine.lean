import GostManager.Effects.Program

/-!
# Machines: sequences of calls

A machine runs calls one after the other against a world. Each call is a program; while it runs its
operations are answered by the world, and it may be killed. Everything that happens is recorded in a
history, newest event first, so that a statement about a run is a statement about a history.

Events from outside (`Event.outside`) may change the world at any time, also in the middle of a call.
-/

namespace Effects

/-- One thing that happens in a run. -/
inductive Event (Op : Type) (Ans : Op → Type) (ε α Call Ext : Type) : Type where
  /-- A call begins. -/
  | called (c : Call)
  /-- An operation of the running call is answered. -/
  | did (op : Op) (a : Ans op)
  /-- The running call ends by itself. -/
  | returned (r : Except ε α)
  /-- The running call is cut off. -/
  | killed
  /-- The world is changed by somebody else. -/
  | outside (x : Ext)

/-- An event, unless it comes from outside. -/
def Event.inner {Op : Type} {Ans : Op → Type} {ε α Call Ext : Type} :
    Event Op Ans ε α Call Ext → Option (Event Op Ans ε α Call Empty)
  | .called c => some (.called c)
  | .did op a => some (.did op a)
  | .returned r => some (.returned r)
  | .killed => some .killed
  | .outside _ => none

/-- A history without the events from outside. -/
def inner {Op : Type} {Ans : Op → Type} {ε α Call Ext : Type}
    (h : List (Event Op Ans ε α Call Ext)) : List (Event Op Ans ε α Call Empty) :=
  h.filterMap Event.inner

/-- A machine: which calls there are, when they may begin, and how the world answers. -/
structure Machine (Op : Type) (Ans : Op → Type) (ε α Call Ext World : Type) where
  /-- The program of a call. -/
  body : Call → Prog Op Ans ε α
  /-- Whether a call may begin in a world with a history. -/
  admits : World → List (Event Op Ans ε α Call Ext) → Call → Prop
  /-- How an operation of a call may be answered. -/
  answers : Call → World → List (Event Op Ans ε α Call Ext) → (op : Op) → Ans op → World → Prop
  /-- What others may do to the world. -/
  outside : World → Ext → World → Prop
  /-- Whether calls may be cut off. -/
  kills : Prop

namespace Machine

variable {Op : Type} {Ans : Op → Type} {ε α Call Ext World : Type}

/-- The events of a run, newest first. -/
abbrev History (_ : Machine Op Ans ε α Call Ext World) : Type := List (Event Op Ans ε α Call Ext)

/-- A state of a machine: the world, what has happened so far, and the call that is running with what
is left of its program. -/
structure Config (M : Machine Op Ans ε α Call Ext World) where
  world : World
  history : M.History
  running : Option (Call × Prog Op Ans ε α)

variable (M : Machine Op Ans ε α Call Ext World)

/-- One step of a machine. -/
inductive Step : M.Config → M.Config → Prop where
  | call {w : World} {h : M.History} {c : Call} (ha : M.admits w h c) :
      Step ⟨w, h, none⟩ ⟨w, .called c :: h, some (c, M.body c)⟩
  | answer {w w' : World} {h : M.History} {c : Call} {op : Op} {k : Ans op → Prog Op Ans ε α}
      {a : Ans op} (ha : M.answers c w h op a w') :
      Step ⟨w, h, some (c, .call op k)⟩ ⟨w', .did op a :: h, some (c, k a)⟩
  | finish {w : World} {h : M.History} {c : Call} {r : Except ε α} :
      Step ⟨w, h, some (c, .done r)⟩ ⟨w, .returned r :: h, none⟩
  | kill {w : World} {h : M.History} {c : Call} {p : Prog Op Ans ε α} (hk : M.kills) :
      Step ⟨w, h, some (c, p)⟩ ⟨w, .killed :: h, none⟩
  | outside {w w' : World} {h : M.History} {run : Option (Call × Prog Op Ans ε α)} {x : Ext}
      (ho : M.outside w x w') : Step ⟨w, h, run⟩ ⟨w', .outside x :: h, run⟩

/-- The states that some run from the world `w₀` reaches. -/
def Reachable (w₀ : World) (cfg : M.Config) : Prop :=
  Relation.ReflTransGen M.Step ⟨w₀, [], none⟩ cfg

variable {M}

/-- The running call `c` is about to issue `op`. -/
def Config.Issues (cfg : M.Config) (c : Call) (op : Op) : Prop :=
  ∃ k, cfg.running = some (c, .call op k)

/-- The running call `c` is about to return `r`. -/
def Config.Returns (cfg : M.Config) (c : Call) (r : Except ε α) : Prop :=
  cfg.running = some (c, .done r)

/-- The machine `M` with fewer runs: only those whose answers meet a condition. -/
def restrict (M : Machine Op Ans ε α Call Ext World)
    (okAnswer : Call → World → M.History → (op : Op) → Ans op → Prop) :
    Machine Op Ans ε α Call Ext World where
  body := M.body
  admits := M.admits
  answers c w h op a w' := M.answers c w h op a w' ∧ okAnswer c w h op a
  outside := M.outside
  kills := M.kills

/-- The machine `N` shows what the calls of `M` do, in a view of its world that hides what others
do. -/
structure Hides {World' : Type} (M : Machine Op Ans ε α Call Ext World)
    (N : Machine Op Ans ε α Call Empty World') (view : World → World') : Prop where
  body : N.body = M.body
  admits : ∀ w h c, M.admits w h c → N.admits (view w) (inner h) c
  answers : ∀ c w h op a w', M.answers c w h op a w' →
    N.answers c (view w) (inner h) op a (view w')
  outside : ∀ w x w', M.outside w x w' → view w' = view w
  kills : M.kills → N.kills

/-- A state of `M` as it is in `N`. -/
def Config.seenBy {World' : Type} (cfg : M.Config) (N : Machine Op Ans ε α Call Empty World')
    (view : World → World') : N.Config :=
  ⟨view cfg.world, inner cfg.history, cfg.running⟩

/-! ## Running a machine against an oracle

An oracle computes one of the answers that an operation may get. It may decline, and the run stops
there. -/

/-- The answer of an oracle to an operation of a call, with the world that follows. -/
abbrev Oracle (M : Machine Op Ans ε α Call Ext World) : Type :=
  Call → World → M.History → (op : Op) → Option (Ans op × World)

/-- The oracle that declines the answers that do not meet a condition. -/
def Oracle.restrict (oracle : M.Oracle)
    (okAnswer : Call → World → M.History → (op : Op) → Ans op → Prop)
    [∀ c w h op a, Decidable (okAnswer c w h op a)] : (M.restrict okAnswer).Oracle :=
  fun c w h op => (oracle c w h op).filter fun x => okAnswer c w h op x.1

/-- Begin the call `c`. -/
def Config.begin (cfg : M.Config) (c : Call) : M.Config :=
  match cfg.running with
  | none => ⟨cfg.world, .called c :: cfg.history, some (c, M.body c)⟩
  | some _ => cfg

/-- Let the running call take at most `n` steps. -/
def Config.advance (oracle : M.Oracle) : Nat → M.Config → M.Config
  | 0, cfg => cfg
  | _ + 1, ⟨w, h, none⟩ => ⟨w, h, none⟩
  | _ + 1, ⟨w, h, some (_, .done r)⟩ => ⟨w, .returned r :: h, none⟩
  | n + 1, ⟨w, h, some (c, .call op k)⟩ =>
    match oracle c w h op with
    | some (a, w') => Config.advance oracle n ⟨w', .did op a :: h, some (c, k a)⟩
    | none => ⟨w, h, some (c, .call op k)⟩

/-- Somebody else changes the world. -/
def Config.disturb (cfg : M.Config) (x : Ext) (w' : World) : M.Config :=
  ⟨w', .outside x :: cfg.history, cfg.running⟩

/-- A call of a script: the oracle that answers it, and how many steps it may take. -/
abbrev Scene (M : Machine Op Ans ε α Call Ext World) : Type := Call × M.Oracle × Nat

/-- Run the calls of a list one after the other. -/
def Config.play : List M.Scene → M.Config → M.Config
  | [], cfg => cfg
  | (c, oracle, n) :: cs, cfg => Config.play cs ((cfg.begin c).advance oracle n)

/-- Every call of a script may begin when its turn comes. -/
def Config.Admits : List M.Scene → M.Config → Prop
  | [], _ => True
  | (c, oracle, n) :: cs, cfg =>
    M.admits cfg.world cfg.history c ∧ Config.Admits cs ((cfg.begin c).advance oracle n)

instance Config.decidableAdmits [∀ w h c, Decidable (M.admits w h c)] :
    (cs : List M.Scene) → (cfg : M.Config) → Decidable (cfg.Admits cs)
  | [], _ => isTrue trivial
  | (c, oracle, n) :: cs, cfg =>
    @instDecidableAnd _ _ _ (decidableAdmits cs ((cfg.begin c).advance oracle n))

/-- The run of a list of calls from a world. -/
def script (M : Machine Op Ans ε α Call Ext World) (w₀ : World) (cs : List M.Scene) : M.Config :=
  Config.play cs ⟨w₀, [], none⟩

end Machine

end Effects
