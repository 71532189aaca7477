import Mathlib.Logic.Relation

/-!
# Executors

An executor works on tasks with a bounded number of workers. The tasks wait in the order in which they
were submitted, and a worker takes the first of them. They are finished in any order, and the finished
ones are collected in any order.
-/

namespace Effects.Executor

/-- A state of an executor: where each task is, and the tasks that were started so far, in order. -/
structure State (κ : Type) where
  waiting : List κ
  working : List κ := []
  finished : List κ := []
  collected : List κ := []
  started : List κ := []

variable {κ : Type}

/-- One step of an executor. -/
inductive Step (workers : Nat) : State κ → State κ → Prop where
  | start {k : κ} {s : State κ} {waiting : List κ} (hw : s.waiting = k :: waiting)
      (hlt : s.working.length < workers) :
      Step workers s { s with waiting, working := s.working ++ [k], started := s.started ++ [k] }
  | finish {k : κ} {s : State κ} {before after : List κ} (hw : s.working = before ++ k :: after) :
      Step workers s { s with working := before ++ after, finished := s.finished ++ [k] }
  | collect {k : κ} {s : State κ} {before after : List κ} (hf : s.finished = before ++ k :: after) :
      Step workers s { s with finished := before ++ after, collected := s.collected ++ [k] }

/-- The states that are reached when tasks are submitted. -/
def Reachable (workers : Nat) (tasks : List κ) (s : State κ) : Prop :=
  Relation.ReflTransGen (Step workers) { waiting := tasks } s

/-- All tasks are collected. -/
structure State.Done (s : State κ) : Prop where
  waiting : s.waiting = []
  working : s.working = []
  finished : s.finished = []

/-- The number of steps until all tasks are collected. -/
def State.remaining (s : State κ) : Nat :=
  3 * s.waiting.length + 2 * s.working.length + s.finished.length

end Effects.Executor
