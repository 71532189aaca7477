import Mathlib.Data.List.Chain

/-!
# Recorders

A value that is observed again and again: the last observation is stored, and each adds events to a log, which
depend on what was stored before.
-/

namespace Lists

/-- What an observation stores, and the events that it adds after what was stored before. -/
structure Recorder (O V E : Type) where
  stored : O → V
  events : Option V → O → List E

namespace Recorder

variable {O V E : Type} (r : Recorder O V E)

/-- What is stored after some observations. -/
def last (v : Option V) (os : List O) : Option V := os.foldl (fun _ o => some (r.stored o)) v

/-- What each observation adds to the log. -/
def log : Option V → List O → List (List E)
  | _, [] => []
  | v, o :: os => r.events v o :: log (some (r.stored o)) os

end Recorder

end Lists
