import Mathlib.Data.Finset.Basic
import GostManager.Lists.Recorders
import GostManager.Monitoring.EventStates

/-!
# Monitoring: event logs

The calls of `EventState` about one key, as recorders, and how the states are read off the events.
-/

namespace Monitoring

open Lists

/-- The calls of a method about one key. -/
def recorder {O : Type} (call : O → Transition) : Recorder O StateValue Event where
  stored o := (call o).value
  events v o := (call o).events v

/-- Calls one after the other, each with the events that it returns. -/
def reports : List Transition → Entries → List (Transition × List Event)
  | [], _ => []
  | t :: ts, entries => (t, t.report entries) :: reports ts (t.save entries)

/-! ## Calls -/

/-- A call of `availability` for a source. -/
structure Availability where
  available : Bool
  ts : Nat

/-- The calls of `availability` for a source. -/
def availabilities (source : String) : Recorder Availability StateValue Event :=
  recorder fun o => availability source o.available o.ts

/-- A call of `optional_availability` for a source. -/
structure OptionalAvailability where
  current : SourceState
  ts : Nat

/-- The calls of `optional_availability` for a source. -/
def optionalAvailabilities (source : String) : Recorder OptionalAvailability StateValue Event :=
  recorder fun o => optionalAvailability source o.current o.ts

/-- A call of `value_transition` for a key. -/
structure ValueTransition where
  value : StateValue
  ts : Nat
  code : String
  message : String
  details : List (String × Detail)
  severity : String := "info"
  emitInitial : Bool := false

/-- The calls of `value_transition` for a key. -/
def valueTransitions (key : String) : Recorder ValueTransition StateValue Event :=
  recorder fun o => valueTransition key o.value o.ts o.code o.message o.details o.severity o.emitInitial

/-- A call of `edge` for a key. -/
structure Edge where
  active : Bool
  ts : Nat
  code : String
  message : String
  details : List (String × Detail)
  severity : String := "warning"

/-- The calls of `edge` for a key. -/
def edges (key : String) : Recorder Edge StateValue Event :=
  recorder fun o => edge key o.active o.ts o.code o.message o.details o.severity

/-- A call of `set_transitions` for a key. -/
structure SetTransitions where
  values : List String
  ts : Nat
  addedCode : String
  removedCode : String
  noun : String

/-- The calls of `set_transitions` for a key. -/
def setsTransitions (key : String) : Recorder SetTransitions StateValue Event :=
  recorder fun o => setTransitions key o.values o.ts o.addedCode o.removedCode o.noun

/-! ## Reading the log -/

/-- The state that an event of a source announces. -/
def announced (event : Event) : Option SourceState :=
  if event.code = "metric_source_available" then some .available
  else if event.code = "metric_source_unavailable" then some .failed
  else if event.code = "optional_source_unsupported" then some .unsupported
  else if event.code = "optional_source_available" then some .available
  else none

/-- A source after an event. -/
def readSource (state : SourceState) (event : Event) : SourceState := (announced event).getD state

/-- A value after an event: the detail `current`. -/
def readValue (value : StateValue) (event : Event) : StateValue :=
  match find Prod.fst "current" event.details with
  | some (_, .value current) => current
  | _ => value

/-- A set after an event that a value was added (`info`) or removed (`warning`). -/
def readSet (values : Finset String) (event : Event) : Finset String :=
  match event.details with
  | [(_, .value (.text value))] => if event.severity = "info" then insert value values else values.erase value
  | _ => values

/-- A source is available or has failed. -/
def SourceState.ofBool (available : Bool) : SourceState := if available then .available else .failed

/-- What is stored of a source by `availability`; it is available when nothing is. -/
def availableState (v : Option StateValue) : SourceState := .ofBool ((v.map (·.truth)).getD true)

/-- What is stored of an optional source, also in the old form; it is available when nothing is. -/
def optionalState (v : Option StateValue) : SourceState := (readSourceState v).getD .available

/-- The log of a source tells its states: there is an event when the state changes, the events lead from the state
at the beginning to the last one, and each announces another state than the one before it. -/
structure Tracks {O : Type} (r : Recorder O StateValue Event) (state : O → SourceState) (v : Option StateValue)
    (initial : SourceState) : Prop where
  emits : ∀ before o, r.events (r.last v before) o ≠ [] ↔ state o ≠ (before.getLast?.map state).getD initial
  replay : ∀ os, (r.log v os).flatten.foldl readSource initial = (os.getLast?.map state).getD initial
  alternate : ∀ os, (r.log v os).flatten.IsChain fun e e' => announced e ≠ announced e'

end Monitoring
