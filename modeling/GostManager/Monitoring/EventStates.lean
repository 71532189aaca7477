import Mathlib.Data.List.Infix
import Mathlib.Logic.Function.Basic
import GostManager.Lists.Dictionary

/-!
# Monitoring: event states

`monitoring/event_state.py`, and the places of `monitoring/collector.py` that keep such a state themselves.
Each looks up what is stored under its key, stores the new value, and returns the events of the change.
-/

namespace Monitoring

/-- The keys `event.*` of the table `collector_state`. -/
inductive StateKey where
  /-- `event.source.{source}` -/
  | source (source : String)
  /-- `event.value.{key}` -/
  | value (key : String)
  /-- `event.edge.{key}` -/
  | edge (key : String)
  /-- `event.set.{key}` -/
  | set (key : String)
  /-- `event.malformed_env_paths` -/
  | malformedEnvPaths
  /-- `event.cycle_health` -/
  | cycleHealth
  /-- `event.maintenance_health` -/
  | maintenanceHealth
  /-- `event.checkpoint_health` -/
  | checkpointHealth
  deriving DecidableEq

/-- The values that are stored. -/
inductive StateValue where
  | bool (value : Bool)
  | text (value : String)
  | texts (values : List String)
  deriving DecidableEq

/-- `bool(...)`. -/
def StateValue.truth : StateValue → Bool
  | .bool value => value
  | .text value => value != ""
  | .texts values => !values.isEmpty

/-- The entries `event.*`. An entry that is no JSON counts as missing. -/
abbrev Entries : Type := StateKey → Option StateValue

/-- The details of an event. -/
inductive Detail where
  | null
  | value (value : StateValue)
  | number (value : Nat)
  deriving DecidableEq

/-- `Event`. -/
structure Event where
  ts : Nat
  severity : String
  code : String
  message : String
  details : List (String × Detail) := []
  deriving DecidableEq

/-- The words of `SENSITIVE_KEY_RE`. -/
def sensitiveWords : List String :=
  ["pass", "password", "token", "secret", "credential", "auth", "user"]

/-- `SENSITIVE_KEY_RE.search`. -/
def isSensitiveKey (key : String) : Bool :=
  let letters := key.toList.map Char.toLower
  sensitiveWords.any fun word => letters.tails.any fun rest => word.toList.isPrefixOf rest

/-- `safe_details`. -/
def safeDetails (details : List (String × Detail)) : List (String × Detail) :=
  details.filter fun detail => !isSensitiveKey detail.1

/-- A method of `EventState`, with its arguments: what it stores, and the events it returns for what was
stored before. -/
structure Transition where
  key : StateKey
  value : StateValue
  events : Option StateValue → List Event

/-- The stored entries after a call. -/
def Transition.save (t : Transition) (entries : Entries) : Entries :=
  Function.update entries t.key (some t.value)

/-- The events that a call returns. -/
def Transition.report (t : Transition) (entries : Entries) : List Event := t.events (entries t.key)

/-! ## The methods of `EventState` -/

/-- The event of a source. -/
def sourceEvent (source : String) (available : Bool) (ts : Nat) : Event where
  ts
  severity := if available then "info" else "warning"
  code := if available then "metric_source_available" else "metric_source_unavailable"
  message := "Metric source " ++ source ++ " is " ++ if available then "available" else "unavailable"
  details := [("source", .value (.text source))]

/-- `availability`. -/
def availability (source : String) (available : Bool) (ts : Nat) : Transition where
  key := .source source
  value := .bool available
  events
    | none => if available then [] else [sourceEvent source available ts]
    | some previous => if previous.truth = available then [] else [sourceEvent source available ts]

/-- The states of a source. -/
inductive SourceState where
  | available | unsupported | failed
  deriving DecidableEq, Repr

/-- The states as they are stored. -/
def SourceState.text : SourceState → String
  | .available => "available"
  | .unsupported => "unsupported"
  | .failed => "failed"

/-- What is stored of an optional source, also in the old form. -/
def readSourceState : Option StateValue → Option SourceState
  | some (.bool true) => some .available
  | some (.bool false) => some .failed
  | some (.text "available") => some .available
  | some (.text "unsupported") => some .unsupported
  | some (.text "failed") => some .failed
  | _ => none

/-- `optional_availability`. -/
def optionalAvailability (source : String) (current : SourceState) (ts : Nat) : Transition where
  key := .source source
  value := .text current.text
  events stored :=
    let previous := readSourceState stored
    if previous = some current ∨ previous = none ∧ current = .available then []
    else if current = .unsupported then
      [{ ts
         severity := "info"
         code := "optional_source_unsupported"
         message := "Optional metric source " ++ source ++ " is unsupported"
         details := [("source", .value (.text source))] }]
    else if current = .available ∧ previous = some .unsupported then
      [{ ts
         severity := "info"
         code := "optional_source_available"
         message := "Optional metric source " ++ source ++ " is available"
         details := [("source", .value (.text source))] }]
    else [sourceEvent source (current = .available) ts]

/-- `value_transition`. -/
def valueTransition (key : String) (value : StateValue) (ts : Nat) (code message : String)
    (details : List (String × Detail)) (severity : String := "info") (emitInitial : Bool := false) :
    Transition where
  key := .value key
  value
  events previous :=
    if previous = some value ∨ previous = none ∧ emitInitial = false then []
    else [{ ts
            severity
            code
            message
            details := safeDetails (Lists.dictionary Prod.fst (details ++
              [("previous", previous.elim .null .value), ("current", .value value)])) }]

/-- `edge`. -/
def edge (key : String) (active : Bool) (ts : Nat) (code message : String)
    (details : List (String × Detail)) (severity : String := "warning") : Transition where
  key := .edge key
  value := .bool active
  events previous :=
    if active = false ∨ previous = some (.bool true) then []
    else [{ ts, severity, code, message, details := safeDetails details }]

/-- `set_transitions`, for sorted values. -/
def setTransitions (key : String) (values : List String) (ts : Nat) (addedCode removedCode noun : String) :
    Transition where
  key := .set key
  value := .texts values
  events
    | none => []
    | some previous =>
      let known := match previous with
        | .texts known => known
        | _ => []
      (values.filter fun value => value ∉ known).map (fun value =>
        { ts
          severity := "info"
          code := addedCode
          message := noun ++ " added"
          details := [(noun, .value (.text value))] }) ++
      (known.filter fun value => value ∉ values).map fun value =>
        { ts
          severity := "warning"
          code := removedCode
          message := noun ++ " removed"
          details := [(noun, .value (.text value))] }

/-! ## The states of the collector -/

/-- `code.replace("_", " ").capitalize()`. -/
def flagMessage (code : String) : String :=
  match code.toList.map fun c => if c = '_' then ' ' else c with
  | [] => ""
  | c :: cs => String.ofList (c.toUpper :: cs.map Char.toLower)

/-- `_record_flag_event`. -/
def recordFlagEvent (key : String) (active : Bool) (ts : Nat) (code : String)
    (details : List (String × Detail)) : Transition :=
  edge key active ts code (flagMessage code) details

/-- The paths of the environment files that cannot be read. -/
def malformedEnvPaths (paths : List String) (ts : Nat) : Transition where
  key := .malformedEnvPaths
  value := .texts paths
  events previous :=
    let known := match previous with
      | some (.texts known) => known
      | _ => []
    (paths.filter fun path => path ∉ known).map (fun path =>
      { ts
        severity := "warning"
        code := "env_parse_error"
        message := "Tunnel env source is malformed"
        details := [("path", .value (.text path))] }) ++
    (known.filter fun path => path ∉ paths).map fun path =>
      { ts
        severity := "info"
        code := "env_parse_recovered"
        message := "Tunnel env source recovered"
        details := [("path", .value (.text path))] }

/-- Whether the listeners of a tunnel are missing. -/
def listenerMissing (tunnelId : String) (missing : Bool) (ts : Nat) : Transition where
  key := .value ("tunnel.listener_missing." ++ tunnelId)
  value := .bool missing
  events
    | none => []
    | some previous =>
      if previous.truth = missing then []
      else [{ ts
              severity := if missing then "warning" else "info"
              code := if missing then "listener_disappeared" else "listener_returned"
              message := "Tunnel listener state changed"
              details := [("tunnel_id", .value (.text tunnelId))] }]

/-- `_cycle_recovery`. -/
def cycleRecovery (ts : Nat) : Transition where
  key := .cycleHealth
  value := .text "ok"
  events previous :=
    if previous = some (.text "failed") then
      [{ ts
         severity := "info"
         code := "collection_recovered"
         message := "Monitoring collection recovered" }]
    else []

/-- `_record_cycle_failure`. -/
def cycleFailure (cycleId : Nat) (reason : String) (ts : Nat) : Transition where
  key := .cycleHealth
  value := .text "failed"
  events previous :=
    if previous = some (.text "failed") then []
    else [{ ts
            severity := "error"
            code := "collection_failed"
            message := "Monitoring collection cycle failed"
            details := [("cycle_id", .number cycleId), ("reason", .value (.text reason))] }]

/-- What `collect_once` keeps of its maintenance. -/
def maintenanceHealth (succeeded : Bool) (ts : Nat) : Transition where
  key := .maintenanceHealth
  value := .text (if succeeded then "ok" else "failed")
  events previous :=
    if succeeded then
      if previous = some (.text "failed") then
        [{ ts
           severity := "info"
           code := "database_retention_recovered"
           message := "Database retention maintenance recovered" }]
      else []
    else if previous = some (.text "failed") then []
    else [{ ts
            severity := "warning"
            code := "database_retention_failed"
            message := "Database retention maintenance failed" }]

/-- `_record_checkpoint_result`, with the busy, log and checkpointed frames of a success. -/
def checkpointHealth (result : Option (Nat × Nat × Nat)) (ts : Nat) : Transition where
  key := .checkpointHealth
  value := .text (if result.isSome then "ok" else "failed")
  events previous :=
    match result with
    | some (busy, log, checkpointed) =>
      if previous = none then
        [{ ts
           severity := "info"
           code := "wal_checkpoint"
           message := "WAL checkpoint completed"
           details := [("busy", .number busy), ("log", .number log),
             ("checkpointed", .number checkpointed)] }]
      else if previous = some (.text "failed") then
        [{ ts
           severity := "info"
           code := "wal_checkpoint_recovered"
           message := "WAL checkpoint recovered" }]
      else []
    | none =>
      if previous = some (.text "failed") then []
      else [{ ts
              severity := "warning"
              code := "wal_checkpoint_failed"
              message := "WAL checkpoint failed" }]

end Monitoring
