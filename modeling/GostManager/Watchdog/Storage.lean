import GostManager.Watchdog.Models

/-!
# Watchdog: the store

`WatchdogStore` of `gost_watchdog/storage.py`: one durable row per profile and the event table. A
`persist` writes the whole row and all events in one transaction, or nothing. The column `updated_at`
is left out: no function reads it.
-/

namespace Watchdog

/-- The contents of the database: the table `profile_state`, keyed by `profile_id`, and `events`. -/
structure Database where
  rows : String → Option ProfileState
  events : List WatchdogEvent
  /-- The primary key of `profile_state`. -/
  keyed : ∀ profileId state, rows profileId = some state → state.profileId = profileId

/-- `SAFE_ERROR_CATEGORIES`, apart from `None`. -/
def safeErrorCategories : List String :=
  ["invalid_global_config", "invalid_profile", "unsafe_directory", "service_state_unavailable",
    "stop_failed", "start_failed", "runtime_error", "ping_binary_missing",
    "ping_permission_denied", "ping_execution_failed", "ping_execution_timeout",
    "persistence_failed", "compensation_failed"]

namespace Database

/-- A database as `migrate_database` creates it. -/
def empty : Database := ⟨fun _ => none, [], by simp⟩

/-- `get_state`: the row of a profile, or a fresh one. -/
def getState (db : Database) (profileId serviceName kharejIp : String) : ProfileState :=
  match db.rows profileId with
  | none => { profileId, serviceName, kharejIp }
  | some state => { state with serviceName, kharejIp }

/-- `all_states`. -/
def allStates (db : Database) : String → Option ProfileState := db.rows

/-- `_save_state`: insert the row of a profile, or overwrite all its columns. -/
def saveState (db : Database) (state : ProfileState) : Database where
  rows := fun profileId => if profileId = state.profileId then some state else db.rows profileId
  events := db.events
  keyed := by
    intro profileId s hs
    split at hs
    · next h => rw [← Option.some.inj hs, h]
    · exact db.keyed _ _ hs

/-- `_insert_event`. The codes and action results of the source's lists are all an event can have. -/
def insertEvent (db : Database) (event : WatchdogEvent) : Except Exn Database :=
  match event.errorCategory with
  | none => .ok { db with events := db.events ++ [event] }
  | some category =>
    if category ∈ safeErrorCategories then .ok { db with events := db.events ++ [event] }
    else .error (.valueError "unsafe Watchdog error category")

/-- `persist`, when SQLite does its part: the row and the events are committed, or, if an event is
refused, nothing is. -/
def persist (db : Database) (state : ProfileState) (events : List WatchdogEvent) :
    Except Exn Database :=
  events.foldlM insertEvent (db.saveState state)

end Database

end Watchdog
