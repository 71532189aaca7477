import GostManager.Tables.Proofs.UpsertsProofs
import GostManager.Watchdog.Storage

/-!
# Watchdog: the rows of the store

`_state_from_row`, `_save_state`, `_insert_event` and `persist` of `gost_watchdog/storage.py`, column by column and
with the texts as they are stored. The tables `profile_state` and `events` hold what the store has written. That
SQLite itself fails is left out.
-/

namespace Watchdog.Rows

open Lists Tables

/-! ## Records -/

/-- `ProfileState`, with any texts. -/
structure StateRecord where
  profileId : String
  serviceName : String
  kharejIp : String
  healthState : String := "unknown"
  maintenance : Bool := false
  stoppedByWatchdog : Bool := false
  stoppedByMaintenance : Bool := false
  manualOverride : Bool := false
  failureCount : Int := 0
  successCount : Int := 0
  lastCheckAt : Option Int := none
  lastTransitionAt : Option Int := none
  outageStartedAt : Option Int := none
  recoveryStartedAt : Option Int := none
  recoveryReadyAt : Option Int := none
  recoveryJitterSeconds : Int := 0
  lastServiceActive : Option Bool := none
  checkStatus : String := "unknown"
  lastProbeErrorCategory : Option String := none
  pendingAction : Option String := none
  pendingActionAt : Option Int := none
  lastServiceCheckAt : Option Int := none
  deriving DecidableEq

/-- `WatchdogEvent`, with any texts. -/
structure EventRecord where
  ts : Int
  code : String
  profileId : Option String := none
  serviceName : Option String := none
  kharejIp : Option String := none
  previousState : Option String := none
  newState : Option String := none
  failureCount : Int := 0
  successCount : Int := 0
  actionResult : Option String := none
  outageDuration : Option Int := none
  errorCategory : Option String := none
  deriving DecidableEq

/-- `HEALTH_STATES`. -/
def healthStates : List String := ["unknown", "healthy", "degraded", "down", "recovering"]

/-- `CHECK_STATUSES`. -/
def checkStatuses : List String := ["unknown", "success", "unreachable", "probe_error"]

/-- `PENDING_ACTIONS`. -/
def pendingActions : List String :=
  ["stop_watchdog", "stop_maintenance", "start_watchdog", "start_maintenance", "start_operator"]

/-- `EVENT_CODES`. -/
def eventCodes : List String :=
  ["watchdog_degraded", "watchdog_upstream_down", "watchdog_profile_stopped", "watchdog_recovering",
    "watchdog_upstream_healthy", "watchdog_profile_started", "watchdog_stop_failed", "watchdog_start_failed",
    "watchdog_manual_override", "watchdog_maintenance_enabled", "watchdog_maintenance_disabled",
    "watchdog_config_error", "watchdog_daemon_started", "watchdog_daemon_stopped", "watchdog_probe_error",
    "watchdog_probe_recovered", "watchdog_action_error", "watchdog_mode_change_start"]

/-- `SAFE_ACTION_RESULTS`, apart from `None`. -/
def safeActionResults : List String :=
  ["stopped", "started", "already_inactive", "already_active", "manual_start", "manual_stop", "maintenance_stop",
    "maintenance_exit_no_start", "maintenance_exit_start", "rearmed", "failed", "intent_reconciled", "compensated",
    "operator_start"]

/-! ## Columns -/

/-- The columns of `profile_state`. -/
inductive Column where
  | profileId | serviceName | kharejIp | healthState | maintenance | stoppedByWatchdog | stoppedByMaintenance
  | manualOverride | failureCount | successCount | lastCheckAt | lastTransitionAt | outageStartedAt
  | recoveryStartedAt | recoveryReadyAt | recoveryJitterSeconds | lastServiceActive | checkStatus
  | lastProbeErrorCategory | pendingAction | pendingActionAt | lastServiceCheckAt | updatedAt
  deriving DecidableEq

/-- The columns of `events`, apart from `event_id`. -/
inductive EventColumn where
  | ts | code | profileId | serviceName | kharejIp | previousState | newState | failureCount | successCount
  | actionResult | outageDuration | errorCategory
  deriving DecidableEq

/-- `int(...)` of a truth value. -/
def ofBool (b : Bool) : Value := .integer (if b then 1 else 0)

/-- A value or `NULL`. -/
def nullable {α : Type} (f : α → Value) : Option α → Value
  | none => .null
  | some a => f a

/-- The columns of the `INSERT` of `_save_state`. -/
def insertColumns : List Column :=
  [.profileId, .serviceName, .kharejIp, .healthState, .maintenance, .stoppedByWatchdog,
    .stoppedByMaintenance, .manualOverride, .failureCount, .successCount, .lastCheckAt,
    .lastTransitionAt, .outageStartedAt, .recoveryStartedAt, .recoveryReadyAt,
    .recoveryJitterSeconds, .lastServiceActive, .checkStatus, .lastProbeErrorCategory,
    .pendingAction, .pendingActionAt, .lastServiceCheckAt, .updatedAt]

/-- Its values. -/
def insertValues (state : StateRecord) (now : Int) : List Value :=
  [.text state.profileId,
    .text state.serviceName,
    .text state.kharejIp,
    .text state.healthState,
    ofBool state.maintenance,
    ofBool state.stoppedByWatchdog,
    ofBool state.stoppedByMaintenance,
    ofBool state.manualOverride,
    .integer state.failureCount,
    .integer state.successCount,
    nullable .integer state.lastCheckAt,
    nullable .integer state.lastTransitionAt,
    nullable .integer state.outageStartedAt,
    nullable .integer state.recoveryStartedAt,
    nullable .integer state.recoveryReadyAt,
    .integer state.recoveryJitterSeconds,
    nullable ofBool state.lastServiceActive,
    .text state.checkStatus,
    nullable .text state.lastProbeErrorCategory,
    nullable .text state.pendingAction,
    nullable .integer state.pendingActionAt,
    nullable .integer state.lastServiceCheckAt,
    .integer now]

/-- Its `DO UPDATE SET`: the columns, and the columns of `excluded` that they are set to. -/
def updates : List (Column × Column) :=
  [(.serviceName, .serviceName),
    (.kharejIp, .kharejIp), (.healthState, .healthState),
    (.maintenance, .maintenance), (.stoppedByWatchdog, .stoppedByWatchdog),
    (.stoppedByMaintenance, .stoppedByMaintenance), (.manualOverride, .manualOverride),
    (.failureCount, .failureCount), (.successCount, .successCount),
    (.lastCheckAt, .lastCheckAt), (.lastTransitionAt, .lastTransitionAt),
    (.outageStartedAt, .outageStartedAt), (.recoveryStartedAt, .recoveryStartedAt),
    (.recoveryReadyAt, .recoveryReadyAt), (.recoveryJitterSeconds, .recoveryJitterSeconds),
    (.lastServiceActive, .lastServiceActive), (.checkStatus, .checkStatus),
    (.lastProbeErrorCategory, .lastProbeErrorCategory),
    (.pendingAction, .pendingAction), (.pendingActionAt, .pendingActionAt),
    (.lastServiceCheckAt, .lastServiceCheckAt), (.updatedAt, .updatedAt)]

/-- The columns of the `INSERT` of `_insert_event`. -/
def eventColumns : List EventColumn :=
  [.ts, .code, .profileId, .serviceName, .kharejIp, .previousState, .newState,
    .failureCount, .successCount, .actionResult, .outageDuration, .errorCategory]

/-- Its values. -/
def eventValues (event : EventRecord) : List Value :=
  [.integer event.ts,
    .text event.code,
    nullable .text event.profileId,
    nullable .text event.serviceName,
    nullable .text event.kharejIp,
    nullable .text event.previousState,
    nullable .text event.newState,
    .integer event.failureCount,
    .integer event.successCount,
    nullable .text event.actionResult,
    nullable .integer event.outageDuration,
    nullable .text event.errorCategory]

/-! ## Reading -/

/-- A cell of a column `TEXT NOT NULL`. -/
def text? : Value → Option String
  | .text text => some text
  | _ => none

/-- A cell of a column `INTEGER NOT NULL`. -/
def int? : Value → Option Int
  | .integer n => some n
  | _ => none

/-- `bool(...)` of such a cell. -/
def bool? (value : Value) : Option Bool := (int? value).map (· ≠ 0)

/-- A cell of a column that may be `NULL`. -/
def nullable? {α : Type} (read : Value → Option α) : Value → Option (Option α)
  | .null => some none
  | value => (read value).map some

/-- `_state_from_row`. A cell that has not the type of its column cannot be read. -/
def stateFromRow (row : Row Column) : Option StateRecord := do
  some {
    profileId := ← text? (row .profileId)
    serviceName := ← text? (row .serviceName)
    kharejIp := ← text? (row .kharejIp)
    healthState := ← text? (row .healthState)
    maintenance := ← bool? (row .maintenance)
    stoppedByWatchdog := ← bool? (row .stoppedByWatchdog)
    stoppedByMaintenance := ← bool? (row .stoppedByMaintenance)
    manualOverride := ← bool? (row .manualOverride)
    failureCount := ← int? (row .failureCount)
    successCount := ← int? (row .successCount)
    lastCheckAt := ← nullable? int? (row .lastCheckAt)
    lastTransitionAt := ← nullable? int? (row .lastTransitionAt)
    outageStartedAt := ← nullable? int? (row .outageStartedAt)
    recoveryStartedAt := ← nullable? int? (row .recoveryStartedAt)
    recoveryReadyAt := ← nullable? int? (row .recoveryReadyAt)
    recoveryJitterSeconds := ← int? (row .recoveryJitterSeconds)
    lastServiceActive := ← nullable? bool? (row .lastServiceActive)
    checkStatus := ← text? (row .checkStatus)
    lastProbeErrorCategory := ← nullable? text? (row .lastProbeErrorCategory)
    pendingAction := ← nullable? text? (row .pendingAction)
    pendingActionAt := ← nullable? int? (row .pendingActionAt)
    lastServiceCheckAt := ← nullable? int? (row .lastServiceCheckAt) }

/-- The row that `_save_state` inserts. -/
def stateRow (state : StateRecord) (now : Int) : Row Column := inserted insertColumns (insertValues state now)

/-- The row that `_insert_event` inserts. -/
def insertedEventRow (event : EventRecord) : Row EventColumn := inserted eventColumns (eventValues event)

/-! ## What is written -/

/-- Each column of a state holds its field. -/
theorem stateRow_eq (state : StateRecord) (now : Int) : stateRow state now = fun
    | .profileId => .text state.profileId
    | .serviceName => .text state.serviceName
    | .kharejIp => .text state.kharejIp
    | .healthState => .text state.healthState
    | .maintenance => ofBool state.maintenance
    | .stoppedByWatchdog => ofBool state.stoppedByWatchdog
    | .stoppedByMaintenance => ofBool state.stoppedByMaintenance
    | .manualOverride => ofBool state.manualOverride
    | .failureCount => .integer state.failureCount
    | .successCount => .integer state.successCount
    | .lastCheckAt => nullable .integer state.lastCheckAt
    | .lastTransitionAt => nullable .integer state.lastTransitionAt
    | .outageStartedAt => nullable .integer state.outageStartedAt
    | .recoveryStartedAt => nullable .integer state.recoveryStartedAt
    | .recoveryReadyAt => nullable .integer state.recoveryReadyAt
    | .recoveryJitterSeconds => .integer state.recoveryJitterSeconds
    | .lastServiceActive => nullable ofBool state.lastServiceActive
    | .checkStatus => .text state.checkStatus
    | .lastProbeErrorCategory => nullable .text state.lastProbeErrorCategory
    | .pendingAction => nullable .text state.pendingAction
    | .pendingActionAt => nullable .integer state.pendingActionAt
    | .lastServiceCheckAt => nullable .integer state.lastServiceCheckAt
    | .updatedAt => .integer now := by
  funext c
  cases c <;> rfl

/-- The row of an event: each column holds its field. -/
def eventRow (event : EventRecord) : Row EventColumn
  | .ts => .integer event.ts
  | .code => .text event.code
  | .profileId => nullable .text event.profileId
  | .serviceName => nullable .text event.serviceName
  | .kharejIp => nullable .text event.kharejIp
  | .previousState => nullable .text event.previousState
  | .newState => nullable .text event.newState
  | .failureCount => .integer event.failureCount
  | .successCount => .integer event.successCount
  | .actionResult => nullable .text event.actionResult
  | .outageDuration => nullable .integer event.outageDuration
  | .errorCategory => nullable .text event.errorCategory

theorem insertedEventRow_eq (event : EventRecord) : insertedEventRow event = eventRow event := by
  funext c
  cases c <;> rfl

theorem copiesAll_updates : CopiesAll .profileId updates where
  same := by decide
  covers := by
    intro c hc
    cases c <;> first | exact absurd rfl hc | decide
  keeps := by decide

@[simp] theorem bool?_ofBool (b : Bool) : bool? (ofBool b) = some b := by
  cases b <;> rfl

@[simp] theorem nullable?_integer (n : Option Int) : nullable? int? (nullable .integer n) = some n := by
  cases n <;> rfl

@[simp] theorem nullable?_text (text : Option String) : nullable? text? (nullable .text text) = some text := by
  cases text <;> rfl

@[simp] theorem nullable?_ofBool (b : Option Bool) : nullable? bool? (nullable ofBool b) = some b := by
  cases b with
  | none => rfl
  | some b => cases b <;> rfl

/-- What is written of a state is read back. -/
theorem stateFromRow_stateRow (state : StateRecord) (now : Int) : stateFromRow (stateRow state now) = some state := by
  simp [stateFromRow, stateRow_eq, text?, int?]

/-! ## The store -/

/-- The tables. The rows of `profile_state` have distinct keys, and cells of the types of their columns. -/
structure Database where
  rows : List (Row Column)
  events : List (Row EventColumn)
  keyed : (rows.map fun row => row .profileId).Nodup
  readable : ∀ row ∈ rows, (stateFromRow row).isSome

/-- The exceptions of a write. -/
inductive Raised where
  | valueError (message : String)
  | overflowError
  deriving DecidableEq

namespace Database

/-- The tables of a new store. -/
def empty : Database := ⟨[], [], List.nodup_nil, fun _ h => nomatch h⟩

/-- `get_state`. -/
def getState (db : Database) (profileId serviceName kharejIp : String) : Option StateRecord :=
  match rowOf .profileId (.text profileId) db.rows with
  | none => some { profileId, serviceName, kharejIp }
  | some row => (stateFromRow row).map fun state => { state with serviceName, kharejIp }

/-- `all_states`, as a dictionary. -/
def allStates (db : Database) : Option (List StateRecord) :=
  (db.rows.mapM stateFromRow).map (dictionary StateRecord.profileId)

/-- The table `profile_state` after the `INSERT` of `_save_state`. -/
def withState (db : Database) (state : StateRecord) (now : Int) : Database where
  rows := upsert .profileId updates (stateRow state now) db.rows
  events := db.events
  keyed := nodup_upsert copiesAll_updates db.keyed
  readable := by
    intro row hmem
    rcases mem_upsert copiesAll_updates hmem with rfl | hmem
    · rw [stateFromRow_stateRow]
      rfl
    · exact db.readable row hmem

/-- `_save_state`. -/
def saveState (db : Database) (state : StateRecord) (now : Int) : Except Raised Database :=
  if state.healthState ∉ healthStates then .error (.valueError "invalid Watchdog health state")
  else if state.checkStatus ∉ checkStatuses then .error (.valueError "invalid Watchdog check status")
  else if state.pendingAction.any (· ∉ pendingActions) then .error (.valueError "invalid Watchdog pending action")
  else if ∀ value ∈ insertValues state now, value.Binds then .ok (db.withState state now)
  else .error .overflowError

/-- The table `events` with more rows. -/
def withEvents (db : Database) (events : List (Row EventColumn)) : Database :=
  { db with events := db.events ++ events }

/-- `_insert_event`. -/
def insertEvent (db : Database) (event : EventRecord) : Except Raised Database :=
  if event.code ∉ eventCodes then .error (.valueError "unsupported Watchdog event code")
  else if event.actionResult.any (· ∉ safeActionResults) then .error (.valueError "unsafe Watchdog action result")
  else if event.errorCategory.any (· ∉ safeErrorCategories) then
    .error (.valueError "unsafe Watchdog error category")
  else if ∀ value ∈ eventValues event, value.Binds then .ok (db.withEvents [insertedEventRow event])
  else .error .overflowError

end Database

/-- A transaction: the tables when it was begun, and what it has made of them. -/
structure Transaction where
  before : Database
  working : Database

namespace Transaction

/-- `BEGIN IMMEDIATE`. -/
def begin (db : Database) : Transaction := ⟨db, db⟩

/-- A statement. One that raises changes nothing. -/
def execute (t : Transaction) (statement : Database → Except Raised Database) : Except Raised Unit × Transaction :=
  match statement t.working with
  | .error raised => (.error raised, t)
  | .ok db => (.ok (), { t with working := db })

/-- The loop of `persist` over the events. -/
def insertEvents (t : Transaction) : List EventRecord → Except Raised Unit × Transaction
  | [] => (.ok (), t)
  | event :: events =>
    match t.execute (·.insertEvent event) with
    | (.error raised, t) => (.error raised, t)
    | (.ok (), t) => t.insertEvents events

/-- `commit`. -/
def commit (t : Transaction) : Database := t.working

/-- `rollback`. -/
def rollback (t : Transaction) : Database := t.before

end Transaction

/-- `persist`: how it ends, and what is in the tables then. -/
def Database.persist (db : Database) (state : StateRecord) (events : List EventRecord) (now : Int) :
    Except Raised Unit × Database :=
  match (Transaction.begin db).execute (·.saveState state now) with
  | (.error raised, t) => (.error raised, t.rollback)
  | (.ok (), t) =>
    match t.insertEvents events with
    | (.error raised, t) => (.error raised, t.rollback)
    | (.ok (), t) => (.ok (), t.commit)

/-! ## What the store takes -/

/-- The values of a state that `_save_state` accepts. -/
structure StateRecord.Allowed (state : StateRecord) (now : Int) : Prop where
  healthState : state.healthState ∈ healthStates
  checkStatus : state.checkStatus ∈ checkStatuses
  pendingAction : ∀ action ∈ state.pendingAction, action ∈ pendingActions
  binds : ∀ value ∈ insertValues state now, value.Binds

/-- The values of an event that `_insert_event` accepts. -/
structure EventRecord.Allowed (event : EventRecord) : Prop where
  code : event.code ∈ eventCodes
  actionResult : ∀ result ∈ event.actionResult, result ∈ safeActionResults
  errorCategory : ∀ category ∈ event.errorCategory, category ∈ safeErrorCategories
  binds : ∀ value ∈ eventValues event, value.Binds

/-! ## The states of the engine as records -/

/-- A health state, as text. -/
def healthText : HealthState → String
  | .unknown => "unknown"
  | .healthy => "healthy"
  | .degraded => "degraded"
  | .down => "down"
  | .recovering => "recovering"

/-- A check status, as text. -/
def checkText : CheckStatus → String
  | .unknown => "unknown"
  | .probed .success => "success"
  | .probed .unreachable => "unreachable"
  | .probed .probeError => "probe_error"

/-- A pending action, as text. -/
def actionText : PendingAction → String
  | .stopWatchdog => "stop_watchdog"
  | .stopMaintenance => "stop_maintenance"
  | .startWatchdog => "start_watchdog"
  | .startMaintenance => "start_maintenance"
  | .startOperator => "start_operator"

/-- The state of an event, as text. -/
def displayText : DisplayState → String
  | .health h => healthText h
  | .maintenance => "maintenance"

/-- An event code, as text. -/
def codeText : EventCode → String
  | .watchdogDegraded => "watchdog_degraded"
  | .watchdogUpstreamDown => "watchdog_upstream_down"
  | .watchdogProfileStopped => "watchdog_profile_stopped"
  | .watchdogRecovering => "watchdog_recovering"
  | .watchdogUpstreamHealthy => "watchdog_upstream_healthy"
  | .watchdogProfileStarted => "watchdog_profile_started"
  | .watchdogStopFailed => "watchdog_stop_failed"
  | .watchdogStartFailed => "watchdog_start_failed"
  | .watchdogManualOverride => "watchdog_manual_override"
  | .watchdogMaintenanceEnabled => "watchdog_maintenance_enabled"
  | .watchdogMaintenanceDisabled => "watchdog_maintenance_disabled"
  | .watchdogConfigError => "watchdog_config_error"
  | .watchdogDaemonStarted => "watchdog_daemon_started"
  | .watchdogDaemonStopped => "watchdog_daemon_stopped"
  | .watchdogProbeError => "watchdog_probe_error"
  | .watchdogProbeRecovered => "watchdog_probe_recovered"
  | .watchdogActionError => "watchdog_action_error"
  | .watchdogModeChangeStart => "watchdog_mode_change_start"

/-- An action result, as text. -/
def resultText : ActionResult → String
  | .stopped => "stopped"
  | .started => "started"
  | .alreadyInactive => "already_inactive"
  | .alreadyActive => "already_active"
  | .manualStart => "manual_start"
  | .manualStop => "manual_stop"
  | .maintenanceStop => "maintenance_stop"
  | .maintenanceExitNoStart => "maintenance_exit_no_start"
  | .maintenanceExitStart => "maintenance_exit_start"
  | .rearmed => "rearmed"
  | .failed => "failed"
  | .intentReconciled => "intent_reconciled"
  | .compensated => "compensated"
  | .operatorStart => "operator_start"

/-- A state as a record. -/
def stateRecord (state : ProfileState) : StateRecord where
  profileId := state.profileId
  serviceName := state.serviceName
  kharejIp := state.kharejIp
  healthState := healthText state.healthState
  maintenance := state.maintenance
  stoppedByWatchdog := state.stoppedByWatchdog
  stoppedByMaintenance := state.stoppedByMaintenance
  manualOverride := state.manualOverride
  failureCount := state.failureCount
  successCount := state.successCount
  lastCheckAt := state.lastCheckAt
  lastTransitionAt := state.lastTransitionAt
  outageStartedAt := state.outageStartedAt
  recoveryStartedAt := state.recoveryStartedAt
  recoveryReadyAt := state.recoveryReadyAt
  recoveryJitterSeconds := state.recoveryJitterSeconds
  lastServiceActive := state.lastServiceActive
  checkStatus := checkText state.checkStatus
  lastProbeErrorCategory := state.lastProbeErrorCategory
  pendingAction := state.pendingAction.map actionText
  pendingActionAt := state.pendingActionAt
  lastServiceCheckAt := state.lastServiceCheckAt

/-- An event as a record. -/
def eventRecord (event : WatchdogEvent) : EventRecord where
  ts := event.ts
  code := codeText event.code
  profileId := event.profileId
  serviceName := event.serviceName
  kharejIp := event.kharejIp
  previousState := event.previousState.map displayText
  newState := event.newState.map displayText
  failureCount := event.failureCount
  successCount := event.successCount
  actionResult := event.actionResult.map resultText
  outageDuration := event.outageDuration
  errorCategory := event.errorCategory

/-- The tables hold the states and the events of a store. -/
structure Represents (db : Database) (store : Watchdog.Database) : Prop where
  states : ∀ profileId, (rowOf .profileId (.text profileId) db.rows).bind stateFromRow =
    (store.rows profileId).map stateRecord
  events : db.events = store.events.map fun event => eventRow (eventRecord event)

end Watchdog.Rows
