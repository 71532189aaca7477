import Mathlib.Data.Int.Basic

/-!
# Watchdog: data model

The data contracts of `gost_watchdog/models.py`: modes, health states, probe results, the durable row
of one profile and the events of the history. Enumerations of the source are inductive types here, so
a row or an event with a value outside them cannot be built. Times are whole seconds.
-/

namespace Watchdog

/-- `SERVICE_RECONCILIATION_INTERVAL_SECONDS`: how long an answer about the unit is trusted. -/
def serviceReconciliationIntervalSeconds : Int := 10

/-- `MODES`. -/
inductive Mode where
  | disabled | monitor | auto
  deriving DecidableEq, Repr

/-- `HEALTH_STATES`. -/
inductive HealthState where
  | unknown | healthy | degraded | down | recovering
  deriving DecidableEq, Repr

/-- `DISPLAY_STATES`: a health state, or maintenance. -/
inductive DisplayState where
  | health (h : HealthState)
  | maintenance
  deriving DecidableEq, Repr

instance : Coe HealthState DisplayState := ⟨.health⟩

/-- `PROBE_STATUSES`. -/
inductive ProbeStatus where
  | success | unreachable | probeError
  deriving DecidableEq, Repr

/-- `CHECK_STATUSES`: the status of the last probe, if there was one. -/
inductive CheckStatus where
  | unknown
  | probed (status : ProbeStatus)
  deriving DecidableEq, Repr

/-- `ProbeResult`. Its `__post_init__` makes the error category present exactly for probe errors. -/
inductive ProbeResult where
  | success
  | unreachable
  | probeError (errorCategory : String)
  deriving DecidableEq, Repr

namespace ProbeResult

def status : ProbeResult → ProbeStatus
  | .success => .success
  | .unreachable => .unreachable
  | .probeError _ => .probeError

def errorCategory : ProbeResult → Option String
  | .probeError category => some category
  | _ => none

/-- `process` also takes a plain `bool`. -/
instance : Coe Bool ProbeResult := ⟨fun ok => if ok then .success else .unreachable⟩

end ProbeResult

/-- `PENDING_ACTIONS`: the intent persisted before a systemd action. -/
inductive PendingAction where
  | stopWatchdog | stopMaintenance | startWatchdog | startMaintenance | startOperator
  deriving DecidableEq, Repr

/-- `stop_watchdog` and `stop_maintenance`. -/
def PendingAction.isStop : PendingAction → Bool
  | .stopWatchdog | .stopMaintenance => true
  | _ => false

/-- The owners a stop can have. -/
inductive StopOwner where
  | watchdog | maintenance
  deriving DecidableEq, Repr

/-- The owners a start can have. -/
inductive StartOwner where
  | watchdog | maintenance | operator
  deriving DecidableEq, Repr

/-- `f"stop_{owner}"`. -/
def StopOwner.action : StopOwner → PendingAction
  | .watchdog => .stopWatchdog
  | .maintenance => .stopMaintenance

/-- `f"start_{owner}"`. -/
def StartOwner.action : StartOwner → PendingAction
  | .watchdog => .startWatchdog
  | .maintenance => .startMaintenance
  | .operator => .startOperator

/-- `ProfileConfig`. The configuration bounds make the interval and both thresholds positive; the engine
and the daemon do not rely on the other bounds. -/
structure ProfileConfig where
  mode : Mode := .disabled
  checkIntervalSeconds : Nat := 2
  pingTimeoutSeconds : Nat := 1
  failureThreshold : Nat := 10
  successThreshold : Nat := 10
  recoveryHoldSeconds : Nat := 10
  recoveryJitterMaxSeconds : Nat := 10
  checkIntervalSeconds_pos : 1 ≤ checkIntervalSeconds := by decide
  failureThreshold_pos : 1 ≤ failureThreshold := by decide
  successThreshold_pos : 1 ≤ successThreshold := by decide

/-- The digits of a number without leading zero: `[1-9][0-9]*`. -/
def isNumber : List Char → Bool
  | [] => false
  | c :: cs => ('1' ≤ c && c ≤ '9') && cs.all fun d => '0' ≤ d && d ≤ '9'

/-- `PROFILE_RE.fullmatch`: `iran-[1-9][0-9]*`. -/
def profileRe (profileId : String) : Bool :=
  "iran-".toList.isPrefixOf profileId.toList && isNumber (profileId.toList.drop 5)

/-- `UNIT_RE.fullmatch`: `gost-iran-[1-9][0-9]*.service`. -/
def unitRe (serviceName : String) : Bool :=
  "gost-iran-".toList.isPrefixOf serviceName.toList &&
  ".service".toList.isSuffixOf serviceName.toList &&
  isNumber ((serviceName.toList.drop 10).take (serviceName.length - 18))

/-- The unit of a profile: `f"gost-{profile_id}.service"`. -/
def unitOf (profileId : String) : String := "gost-" ++ profileId ++ ".service"

/-- `ManagedProfile`, as `discover_profiles` and `load_managed_profile_identity` build it: a numbered
Iran profile together with its own unit. -/
structure ManagedProfile where
  profileId : String
  serviceName : String
  kharejIp : String
  config : ProfileConfig
  profileId_valid : profileRe profileId = true
  serviceName_eq : serviceName = unitOf profileId

/-- `ProfileState`: the durable row of one profile. -/
structure ProfileState where
  profileId : String
  serviceName : String
  kharejIp : String
  healthState : HealthState := .unknown
  maintenance : Bool := false
  stoppedByWatchdog : Bool := false
  stoppedByMaintenance : Bool := false
  manualOverride : Bool := false
  failureCount : Nat := 0
  successCount : Nat := 0
  lastCheckAt : Option Int := none
  lastTransitionAt : Option Int := none
  outageStartedAt : Option Int := none
  recoveryStartedAt : Option Int := none
  recoveryReadyAt : Option Int := none
  recoveryJitterSeconds : Int := 0
  lastServiceActive : Option Bool := none
  checkStatus : CheckStatus := .unknown
  lastProbeErrorCategory : Option String := none
  pendingAction : Option PendingAction := none
  pendingActionAt : Option Int := none
  lastServiceCheckAt : Option Int := none
  deriving DecidableEq, Repr

/-- `display_state`. -/
def ProfileState.displayState (state : ProfileState) : DisplayState :=
  if state.maintenance then .maintenance else state.healthState

/-- `EVENT_CODES`. -/
inductive EventCode where
  | watchdogDegraded | watchdogUpstreamDown | watchdogProfileStopped | watchdogRecovering
  | watchdogUpstreamHealthy | watchdogProfileStarted | watchdogStopFailed | watchdogStartFailed
  | watchdogManualOverride | watchdogMaintenanceEnabled | watchdogMaintenanceDisabled
  | watchdogConfigError | watchdogDaemonStarted | watchdogDaemonStopped | watchdogProbeError
  | watchdogProbeRecovered | watchdogActionError | watchdogModeChangeStart
  deriving DecidableEq, Repr

/-- `SAFE_ACTION_RESULTS`. -/
inductive ActionResult where
  | stopped | started | alreadyInactive | alreadyActive | manualStart | manualStop
  | maintenanceStop | maintenanceExitNoStart | maintenanceExitStart | rearmed | failed
  | intentReconciled | compensated | operatorStart
  deriving DecidableEq, Repr

/-- `WatchdogEvent`. The error category is free text that the store checks. -/
structure WatchdogEvent where
  ts : Int
  code : EventCode
  profileId : Option String := none
  serviceName : Option String := none
  kharejIp : Option String := none
  previousState : Option DisplayState := none
  newState : Option DisplayState := none
  failureCount : Nat := 0
  successCount : Nat := 0
  actionResult : Option ActionResult := none
  outageDuration : Option Int := none
  errorCategory : Option String := none
  deriving DecidableEq, Repr

/-- The exceptions the engine distinguishes: `CommandError`, and everything else by its kind. -/
inductive Exn where
  | commandError (message : String)
  | valueError (message : String)
  | profileError (message : String)
  | storeError
  deriving DecidableEq, Repr

end Watchdog
