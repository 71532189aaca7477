import GostManager.Watchdog.Commands

/-!
# Watchdog: the engine

The state machine of `gost_watchdog/engine.py`. The source mutates one `ProfileState` and one list of
events; here both are passed along and returned. The wall clock is read once at the start of every
call, so it is an argument `now`.
-/

namespace Watchdog

open Effects

/-- The optional fields of an event (`**values`). -/
structure EventValues where
  previousState : Option DisplayState := none
  newState : Option DisplayState := none
  actionResult : Option ActionResult := none
  outageDuration : Option Int := none
  errorCategory : Option String := none

/-- `_event`. -/
def event (state : ProfileState) (code : EventCode) (now : Int) (values : EventValues := {}) :
    WatchdogEvent where
  ts := now
  code
  profileId := state.profileId
  serviceName := state.serviceName
  kharejIp := state.kharejIp
  previousState := values.previousState
  newState := values.newState
  failureCount := state.failureCount
  successCount := state.successCount
  actionResult := values.actionResult
  outageDuration := values.outageDuration
  errorCategory := values.errorCategory

/-- `STATE_EVENT`, which has no entry for `unknown`. -/
def stateEvent : (newState : HealthState) → newState ≠ .unknown → EventCode
  | .unknown, h => absurd rfl h
  | .degraded, _ => .watchdogDegraded
  | .down, _ => .watchdogUpstreamDown
  | .recovering, _ => .watchdogRecovering
  | .healthy, _ => .watchdogUpstreamHealthy

/-- The state and the events not yet written, as the methods of the engine share them. -/
abbrev Draft : Type := ProfileState × List WatchdogEvent

/-! ## Assignments that several methods share -/

namespace ProfileState

/-- `pending_action = ...; pending_action_at = now`. -/
@[simps] def intend (state : ProfileState) (action : PendingAction) (now : Int) : ProfileState :=
  { state with pendingAction := some action, pendingActionAt := some now }

/-- `pending_action = None; pending_action_at = None`. -/
@[simps] def clearPending (state : ProfileState) : ProfileState :=
  { state with pendingAction := none, pendingActionAt := none }

/-- `pending_action = None; pending_action_at = None; manual_override = True`. -/
@[simps] def refuse (state : ProfileState) : ProfileState :=
  { state with pendingAction := none, pendingActionAt := none, manualOverride := true }

/-- `manual_override = ...`. -/
@[simps] def setOverride (state : ProfileState) (manualOverride : Bool) : ProfileState :=
  { state with manualOverride }

/-- `last_service_active = active; last_service_check_at = now`. -/
@[simps] def observe (state : ProfileState) (active : Bool) (now : Int) : ProfileState :=
  { state with lastServiceActive := some active, lastServiceCheckAt := some now }

/-- `last_service_active = ...`. -/
@[simps] def setActive (state : ProfileState) (active : Bool) : ProfileState :=
  { state with lastServiceActive := some active }

/-- `stopped_by_watchdog = ...; stopped_by_maintenance = ...`. -/
@[simps] def setOwner (state : ProfileState) (watchdog maintenance : Bool) : ProfileState :=
  { state with stoppedByWatchdog := watchdog, stoppedByMaintenance := maintenance }

/-- `maintenance = ...`. -/
@[simps] def setMaintenance (state : ProfileState) (maintenance : Bool) : ProfileState :=
  { state with maintenance }

/-- `health_state = ...; last_transition_at = now`. -/
@[simps] def enterHealth (state : ProfileState) (healthState : HealthState) (now : Int) :
    ProfileState :=
  { state with healthState, lastTransitionAt := some now }

end ProfileState

/-! ## `DurableServiceActions` -/

namespace DurableServiceActions

/-- `_fail_pending`. -/
def failPending (state : ProfileState) (events : List WatchdogEvent) (now : Int)
    (errorCategory : String) : Draft :=
  (state.refuse, events ++ [event state .watchdogActionError now
    { actionResult := some .failed, errorCategory := some errorCategory }])

/-- `_finalize_pending_stop`. -/
def finalizePendingStop (action : PendingAction) (state : ProfileState)
    (events : List WatchdogEvent) (now : Int) : Draft :=
  let state :=
    (state.setOwner (action == .stopWatchdog) (action == .stopMaintenance)).setActive false
  if action = .stopWatchdog then
    (state, events ++ [event state .watchdogProfileStopped now
      { actionResult := some .intentReconciled }])
  else
    (state.setMaintenance true, events ++ [event state .watchdogMaintenanceEnabled now
      { previousState := some state.healthState, newState := some .maintenance,
        actionResult := some .maintenanceStop }])

/-- `_finalize_pending_start`. -/
def finalizePendingStart (action : PendingAction) (state : ProfileState)
    (events : List WatchdogEvent) (now : Int) : Draft :=
  let state := ((state.setOwner false false).setOverride false).setActive true
  if action = .startWatchdog then
    (state, events ++ [event state .watchdogProfileStarted now
      { actionResult := some .intentReconciled }])
  else if action = .startMaintenance then
    (state.setMaintenance false, events ++ [event state .watchdogMaintenanceDisabled now
      { previousState := some .maintenance, newState := some state.healthState,
        actionResult := some .maintenanceExitStart }])
  else
    (state, events ++ [event state .watchdogModeChangeStart now
      { actionResult := some .operatorStart }])

/-- The end of `reconcile_pending` when the intended state was reached: clear the intent and write. -/
def settlePending (draft : Draft) : Action Draft := do
  let events ← persist draft.1.clearPending draft.2
  return (draft.1.clearPending, events)

/-- The end of `reconcile_pending` when it was not: record the failure and write. -/
def abandonPending (state : ProfileState) (events : List WatchdogEvent) (now : Int)
    (errorCategory : String) : Action Draft := do
  let draft := failPending state events now errorCategory
  let events ← persist draft.1 draft.2
  return (draft.1, events)

/-- `except CommandError` around the query of `reconcile_pending`: `none` if it failed. -/
def queryActive (serviceName : String) : Action (Option Bool) :=
  (do return some (← SystemdController.isActive serviceName) : Action (Option Bool)).handle fun
    | .commandError _ => pure none
    | e => .raise e

/-- Stop a unit that is active, and answer whether it still is. -/
def stopIfActive (serviceName : String) (active : Bool) : Action Bool :=
  if active then orOnCommandError (do return !(← SystemdController.stop serviceName)) true
  else pure false

/-- Start a unit that is not active, and answer whether it is now. -/
def startIfInactive (serviceName : String) (active : Bool) : Action Bool :=
  if active then pure true else orOnCommandError (SystemdController.start serviceName) false

/-- The part of `reconcile_pending` after its query: bring the unit where the intent wanted it, unless
it is there already, and record the outcome. -/
def resumePending (profile : ManagedProfile) (state : ProfileState) (events : List WatchdogEvent)
    (now : Int) (action : PendingAction) : Option Bool → Action Draft
  | none =>
    abandonPending { state with lastServiceCheckAt := some now } events now
      "service_state_unavailable"
  | some active => do
    let state := state.observe active now
    if action.isStop then
      let active ← stopIfActive profile.serviceName active
      if active then
        abandonPending ((state.setOwner false false).setActive true) events now "stop_failed"
      else
        settlePending (finalizePendingStop action state events now)
    else
      let active ← startIfInactive profile.serviceName active
      if active then
        settlePending (finalizePendingStart action state events now)
      else
        abandonPending (state.setActive false) events now "start_failed"

/-- `reconcile_pending`: finish the intent that an interrupted call left behind. -/
def reconcilePending (profile : ManagedProfile) (state : ProfileState)
    (events : List WatchdogEvent) (now : Int) : Action Draft := do
  match state.pendingAction with
  | none => return (state, events)
  | some action =>
    validateProfileId profile.profileId
    validateServiceName profile.serviceName
    if profile.serviceName ≠ unitOf profile.profileId then
      .raise (.valueError "service does not match the managed Iran profile")
    else
    let answer ← queryActive profile.serviceName
    resumePending profile state events now action answer

/-- `if state.pending_action is not None: reconcile_pending(...)`. -/
def reconcileIfPending (profile : ManagedProfile) (state : ProfileState)
    (events : List WatchdogEvent) (now : Int) : Action Draft :=
  if state.pendingAction.isSome then reconcilePending profile state events now
  else pure (state, events)

/-- The end of a `stop` or `start` that did not do its work. -/
def refuse (state : ProfileState) (events : List WatchdogEvent) (now : Int)
    (code : EventCode) (values : EventValues) : Action (Bool × Draft) := do
  let events ← persist state.refuse (events ++ [event state.refuse code now values])
  return (false, state.refuse, events)

/-- The end of a `stop` that worked but could not be recorded: start the unit again. -/
def compensate (profile : ManagedProfile) (state : ProfileState) (now : Int) :
    Action (Bool × Draft) := do
  let compensated ← orOnCommandError (SystemdController.start profile.serviceName) false
  if !compensated then .raise (.commandError "compensation_failed")
  else
  let state := ((state.setOwner false false).setActive true).refuse
  let events ← persist state [event state .watchdogActionError now
    { actionResult := some .compensated, errorCategory := some "persistence_failed" }]
  return (false, state, events)

/-- `stop`: persist the intent, query the unit, stop it, verify and record the owner. -/
def stop (profile : ManagedProfile) (state : ProfileState) (events : List WatchdogEvent)
    (now : Int) (owner : StopOwner) : Action (Bool × Draft) := do
  let state := state.intend owner.action now
  let events ← persist state events
  let active ← SystemdController.isActive profile.serviceName
  let state := state.observe active now
  if !active then
    refuse state events now .watchdogManualOverride { actionResult := some .manualStop }
  else
  let stopped ← orOnCommandError (SystemdController.stop profile.serviceName) false
  if !stopped then
    refuse state events now .watchdogStopFailed
      { actionResult := some .failed, errorCategory := some "stop_failed" }
  else
  let state :=
    ((state.setOwner (owner == .watchdog) (owner == .maintenance)).setActive false).clearPending
  let events := if owner = .watchdog then
      events ++ [event state .watchdogProfileStopped now { actionResult := some .stopped }]
    else events
  (do let events ← persist state events
      return (true, state, events) : Action (Bool × Draft)).handle fun _ =>
    compensate profile state now

/-- `start`: persist the intent, query the unit, start it unless it runs, and release ownership. -/
def start (profile : ManagedProfile) (state : ProfileState) (events : List WatchdogEvent)
    (now : Int) (owner : StartOwner) : Action (Bool × Draft) := do
  let state := state.intend owner.action now
  let events ← persist state events
  let active ← SystemdController.isActive profile.serviceName
  let state := state.observe active now
  let active ← startIfInactive profile.serviceName active
  if !active then
    refuse state events now .watchdogStartFailed
      { actionResult := some .failed, errorCategory := some "start_failed" }
  else
  let state :=
    (((state.setOwner false false).setActive true).setOverride false).clearPending
  let events := match owner with
    | .watchdog =>
      events ++ [event state .watchdogProfileStarted now { actionResult := some .started }]
    | .operator =>
      events ++ [event state .watchdogModeChangeStart now { actionResult := some .operatorStart }]
    | .maintenance => events
  let events ← (persist state events).handle fun _ =>
    persist state (events ++ [event state .watchdogActionError now
      { actionResult := some .intentReconciled, errorCategory := some "persistence_failed" }])
  return (true, state, events)

end DurableServiceActions

/-! ## `WatchdogEngine` -/

namespace WatchdogEngine

open DurableServiceActions

/-- `WatchdogEngine.reconcile_pending`. -/
def reconcilePending (profile : ManagedProfile) (now : Int) : Action ProfileState := do
  let state ← getState profile
  let draft ← reconcileIfPending profile state [] now
  return draft.1

/-- `_transition`. -/
def transition (state : ProfileState) (newState : HealthState) (hne : newState ≠ .unknown)
    (now : Int) (events : List WatchdogEvent) (outageDuration : Option Int := none) : Draft :=
  let previous := state.healthState
  if previous = newState then (state, events)
  else
    let state := state.enterHealth newState now
    (state, events ++ [event state (stateEvent newState hne) now
      { previousState := some previous, newState := some newState, outageDuration }])

/-- `_reconcile_service` after its query: a unit that is not as it should be was changed by an
operator. -/
def noticeOperator (state : ProfileState) (now : Int) (events : List WatchdogEvent)
    (active : Bool) : Draft :=
  let owned := state.stoppedByWatchdog || state.stoppedByMaintenance
  let noted := fun (result : ActionResult) => if state.manualOverride then events
    else events ++ [event state .watchdogManualOverride now { actionResult := some result }]
  if active && owned then
    (((state.setOwner false false).setOverride true).observe active now, noted .manualStart)
  else if !active && !owned && state.lastServiceActive != some false then
    ((state.setOverride true).observe active now, noted .manualStop)
  else (state.observe active now, events)

/-- `_reconcile_service`: compare the unit with what is owned, at most every ten seconds. -/
def reconcileService (profile : ManagedProfile) (state : ProfileState) (now : Int)
    (events : List WatchdogEvent) : Action Draft := do
  let (state, events) ← reconcileIfPending profile state events now
  if state.lastServiceCheckAt.any fun checked =>
      now - checked < serviceReconciliationIntervalSeconds then
    return (state, events)
  else
  let active ← SystemdController.isActive profile.serviceName
  return noticeOperator state now events active

/-- `_stop_if_owned_transition`. -/
def stopIfOwnedTransition (profile : ManagedProfile) (state : ProfileState) (now : Int)
    (events : List WatchdogEvent) : Action Draft := do
  if profile.config.mode ≠ .auto ∨ state.maintenance ∨ state.manualOverride then
    return (state, events)
  else
    let (_, draft) ← stop profile state events now .watchdog
    return draft

/-- `_start_after_recovery`. -/
def startAfterRecovery (profile : ManagedProfile) (state : ProfileState) (now : Int)
    (events : List WatchdogEvent) : Action Draft := do
  if profile.config.mode ≠ .auto ∨ state.maintenance ∨ state.manualOverride ∨
      ¬ state.stoppedByWatchdog then
    return (state, events)
  else
    let (_, draft) ← start profile state events now .watchdog
    return draft

/-- `_complete_recovery`. -/
def completeRecovery (profile : ManagedProfile) (state : ProfileState) (now : Int)
    (events : List WatchdogEvent) : Action Draft := do
  let duration := state.outageStartedAt.map fun started => max 0 (now - started)
  let draft := transition state .healthy (by decide) now events duration
  let state := { draft.1 with
    outageStartedAt := none
    recoveryStartedAt := none
    recoveryReadyAt := none
    recoveryJitterSeconds := 0 }
  startAfterRecovery profile state now draft.2

/-- The moment from which a recovery may be completed: fixed once, when there are enough successes, as
the hold and a jitter after that success. -/
def fixRecoveryReady (config : ProfileConfig) (state : ProfileState) (now : Int) :
    Action (ProfileState × Int) :=
  match state.recoveryReadyAt with
  | some readyAt => pure (state, readyAt)
  | none => do
    let jitter ← (Prog.perform (Op.jitter config.recoveryJitterMaxSeconds) : Action Int)
    if jitter < 0 ∨ (config.recoveryJitterMaxSeconds : Int) < jitter then
      .raise (.valueError "jitter source returned an out-of-bounds value")
    else
      let readyAt := now + config.recoveryHoldSeconds + jitter
      pure ({ state with
        recoveryJitterSeconds := jitter, recoveryReadyAt := some readyAt }, readyAt)

/-- The part of `_successful_check` that follows a success counted in `recovering`: once there are
enough successes, the recovery is completed when it is due. -/
def continueRecovery (profile : ManagedProfile) (state : ProfileState) (now : Int)
    (events : List WatchdogEvent) : Action Draft := do
  let config := profile.config
  if state.successCount < config.successThreshold then return (state, events)
  else
  let (state, readyAt) ← fixRecoveryReady config state now
  if readyAt ≤ now then completeRecovery profile state now events
  else return (state, events)

/-- `_successful_check`. -/
def successfulCheck (profile : ManagedProfile) (state : ProfileState) (now : Int)
    (events : List WatchdogEvent) : Action Draft := do
  let config := profile.config
  let state := { state with failureCount := 0 }
  let counted := { state with successCount := min (state.successCount + 1) config.successThreshold }
  match state.healthState with
  | .unknown | .degraded => return transition counted .healthy (by decide) now events
  | .healthy => startAfterRecovery profile counted now events
  | .down =>
    let state := { state with
      successCount := 1
      recoveryStartedAt := some now
      recoveryReadyAt := none
      recoveryJitterSeconds := 0 }
    let draft := transition state .recovering (by decide) now events
    continueRecovery profile draft.1 now draft.2
  | .recovering => continueRecovery profile counted now events

/-- `_failed_check`. -/
def failedCheck (profile : ManagedProfile) (state : ProfileState) (now : Int)
    (events : List WatchdogEvent) : Action Draft := do
  let config := profile.config
  let state := { state with
    successCount := 0
    failureCount := min (state.failureCount + 1) config.failureThreshold
    recoveryStartedAt := none
    recoveryReadyAt := none
    recoveryJitterSeconds := 0 }
  if state.healthState = .recovering then
    return transition state .down (by decide) now events
  else if state.failureCount ≥ config.failureThreshold then
    let transitioned := state.healthState != .down
    let state := { state with outageStartedAt := state.outageStartedAt.or (some now) }
    let draft := transition state .down (by decide) now events
    if transitioned ∨ (config.mode = .auto ∧ ¬ draft.1.stoppedByWatchdog) then
      stopIfOwnedTransition profile draft.1 now draft.2
    else return draft
  else if state.healthState = .unknown ∨ state.healthState = .healthy then
    return transition state .degraded (by decide) now events
  else return (state, events)

/-- The branch of `process` for a probe error: only the status of the check is recorded. -/
def recordProbeError (state : ProfileState) (now : Int) (events : List WatchdogEvent)
    (errorCategory : String) : Action ProfileState := do
  let events :=
    if state.checkStatus ≠ .probed .probeError ∨
        state.lastProbeErrorCategory ≠ some errorCategory then
      events ++ [event state .watchdogProbeError now { errorCategory := some errorCategory }]
    else events
  let state := { state with
    checkStatus := .probed .probeError, lastProbeErrorCategory := some errorCategory }
  let _ ← persist state events
  return state

/-- Only in auto mode is the unit compared with what is owned. -/
def reconcileServiceInAuto (profile : ManagedProfile) (state : ProfileState) (now : Int)
    (events : List WatchdogEvent) : Action Draft :=
  if profile.config.mode = .auto then reconcileService profile state now events
  else pure (state, events)

/-- Count a result that is not a probe error. -/
def countResult (profile : ManagedProfile) (state : ProfileState) (result : ProbeResult) (now : Int)
    (events : List WatchdogEvent) : Action Draft :=
  if result = .success then successfulCheck profile state now events
  else failedCheck profile state now events

/-- The rest of `process`: reconcile the unit in auto mode, then count the result. -/
def check (profile : ManagedProfile) (state : ProfileState) (result : ProbeResult) (now : Int)
    (events : List WatchdogEvent) : Action ProfileState := do
  let events :=
    if state.checkStatus = .probed .probeError then
      events ++ [event state .watchdogProbeRecovered now
        { errorCategory := state.lastProbeErrorCategory }]
    else events
  let state := { state with checkStatus := .probed result.status, lastProbeErrorCategory := none }
  let (state, events) ← reconcileServiceInAuto profile state now events
  let (state, events) ← countResult profile state result now events
  let _ ← persist state events
  return state

/-- `process`. -/
def process (profile : ManagedProfile) (result : ProbeResult) (now : Int) :
    Action ProfileState := do
  let state ← getState profile
  let (state, events) ← reconcileIfPending profile state [] now
  if profile.config.mode = .disabled then return state
  else
  let state := { state with lastCheckAt := some now }
  match result with
  | .probeError errorCategory => recordProbeError state now events errorCategory
  | result => check profile state result now events

end WatchdogEngine

/-! ## `MaintenanceController` -/

/-- The maintenance actions an operator can choose. -/
inductive MaintenanceAction where
  | enterKeep | enterStop | exitNoStart | exitStart
  deriving DecidableEq, Repr

namespace MaintenanceController

open DurableServiceActions

/-- `if action == "enter-stop" and active: stop(...)`. -/
def stopForMaintenance (profile : ManagedProfile) (state : ProfileState)
    (events : List WatchdogEvent) (now : Int) (stopNow : Bool) : Action Draft :=
  if stopNow then do
    let (_, draft) ← stop profile state events now .maintenance
    return draft
  else pure (state, events)

/-- The branch of `apply` that enters maintenance. -/
def enter (profile : ManagedProfile) (state : ProfileState) (events : List WatchdogEvent)
    (now : Int) (active stopNow : Bool) : Action Draft := do
  let previousDisplay := state.displayState
  let state := state.setMaintenance true
  let (state, events) ← stopForMaintenance profile state events now (stopNow && active)
  return (state, events ++ [event state .watchdogMaintenanceEnabled now
    { previousState := some previousDisplay, newState := some .maintenance,
      actionResult := if stopNow then some .maintenanceStop else none }])

/-- The part of `apply` for `exit-start` that starts a unit that is not active. -/
def startOwned (profile : ManagedProfile) (state : ProfileState) (events : List WatchdogEvent)
    (now : Int) (active : Bool) : Action Draft := do
  if active then return (state, events)
  else if !(state.stoppedByMaintenance || state.stoppedByWatchdog) then
    .raise (.valueError "service stop is not owned by Watchdog or maintenance")
  else
    let (started, draft) ← start profile state events now .maintenance
    if !started then .raise (.commandError "start_failed") else return draft

/-- What `exit-start` and `exit-no-start` do to the unit and its ownership. -/
def settleUnit (profile : ManagedProfile) (state : ProfileState) (events : List WatchdogEvent)
    (now : Int) (active startNow : Bool) : Action Draft := do
  if startNow then
    if state.healthState ≠ .healthy then .raise (.valueError "upstream is not healthy")
    else
      let (state, events) ← startOwned profile state events now active
      return (((state.setActive true).setOverride false).setOwner false false, events)
  else if !active then return ((state.setOverride true).setActive false, events)
  else return (state, events)

/-- The branch of `apply` that leaves maintenance. -/
def exit (profile : ManagedProfile) (state : ProfileState) (events : List WatchdogEvent)
    (now : Int) (active startNow : Bool) : Action Draft := do
  let previousDisplay := state.displayState
  let (state, events) ← settleUnit profile state events now active startNow
  let state := state.setMaintenance false
  -- `exit-no-start` also gives up a stop of the watchdog
  let state := state.setOwner (state.stoppedByWatchdog && startNow) false
  return (state, events ++ [event state .watchdogMaintenanceDisabled now
    { previousState := some previousDisplay, newState := some state.healthState,
      actionResult := some
        (if startNow then .maintenanceExitStart else .maintenanceExitNoStart) }])

/-- The branches of `apply`. -/
def perform (profile : ManagedProfile) (state : ProfileState) (events : List WatchdogEvent)
    (now : Int) (active : Bool) : MaintenanceAction → Action Draft
  | .enterKeep => enter profile state events now active false
  | .enterStop => enter profile state events now active true
  | .exitNoStart => exit profile state events now active false
  | .exitStart => exit profile state events now active true

/-- `apply`. -/
def apply (profile : ManagedProfile) (action : MaintenanceAction) (now : Int) :
    Action ProfileState := do
  let state ← getState profile
  let (state, events) ← DurableServiceActions.reconcilePending profile state [] now
  let active ← SystemdController.isActive profile.serviceName
  let (state, events) ← perform profile (state.observe active now) events now active action
  let state := { state with lastTransitionAt := some now }
  let _ ← persist state events
  return state

/-- `start_owned_for_mode_change`. -/
def startOwnedForModeChange (profile : ManagedProfile) (now : Int) : Action ProfileState := do
  let state ← getState profile
  let freshnessLimit : Int := max 10 (profile.config.checkIntervalSeconds * 2)
  let fresh := state.lastCheckAt.any fun checked =>
    0 ≤ now - checked ∧ now - checked ≤ freshnessLimit
  if state.healthState ≠ .healthy ∨ state.checkStatus ≠ .probed .success ∨ ¬ fresh then
    .raise (.valueError "upstream is not healthy")
  else if ¬ state.stoppedByWatchdog then
    .raise (.valueError "service is not stopped by Watchdog")
  else
  let (started, state, _) ← start profile state [] now .operator
  if !started then .raise (.commandError "start_failed") else return state

/-- `rearm`. -/
def rearm (profile : ManagedProfile) (now : Int) : Action ProfileState := do
  let state ← getState profile
  if ¬ state.manualOverride then .raise (.valueError "manual override is not active")
  else
  let active ← SystemdController.isActive profile.serviceName
  if ¬ active ∧ ¬ state.stoppedByWatchdog then
    .raise (.valueError "start the manually stopped service before re-arming Auto Protect")
  else
  let state := (state.setOverride false).observe active now
  let _ ← persist state
    [event state .watchdogManualOverride now { actionResult := some .rearmed }]
  return state

end MaintenanceController

end Watchdog
