import GostManager.Watchdog.Models

/-!
# Watchdog: what a durable row means

The relations between the fields of a row that hold whenever the row is written. They tie the owner of
a stop, the maintenance mode, the counters and the timestamps of an outage to the health state.
-/

namespace Watchdog

namespace ProfileState

/-- The fields of a row that only the counting of probe results assigns. -/
def healthRecord (state : ProfileState) :
    HealthState × Nat × Nat × Option Int × Option Int × Option Int :=
  (state.healthState, state.failureCount, state.successCount, state.outageStartedAt,
    state.recoveryStartedAt, state.recoveryReadyAt)

/-- The fields of a row that only the actions on the unit and its owner assign. -/
def serviceRecord (state : ProfileState) :
    String × Bool × Bool × Bool × Bool × Option PendingAction × Option Int :=
  (state.profileId, state.maintenance, state.stoppedByWatchdog, state.stoppedByMaintenance,
    state.manualOverride, state.pendingAction, state.lastServiceCheckAt)

end ProfileState

/-- The event says that an operator has stopped the unit. -/
def WatchdogEvent.IsManualStop (event : WatchdogEvent) : Prop :=
  event.code = .watchdogManualOverride ∧ event.actionResult = some .manualStop

/-- None of the events says that an operator has stopped the unit. -/
def NoManualStop (events : List WatchdogEvent) : Prop := ∀ event ∈ events, ¬ event.IsManualStop

/-- A row that is consistent in itself. -/
structure ProfileState.Consistent (state : ProfileState) : Prop where
  /-- A stop has one owner. -/
  one_owner : state.stoppedByWatchdog = true → state.stoppedByMaintenance = true → False
  /-- Maintenance owns a stop only while it is on. -/
  owned_maintenance : state.stoppedByMaintenance = true → state.maintenance = true
  /-- An outage lasts from `down` to the end of `recovering`. -/
  outage : state.outageStartedAt.isSome = true ↔
    state.healthState = .down ∨ state.healthState = .recovering
  recovery : state.recoveryStartedAt.isSome = true ↔ state.healthState = .recovering
  ready : state.recoveryReadyAt.isSome = true → state.healthState = .recovering
  failing : state.healthState = .degraded ∨ state.healthState = .down →
    1 ≤ state.failureCount ∧ state.successCount = 0
  not_failing : state.healthState = .unknown ∨ state.healthState = .healthy ∨
    state.healthState = .recovering → state.failureCount = 0
  succeeding : state.healthState = .healthy ∨ state.healthState = .recovering →
    1 ≤ state.successCount
  /-- An intent has a time, and only an intent has. -/
  pending : state.pendingAction.isSome = true ↔ state.pendingActionAt.isSome = true

end Watchdog
