import GostManager.Effects.Crash
import GostManager.Watchdog.Operators

/-!
# Watchdog: crashes

The five durable operations on a host on which `systemctl` answers truthfully and obeys. An operation is
killed between two of its effects, and `WatchdogEngine.reconcile_pending` runs when the daemon comes
back.
-/

namespace Watchdog

open Effects

/-! ## What is durable -/

/-- The durable fields of a row that say who may start or stop the unit, and whether the unit runs. -/
structure DurableState where
  pendingAction : Option PendingAction
  stoppedByWatchdog : Bool
  stoppedByMaintenance : Bool
  maintenance : Bool
  manualOverride : Bool
  running : Bool
  deriving DecidableEq, Repr

def ProfileState.durable (state : ProfileState) (running : Bool) : DurableState where
  pendingAction := state.pendingAction
  stoppedByWatchdog := state.stoppedByWatchdog
  stoppedByMaintenance := state.stoppedByMaintenance
  maintenance := state.maintenance
  manualOverride := state.manualOverride
  running

namespace DurableState

/-- An intent is written. -/
def intend (d : DurableState) (action : PendingAction) : DurableState :=
  { d with pendingAction := some action }

/-- The unit is stopped, and the stop is owned. -/
def own (d : DurableState) (watchdog maintenance : Bool) : DurableState :=
  { d with
    pendingAction := none
    stoppedByWatchdog := watchdog
    stoppedByMaintenance := maintenance
    running := false }

/-- The unit is started, and nobody owns a stop. -/
def release (d : DurableState) : DurableState :=
  { d with
    pendingAction := none
    stoppedByWatchdog := false
    stoppedByMaintenance := false
    manualOverride := false
    running := true }

/-- The operator has to look at the unit. -/
def refuse (d : DurableState) : DurableState :=
  { d with pendingAction := none, manualOverride := true }

/-- What `reconcile_pending` is for: an intent is carried out. -/
def recover (d : DurableState) : DurableState :=
  match d.pendingAction with
  | none => d
  | some action =>
    if action.isStop then
      { d.own (action == .stopWatchdog) (action == .stopMaintenance) with
        maintenance := d.maintenance || action == .stopMaintenance }
    else { d.release with maintenance := d.maintenance && action != .startMaintenance }

end DurableState

namespace Host

/-- The row of a profile as it is read. -/
def row (host : Host) (profile : ManagedProfile) : ProfileState :=
  host.db.getState profile.profileId profile.serviceName profile.kharejIp

def durable (host : Host) (profile : ManagedProfile) : DurableState :=
  (host.row profile).durable host.running

/-- The database after a row was written. -/
def write (host : Host) (state : ProfileState) (events : List WatchdogEvent) : Host :=
  { host with db := { host.db.saveState state with events := host.db.events ++ events } }

/-- How the host answers. -/
def respond (host : Host) : (op : Op) → Ans op × Host
  | .getState profileId serviceName kharejIp =>
    (host.db.getState profileId serviceName kharejIp, host)
  | .persist state events =>
    match host.db.persist state events with
    | .ok db => (.ok (), { host with db })
    | .error e => (.error e, host)
  | .systemctl .isActive _ => (if host.running then some 0 else some 3, host)
  | .systemctl .stop _ => (some 0, host.stop .watchdog)
  | .systemctl .start _ => (some 0, host.start)
  | .jitter _ => (0, host)

end Host

/-- The effects: every write, and every action of `systemctl`. -/
def Op.isEffect : Op → Bool
  | .persist .. | .systemctl .stop _ | .systemctl .start _ => true
  | _ => false

/-! ## The operations -/

/-- The durable operations. `process` calls `stop` and `start` with the copy of the row that it works on
and the events it has collected. -/
inductive DurableOperation where
  | watchdogStop (state : ProfileState) (events : List WatchdogEvent)
  | watchdogStart (state : ProfileState) (events : List WatchdogEvent)
  | enterStop
  | exitStart
  | startOwnedForModeChange

namespace DurableOperation

variable (profile : ManagedProfile) (now : Int) (host : Host)

def body : DurableOperation → Action ProfileState
  | .watchdogStop state events => do
    let (_, state, _) ← DurableServiceActions.stop profile state events now .watchdog
    return state
  | .watchdogStart state events => do
    let (_, state, _) ← DurableServiceActions.start profile state events now .watchdog
    return state
  | .enterStop => MaintenanceController.apply profile .enterStop now
  | .exitStart => MaintenanceController.apply profile .exitStart now
  | .startOwnedForModeChange => MaintenanceController.startOwnedForModeChange profile now

/-- The copy that an operation works on agrees with the row in what is durable. -/
def WorksOn (row : ProfileState) : DurableOperation → Prop
  | .watchdogStop state _ | .watchdogStart state _ =>
    state.profileId = row.profileId ∧ ∀ running, state.durable running = row.durable running
  | _ => True

/-- The host when the operation has ended by itself. -/
def completed (op : DurableOperation) : Host :=
  ((op.body profile now).run Host.respond host).2

/-- The host when the operation is killed after `n` effects. -/
def killed (op : DurableOperation) (n : Nat) : Host :=
  (op.body profile now).cut Host.respond Op.isEffect n host

/-- A stop of the watchdog is killed when it has written its intent, before it sees that the unit does
not run. -/
def LosesRace (op : DurableOperation) (n : Nat) : Prop :=
  (∃ state events, op = .watchdogStop state events) ∧ n = 1 ∧ host.running = false

/-- An `exit-start` that starts the unit is killed between its last two writes: it has recorded the
start, and not yet that the maintenance is over. -/
def HalfExited (op : DurableOperation) (n : Nat) : Prop :=
  op = .exitStart ∧ n = 3 ∧ host.running = false ∧ (host.row profile).maintenance = true ∧
    (host.row profile).healthState = .healthy ∧
    ((host.row profile).stoppedByMaintenance = true ∨ (host.row profile).stoppedByWatchdog = true)

end DurableOperation

/-- The host when the daemon has come back. -/
def Host.recovered (host : Host) (profile : ManagedProfile) (now : Int) : Host :=
  ((WatchdogEngine.reconcilePending profile now).run Host.respond host).2

end Watchdog
