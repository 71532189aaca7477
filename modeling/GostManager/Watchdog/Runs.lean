import GostManager.Effects.Machine
import GostManager.Watchdog.Engine

/-!
# Watchdog: runs

The calls that the daemon and the admin tool make, one after the other, against one database. What
`systemctl` answers is left open: it may give any return code or none at all at any time, which covers
every state of the unit and everything an operator does to it. The parameters of `machine` say which
calls are made, whether writing the database may fail, and whether a call may be killed.
-/

namespace Watchdog

open Effects

/-- The calls, each with the profile as configured at that time and the reading of the wall clock. -/
inductive Call where
  | process (profile : ManagedProfile) (result : ProbeResult) (now : Int)
  | reconcilePending (profile : ManagedProfile) (now : Int)
  | apply (profile : ManagedProfile) (action : MaintenanceAction) (now : Int)
  | startOwnedForModeChange (profile : ManagedProfile) (now : Int)
  | rearm (profile : ManagedProfile) (now : Int)

namespace Call

def profile : Call → ManagedProfile
  | .process profile _ _ => profile
  | .reconcilePending profile _ => profile
  | .apply profile _ _ => profile
  | .startOwnedForModeChange profile _ => profile
  | .rearm profile _ => profile

def now : Call → Int
  | .process _ _ now => now
  | .reconcilePending _ now => now
  | .apply _ _ now => now
  | .startOwnedForModeChange _ now => now
  | .rearm _ now => now

/-- The program of a call. -/
def body : Call → Action ProfileState
  | .process profile result now => WatchdogEngine.process profile result now
  | .reconcilePending profile now => WatchdogEngine.reconcilePending profile now
  | .apply profile action now => MaintenanceController.apply profile action now
  | .startOwnedForModeChange profile now =>
    MaintenanceController.startOwnedForModeChange profile now
  | .rearm profile now => MaintenanceController.rearm profile now

end Call

/-- How the database and `systemctl` answer an operation. `fails` says whether a write may fail; a
failed write changes nothing. -/
def answers (fails : Prop) (db : Database) : (op : Op) → Ans op → Database → Prop
  | .getState profileId serviceName kharejIp, state, db' =>
    state = db.getState profileId serviceName kharejIp ∧ db' = db
  | .persist state events, .ok (), db' => db.persist state events = .ok db'
  | .persist _ _, .error _, db' => fails ∧ db' = db
  | .systemctl _ _, _, db' => db' = db
  | .jitter _, _, db' => db' = db

/-- An event of a run of the watchdog. -/
abbrev RunEvent : Type := Event Op Ans Exn ProfileState Call Empty

/-- The machine that makes the calls of `admits`. -/
def machine (admits : Database → List RunEvent → Call → Prop) (fails kills : Prop) :
    Machine Op Ans Exn ProfileState Call Empty Database where
  body := Call.body
  admits := admits
  answers _ db _ op a db' := answers fails db op a db'
  outside _ x _ := nomatch x
  kills := kills

instance {admits : Database → List RunEvent → Call → Prop} {fails kills : Prop}
    [∀ db h c, Decidable (admits db h c)] (db : Database) (h : List RunEvent) (c : Call) :
    Decidable ((machine admits fails kills).admits db h c) :=
  inferInstanceAs (Decidable (admits db h c))

/-! ## What a run shows -/

/-- The intent that the database holds for a profile. -/
def Database.pending (db : Database) (profileId : String) : Option PendingAction :=
  (db.rows profileId).bind (·.pendingAction)

/-- The compensating start of `stop`: the unit was just stopped and seen inactive, and the write that
was to record it failed. -/
def Compensating (serviceName : String) : List RunEvent → Prop
  | .did (.persist _ _) (.error _) :: .did (.systemctl .isActive queried) code ::
      .did (.systemctl .stop stopped) returncode :: _ =>
    queried = serviceName ∧ code = some 3 ∧ stopped = serviceName ∧ returncode = some 0
  | _ => False

/-! ## An environment that computes its answers -/

/-- The first Iran profile, under a configuration. -/
def firstProfile (config : ProfileConfig) : ManagedProfile where
  profileId := "iran-1"
  serviceName := "gost-iran-1.service"
  kharejIp := "192.0.2.1"
  config
  profileId_valid := by decide
  serviceName_eq := by decide

/-- Whether the unit runs, if the watchdog's commands are all that happens to it. -/
def unitRuns : List RunEvent → Bool
  | .did (.systemctl .stop _) _ :: _ => false
  | .did (.systemctl .start _) _ :: _ => true
  | _ :: h => unitRuns h
  | [] => true

/-- `systemctl is-active` when it works. -/
def truthful (active : Bool) : Option Int := if active then some 0 else some 3

/-- Writes succeed, commands are obeyed, the jitter is zero, and `is-active` answers as `query` says.
A write that the store refuses is not answered. -/
def environment (query : Bool → Option Int) (db : Database) (h : List RunEvent) :
    (op : Op) → Option (Ans op × Database)
  | .getState profileId serviceName kharejIp =>
    some (db.getState profileId serviceName kharejIp, db)
  | .persist state events =>
    match db.persist state events with
    | .ok db' => some (.ok (), db')
    | .error _ => none
  | .systemctl .isActive _ => some (query (unitRuns h), db)
  | .systemctl _ _ => some (some 0, db)
  | .jitter _ => some (0, db)

/-- A scene of a script: a call, the way `is-active` answers during it, and how many operations are
answered. -/
abbrev Scene : Type := Call × (Bool → Option Int) × Nat

/-- A script in this environment. -/
def played (cs : List Scene) :
    List (Call × (Call → Database → List RunEvent → (op : Op) → Option (Ans op × Database)) × Nat) :=
  cs.map fun c => (c.1, fun _ => environment c.2.1, c.2.2)

/-- A number of operations that no call needs. -/
def toTheEnd : Nat := 20

/-- A profile that is stopped at the first failure. -/
def nervousProfile : ManagedProfile := firstProfile { mode := .auto, failureThreshold := 1 }

/-- The first failure of that profile, until `answered` operations are answered. -/
def firstOutage (answered : Nat) : List Scene :=
  [(.process nervousProfile .unreachable 100, truthful, answered)]

/-- A profile that is stopped at the first failure and started at the first success. -/
def eagerProfile : ManagedProfile := firstProfile
  { mode := .auto
    failureThreshold := 1
    successThreshold := 1
    recoveryHoldSeconds := 0
    recoveryJitterMaxSeconds := 0 }

/-- An outage of that profile and its end, until `answered` operations of the last call are
answered. -/
def shortOutage (answered : Nat) : List Scene :=
  [(.process eagerProfile .unreachable 100, truthful, toTheEnd),
    (.process eagerProfile .success 102, truthful, answered)]

/-- A profile that is watched only, down at the first failure and healthy at the first success. -/
def monitoredProfile : ManagedProfile := firstProfile
  { mode := .monitor
    failureThreshold := 1
    successThreshold := 1
    recoveryHoldSeconds := 0
    recoveryJitterMaxSeconds := 0 }

/-- A profile with a success threshold of three, without hold or jitter. -/
def patientProfile (mode : Mode) : ManagedProfile := firstProfile
  { mode
    failureThreshold := 2
    successThreshold := 3
    recoveryHoldSeconds := 0
    recoveryJitterMaxSeconds := 0 }

/-- A failure, a success that arrives in `disabled` mode, and another failure, with a threshold of two
failures. -/
def ignoredSuccess : List Scene :=
  [(.process (firstProfile { mode := .auto, failureThreshold := 2 }) .unreachable 100, truthful,
      toTheEnd),
    (.process (firstProfile { mode := .disabled, failureThreshold := 2 }) .success 102, truthful,
      toTheEnd),
    (.process (firstProfile { mode := .auto, failureThreshold := 2 }) .unreachable 104, truthful, 1)]

end Watchdog
