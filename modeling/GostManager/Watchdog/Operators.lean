import GostManager.Watchdog.Traces

/-!
# Watchdog: operators

The daemon in `auto` mode on a host whose unit is also started and stopped by operators, at any time.
`notice` says what the daemon can know of that: it sees the unit only when it asks.
-/

namespace Watchdog

open Effects

/-- Who stops a unit. -/
inductive Actor where
  | watchdog | operator
  deriving DecidableEq, Repr

/-- The database of the watchdog, whether the unit runs, and who stopped it last. -/
structure Host where
  db : Database
  running : Bool := true
  stoppedBy : Option Actor := none

namespace Host

/-- A unit that is running is stopped. -/
def stop (host : Host) (actor : Actor) : Host :=
  if host.running then { host with running := false, stoppedBy := some actor } else host

def start (host : Host) : Host := { host with running := true }

end Host

/-- What an operator does to the unit. -/
inductive OperatorAction where
  | start | stop
  deriving DecidableEq, Repr

def Host.operate (host : Host) : OperatorAction → Host
  | .start => host.start
  | .stop => host.stop .operator

/-- How the host answers an operation. `is-active` does not lie; a command may fail to have an effect,
and may be reported as failed when it had one. -/
def Host.answers (host : Host) : (op : Op) → Ans op → Host → Prop
  | .systemctl .isActive _, code, host' => host' = host ∧
      (code = some 0 → host.running = true) ∧ (code = some 3 → host.running = false)
  | .systemctl .stop _, _, host' => host' = host ∨ host' = host.stop .watchdog
  | .systemctl .start _, _, host' => host' = host ∨ host' = host.start
  | op, a, host' => ∃ db, Watchdog.answers True host.db op a db ∧ host' = { host with db }

/-- The calls of `process` for one profile in `auto` mode. -/
def Call.isAutoProcess (profileId : String) : Call → Prop
  | .process profile _ _ => profile.profileId = profileId ∧ profile.config.mode = .auto
  | _ => False

instance (profileId : String) : (c : Call) → Decidable (c.isAutoProcess profileId)
  | .process .. => inferInstanceAs (Decidable (_ ∧ _))
  | .reconcilePending .. | .apply .. | .startOwnedForModeChange .. | .rearm .. => isFalse nofun

/-- The daemon and the operators, on a host. -/
def operatedCalls (profileId : String) : Machine Op Ans Exn ProfileState Call OperatorAction Host where
  body := Call.body
  admits _ _ c := c.isAutoProcess profileId
  answers _ host _ op a host' := host.answers op a host'
  outside host x host' := host' = host.operate x
  kills := False

/-- The same calls, when the unit may answer anything. -/
def autoProcessCalls (profileId : String) : Machine Op Ans Exn ProfileState Call Empty Database :=
  machine (fun _ _ c => c.isAutoProcess profileId) True False

/-! ## What the daemon has noticed -/

/-- What the daemon knows of the time since it stopped the unit. -/
inductive Notice where
  /-- It has not seen the unit running since. -/
  | unseen
  /-- The present call has seen the unit running. -/
  | seen
  /-- It has seen the unit running and has written that down; or it never stopped the unit. -/
  | noted
  deriving DecidableEq, Repr

namespace Notice

/-- The unit is running. -/
def see : Notice → Notice
  | .unseen => .seen
  | notice => notice

/-- The row is written. -/
def note : Notice → Notice
  | .seen => .noted
  | notice => notice

/-- A call has ended. -/
def forget : Notice → Notice
  | .seen => .unseen
  | notice => notice

end Notice

/-- The call has just read the intent of a stop that was not finished. -/
def Resumes (h : List RunEvent) : Prop :=
  ((justRead h).bind (·.pendingAction)).any (·.isStop) = true

instance (h : List RunEvent) : Decidable (Resumes h) :=
  inferInstanceAs (Decidable (_ = _))

/-- What the daemon has noticed of a unit. It stops a unit by a command, or by finding that the unit is
stopped when it finishes the intent of a stop. -/
def notice (profileId : String) : List RunEvent → Notice
  | .called _ :: h => (notice profileId h).forget
  | .did (.systemctl .stop _) _ :: _ => .unseen
  | .did (.systemctl .isActive _) code :: h =>
    if code = some 0 then (notice profileId h).see
    else if code = some 3 ∧ Resumes h then .unseen
    else notice profileId h
  | .did (.persist state _) (.ok ()) :: h =>
    if state.profileId = profileId then (notice profileId h).note else notice profileId h
  | _ :: h => notice profileId h
  | [] => .noted

/-! ## A host that computes its answers -/

/-- Writes succeed, commands are obeyed and the jitter is zero. -/
def Host.environment (host : Host) : (op : Op) → Option (Ans op × Host)
  | .getState profileId serviceName kharejIp =>
    some (host.db.getState profileId serviceName kharejIp, host)
  | .persist state events =>
    match host.db.persist state events with
    | .ok db => some (.ok (), { host with db })
    | .error _ => none
  | .systemctl .isActive _ => some (truthful host.running, host)
  | .systemctl .stop _ => some (some 0, host.stop .watchdog)
  | .systemctl .start _ => some (some 0, host.start)
  | .jitter _ => some (0, host)

/-- A script of calls on this host, each with the number of operations that are answered. -/
def hosted (profileId : String) (cs : List (Call × Nat)) : List (operatedCalls profileId).Scene :=
  cs.map fun c => (c.1, fun _ host _ => host.environment, c.2)

/-- An operator acts on the unit. -/
def operated {profileId : String} (x : OperatorAction) (cfg : (operatedCalls profileId).Config) :
    (operatedCalls profileId).Config :=
  cfg.disturb x (cfg.world.operate x)

end Watchdog
