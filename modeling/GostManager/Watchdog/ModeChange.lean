import GostManager.Watchdog.Concurrency

/-!
# Watchdog: changing the mode

`command_set_mode` of `gost_watchdog/admin_cli.py` next to one `run_cycle` of `gost_watchdog/daemon.py`
for the same profile. The two processes share the database, the profile file and the unit. Of a cycle
only what it does for this profile is here; other profiles have rows and units of their own.
-/

namespace Watchdog

open Effects

/-- The operations of the two processes: those of the engine, and those on the profile file. -/
inductive ModeOp where
  | engine (op : Op)
  /-- `discover_profiles`: what the files say about the profile. -/
  | loadProfile
  /-- `_existing_profile_values` and `_write_profile_values`: set `MODE`, and keep the other values. -/
  | writeMode (mode : Mode)

/-- The exceptions of the admin tool. -/
inductive AdminExn where
  /-- `AdminInputError`, and the errors of the configuration. -/
  | input (message : String)
  /-- `AdminRuntimeError`, and the errors of the operating system. -/
  | runtime (message : String)
  /-- An exception that `main` does not catch. -/
  | uncaught
  deriving DecidableEq, Repr

/-- The answers: a profile is found, or it is missing or malformed. -/
@[reducible] def ModeAns : ModeOp → Type
  | .engine op => Ans op
  | .loadProfile => Option ManagedProfile
  | .writeMode _ => Except AdminExn Unit

/-- A computation of one of the two processes. -/
abbrev ModeAction (α : Type) : Type := Prog ModeOp ModeAns AdminExn α

/-- A call of the engine, with what became of it. -/
def callEngine {α : Type} (action : Action α) : ModeAction (Except Exn α) :=
  action.embed ModeOp.engine fun _ a => a

/-- `main`: the exit code. -/
def adminExitCode : Except AdminExn Nat → Nat
  | .ok code => code
  | .error (.input _) => 2
  | .error (.runtime _) => 3
  | .error .uncaught => 1

/-! ## `set-mode` -/

/-- `--owned-action`. -/
inductive OwnedAction where
  | keepStopped | startIfHealthy
  deriving DecidableEq, Repr

/-- `except (ValueError, CommandError) as exc: raise AdminRuntimeError(str(exc))`. -/
def orAdminError {α : Type} : Except Exn α → ModeAction α
  | .ok a => pure a
  | .error (.commandError message) => .raise (.runtime message)
  | .error (.valueError message) => .raise (.runtime message)
  | .error (.profileError message) => .raise (.runtime message)
  | .error .storeError => .raise .uncaught

/-- `profile.config.mode == "auto" and mode in {"monitor", "disabled"}`. -/
abbrev LeavesAuto (profile : ManagedProfile) (mode : Mode) : Prop :=
  profile.config.mode = .auto ∧ (mode = .monitor ∨ mode = .disabled)

/-- `if needs_choice and owned_action == "start-if-healthy"`. -/
def startIfHealthy (profile : ManagedProfile) (needsChoice : Bool) (ownedAction : Option OwnedAction)
    (now : Int) : ModeAction Unit :=
  if needsChoice ∧ ownedAction = some .startIfHealthy then do
    let outcome ← callEngine (MaintenanceController.startOwnedForModeChange profile now)
    let _ ← orAdminError outcome
    pure ()
  else pure ()

/-- The part of `set-mode` after the profile was found. -/
def setModeOf (profile : ManagedProfile) (mode : Mode) (ownedAction : Option OwnedAction) (now : Int) :
    ModeAction Nat := do
  if ownedAction.isSome ∧ ¬ LeavesAuto profile mode then
    .raise (.input "owned service action is only valid when leaving Auto mode")
  else
  let state ← orAdminError (← callEngine (getState profile))
  let needsChoice : Bool := LeavesAuto profile mode ∧ state.stoppedByWatchdog
  if needsChoice ∧ ownedAction = none then
    .raise (.input ("service is stopped by Watchdog; disabling Auto recovery requires " ++
      "--owned-action keep-stopped or start-if-healthy"))
  else
  startIfHealthy profile needsChoice ownedAction now
  match ← (Prog.perform (ModeOp.writeMode mode) : ModeAction (Except AdminExn Unit)) with
  | .ok () => return 0
  | .error e => .raise e

/-- `command_set_mode`. -/
def commandSetMode (mode : Mode) (ownedAction : Option OwnedAction) (now : Int) : ModeAction Nat := do
  match ← (Prog.perform ModeOp.loadProfile : ModeAction (Option ManagedProfile)) with
  | none => .raise (.input "profile is missing, malformed, unsafe, or not managed")
  | some profile => setModeOf profile mode ownedAction now

/-! ## A cycle of the daemon -/

/-- The part of `run_cycle` for a profile that was found. An exception of the engine is recorded, and
after one in `reconcile_pending` the profile is left alone. -/
def cycleOf (profile : ManagedProfile) (due : Bool) (result : ProbeResult)
    (reconcileNow processNow : Int) : ModeAction Nat := do
  match ← callEngine (WatchdogEngine.reconcilePending profile reconcileNow) with
  | .error _ => return 0
  | .ok _ =>
    if profile.config.mode = .disabled ∨ !due then return 0
    else
    let _ ← callEngine (WatchdogEngine.process profile result processNow)
    return 0

/-- `run_cycle`, with the result of the probe if one is due. -/
def runCycle (due : Bool) (result : ProbeResult) (reconcileNow processNow : Int) : ModeAction Nat := do
  match ← (Prog.perform ModeOp.loadProfile : ModeAction (Option ManagedProfile)) with
  | none => return 0
  | some profile => cycleOf profile due result reconcileNow processNow

/-! ## Side by side -/

/-- What the processes share. -/
structure ModeHost where
  db : Database
  /-- The profile as its files say. -/
  profile : ManagedProfile
  /-- The unit runs. -/
  active : Bool

namespace ModeHost

/-- The profile file is written. -/
def setMode (w : ModeHost) (mode : Mode) : ModeHost :=
  { w with profile := { w.profile with config := { w.profile.config with mode } } }

/-- The row says that the watchdog has stopped the unit. -/
def Owned (w : ModeHost) : Prop :=
  ∃ row ∈ w.db.rows w.profile.profileId, row.stoppedByWatchdog = true

/-- The unit is stopped by the watchdog, which does not start it any more. -/
structure Stranded (w : ModeHost) : Prop where
  mode : w.profile.config.mode ≠ .auto
  owned : w.Owned
  inactive : w.active = false

/-- What `systemctl` may do to the unit: it tells the truth, and a command may fail before or after it
has done its work. -/
def unitAnswers (active : Bool) : Verb → Option Int → Bool → Prop
  | .isActive, code, active' =>
    active' = active ∧ (code = some 0 → active = true) ∧ (code = some 3 → active = false)
  | .stop, code, active' => active' = false ∨ code ≠ some 0 ∧ active' = active
  | .start, code, active' => active' = true ∨ code ≠ some 0 ∧ active' = active

/-- How operations are answered. -/
def answers (w : ModeHost) : (op : ModeOp) → ModeAns op → ModeHost → Prop
  | .engine (.systemctl verb _), code, w' =>
    ∃ active, unitAnswers w.active verb code active ∧ w' = { w with active }
  | .engine op, a, w' => ∃ db, Watchdog.answers True w.db op a db ∧ w' = { w with db }
  | .loadProfile, found, w' => (found = none ∨ found = some w.profile) ∧ w' = w
  | .writeMode mode, .ok (), w' => w' = w.setMode mode
  | .writeMode _, .error _, w' => w' = w

end ModeHost

/-- The daemon runs one cycle while an operator leaves `auto` mode. -/
def leavingAuto (mode : Mode) (now : Int) (due : Bool) (result : ProbeResult)
    (reconcileNow processNow : Int) : Pool Party ModeOp ModeAns AdminExn Nat ModeHost where
  body
    | .daemon => runCycle due result reconcileNow processNow
    | .admin => commandSetMode mode none now
  answers _ w _ op a w' := w.answers op a w'

/-! ## What is out of date -/

/-- The profile that a process has loaded. -/
def loadedProfile : Trace ModeOp ModeAns → Option ManagedProfile
  | ⟨.loadProfile, found⟩ :: _ => found
  | _ :: t => loadedProfile t
  | [] => none

/-- What a process has done through the engine. -/
def engineTrace : Trace ModeOp ModeAns → Trace Op Ans
  | ⟨.engine op, a⟩ :: t => ⟨op, a⟩ :: engineTrace t
  | _ :: t => engineTrace t
  | [] => []

/-- The row that was read was not stopped by the watchdog, but the row is now. -/
def StaleRow (w : ModeHost) (t : Trace ModeOp ModeAns) : Prop :=
  (∃ row ∈ readRow (engineTrace t), row.stoppedByWatchdog = false) ∧ w.Owned

/-- The mode that was loaded is not the mode in the file. -/
def StaleMode (w : ModeHost) (t : Trace ModeOp ModeAns) : Prop :=
  ∃ profile ∈ loadedProfile t, profile.config.mode ≠ w.profile.config.mode

/-- A mode is written because of a row that has changed, or a stop is recorded because of a mode that
has. -/
def OutOfDate (w : ModeHost) (t : Trace ModeOp ModeAns) : (op : ModeOp) → ModeAns op → Prop
  | .writeMode _, .ok () => StaleRow w t
  | .engine (.persist state _), .ok () => state.stoppedByWatchdog = true ∧ StaleMode w t
  | _, _ => False

/-- The interleavings in which nothing that is written is out of date. -/
def freshlyLeavingAuto (mode : Mode) (now : Int) (due : Bool) (result : ProbeResult)
    (reconcileNow processNow : Int) : Pool Party ModeOp ModeAns AdminExn Nat ModeHost where
  body := (leavingAuto mode now due result reconcileNow processNow).body
  answers i w h op a w' := w.answers op a w' ∧ ¬ OutOfDate w (trace i h) op a

/-! ## Schedules -/

/-- Writes succeed, commands are obeyed, and everybody tells the truth. -/
def modeEnvironment (w : ModeHost) : (op : ModeOp) → Option (ModeAns op × ModeHost)
  | .engine (.getState profileId serviceName kharejIp) =>
    some (w.db.getState profileId serviceName kharejIp, w)
  | .engine (.persist state events) =>
    match w.db.persist state events with
    | .ok db => some (.ok (), { w with db })
    | .error _ => none
  | .engine (.systemctl .isActive _) => some (truthful w.active, w)
  | .engine (.systemctl .stop _) => some (some 0, { w with active := false })
  | .engine (.systemctl .start _) => some (some 0, { w with active := true })
  | .engine (.jitter _) => some (0, w)
  | .loadProfile => some (some w.profile, w)
  | .writeMode mode => some (.ok (), w.setMode mode)

/-- This environment, for both processes. -/
def calmModeEnvironment (_ : Party) (w : ModeHost) (_ : List (Party × (op : ModeOp) × ModeAns op))
    (op : ModeOp) : Option (ModeAns op × ModeHost) := modeEnvironment w op

instance (w : ModeHost) : Decidable w.Owned :=
  inferInstanceAs (Decidable (∃ row ∈ w.db.rows w.profile.profileId, row.stoppedByWatchdog = true))

instance (w : ModeHost) (t : Trace ModeOp ModeAns) : Decidable (StaleRow w t) :=
  inferInstanceAs (Decidable (_ ∧ _))

instance (w : ModeHost) (t : Trace ModeOp ModeAns) : Decidable (StaleMode w t) :=
  inferInstanceAs (Decidable (∃ profile ∈ loadedProfile t, _ ≠ _))

instance (w : ModeHost) (t : Trace ModeOp ModeAns) :
    (op : ModeOp) → (a : ModeAns op) → Decidable (OutOfDate w t op a)
  | .writeMode _, .ok () => inferInstanceAs (Decidable (StaleRow w t))
  | .engine (.persist _ _), .ok () => inferInstanceAs (Decidable (_ ∧ _))
  | .writeMode _, .error _ | .engine (.persist _ _), .error _ | .engine (.getState ..), _
  | .engine (.systemctl ..), _ | .engine (.jitter _), _ | .loadProfile, _ => isFalse id

/-- The same, as long as nothing that is written is out of date. -/
def freshModeEnvironment (i : Party) (w : ModeHost) (h : List (Party × (op : ModeOp) × ModeAns op))
    (op : ModeOp) : Option (ModeAns op × ModeHost) :=
  (modeEnvironment w op).filter fun x => ¬ OutOfDate w (trace i h) op x.1

end Watchdog
