import GostManager.Effects.Program
import GostManager.Watchdog.Storage

/-!
# Watchdog: operations and the systemd controller

The effects the engine has: reading and writing the store, running `systemctl`, and drawing a jitter.
On top of them `SystemdController` of `gost_watchdog/commands.py`, which turns return codes into
answers.
-/

namespace Watchdog

open Effects

/-- The `systemctl` subcommands the watchdog uses. -/
inductive Verb where
  | isActive | stop | start
  deriving DecidableEq, Repr

/-- The operations of the engine. -/
inductive Op where
  /-- `store.get_state`: read one row. -/
  | getState (profileId serviceName kharejIp : String)
  /-- `store.persist`: write one row and the events collected so far. -/
  | persist (state : ProfileState) (events : List WatchdogEvent)
  /-- Run `systemctl` on one unit. -/
  | systemctl (verb : Verb) (serviceName : String)
  /-- Draw from the jitter source. -/
  | jitter (maximum : Nat)

/-- The answers: `systemctl` gives its return code, or `none` if it could not be run. -/
@[reducible] def Ans : Op → Type
  | .getState .. => ProfileState
  | .persist .. => Except Exn Unit
  | .systemctl .. => Option Int
  | .jitter _ => Int

/-- A computation of the engine. -/
abbrev Action (α : Type) : Type := Prog Op Ans Exn α

/-- `store.get_state` for a managed profile. -/
def getState (profile : ManagedProfile) : Action ProfileState :=
  Prog.perform (Op.getState profile.profileId profile.serviceName profile.kharejIp)

/-- `_persist`: write the row; the events written with it are cleared. -/
def persist (state : ProfileState) (events : List WatchdogEvent) : Action (List WatchdogEvent) := do
  match ← (Prog.perform (Op.persist state events) : Action (Except Exn Unit)) with
  | .ok () => pure []
  | .error e => .raise e

/-- `except CommandError: False`, or another default. -/
def orOnCommandError (p : Action Bool) (default : Bool) : Action Bool :=
  p.handle fun
    | .commandError _ => pure default
    | e => .raise e

/-- `validate_profile_id`. -/
def validateProfileId (profileId : String) : Action Unit :=
  if profileRe profileId then pure ()
  else .raise (.profileError "profile ID must match iran-[1-9][0-9]*")

/-- `validate_service_name`. -/
def validateServiceName (serviceName : String) : Action Unit :=
  if unitRe serviceName then pure ()
  else .raise (.profileError "service name is not a managed Iran unit")

namespace SystemdController

/-- `_run`. -/
def run (verb : Verb) (serviceName : String) : Action Int := do
  match ← (Prog.perform (Op.systemctl verb serviceName) : Action (Option Int)) with
  | some returncode => pure returncode
  | none => .raise (.commandError "systemd_command_unavailable")

/-- `is_active`. -/
def isActive (serviceName : String) : Action Bool := do
  validateServiceName serviceName
  let returncode ← run .isActive serviceName
  if returncode = 0 ∨ returncode = 3 then pure (returncode == 0)
  else .raise (.commandError "service_state_unavailable")

/-- `stop`: the command succeeded and the unit is seen inactive afterwards. -/
def stop (serviceName : String) : Action Bool := do
  validateServiceName serviceName
  let returncode ← run .stop serviceName
  if returncode = 0 then return !(← isActive serviceName) else pure false

/-- `start`: the command succeeded and the unit is seen active afterwards. -/
def start (serviceName : String) : Action Bool := do
  validateServiceName serviceName
  let returncode ← run .start serviceName
  if returncode = 0 then isActive serviceName else pure false

end SystemdController

end Watchdog
