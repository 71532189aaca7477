import GostManager.Watchdog.Configuration
import GostManager.Watchdog.ModeChange

/-!
# Watchdog: edits of the file of a profile

What `command_set_mode` and `command_configure_profile` of `gost_watchdog/admin_cli.py` do to the file with
the overrides of a profile: the values that are there are read, some are set, and the file is replaced.
-/

namespace Watchdog

open Lists Profiles Texts

/-- The file with the overrides of a profile. -/
inductive OverridesFile where
  | absent
  | readable (text : Text)
  | unreadable (error : LoadError)
  deriving DecidableEq

/-- What decides from outside how `atomic_write_config` ends. -/
inductive WriteFate where
  /-- It fails before the file is replaced. -/
  | fails (error : LoadError)
  /-- The file is replaced, but the directory cannot be synchronised. -/
  | fsyncFails (error : LoadError)
  | succeeds
  deriving DecidableEq

/-- `main`: an error of the configuration is one of the input. -/
def LoadError.admin : LoadError → AdminExn
  | .osError => .runtime "Watchdog operation failed safely"
  | .configError message => .input message
  | .profileError message => .input message
  | .unicodeError => .uncaught
  | .valueError => .uncaught

/-- `atomic_write_config`: how it ends, and the file after it. -/
def atomicWriteConfig (fate : WriteFate) (text : Text) (file : OverridesFile) :
    Except AdminExn Unit × OverridesFile :=
  match fate with
  | .fails error => (.error error.admin, file)
  | .fsyncFails error =>
    if text.any (fun c => 128 ≤ c.toNat) then
      (.error (.input "atomic config write failed: UnicodeEncodeError"), file)
    else (.error error.admin, .readable text)
  | .succeeds =>
    if text.any (fun c => 128 ≤ c.toNat) then
      (.error (.input "atomic config write failed: UnicodeEncodeError"), file)
    else (.ok (), .readable text)

/-- `_existing_profile_values`. -/
def existingProfileValues (file : OverridesFile) : Except AdminExn Values :=
  let read : Loading Values :=
    match file with
    | .absent => .ok []
    | .readable text => parseProfileValues text
    | .unreadable error => .error error
  match read with
  | .ok values => .ok values
  | .error .osError => .error (.input "existing profile config is invalid; reset it first")
  | .error .unicodeError => .error (.input "existing profile config is invalid; reset it first")
  | .error (.configError _) => .error (.input "existing profile config is invalid; reset it first")
  | .error error => .error error.admin

/-- `_write_profile_values`. -/
def writeProfileValues (globalConfig : Loading GlobalConfig) (fate : WriteFate) (values : Values)
    (file : OverridesFile) : Except AdminExn Unit × OverridesFile :=
  let rendered : Loading Text := do
    let globalConfig ← globalConfig
    let _ ← profileConfigFromMapping values globalConfig
    renderProfileValues values globalConfig
  match rendered with
  | .error error => (.error error.admin, file)
  | .ok text => atomicWriteConfig fate text file

/-- `values[key] = value`, for several keys. -/
def setValues (values : Values) (entries : Values) : Values :=
  entries.foldl (fun values entry => store Prod.fst entry values) values

/-- The values of a file are read, some are set, and the file is written. -/
def edit (globalConfig : Loading GlobalConfig) (fate : WriteFate) (entries : Values) (file : OverridesFile) :
    Except AdminExn Unit × OverridesFile :=
  match existingProfileValues file with
  | .error error => (.error error, file)
  | .ok values => writeProfileValues globalConfig fate (setValues values entries) file

/-- The arguments of `configure-profile`. -/
structure ConfigureArgs where
  mode : Option Mode := none
  checkInterval : Option Int := none
  pingTimeout : Option Int := none
  failureThreshold : Option Int := none
  successThreshold : Option Int := none
  recoveryHold : Option Int := none
  recoveryJitter : Option Int := none

/-- The number that is given for a setting. -/
def ConfigureArgs.setting (args : ConfigureArgs) : Setting → Option Int
  | .checkIntervalSeconds => args.checkInterval
  | .pingTimeoutSeconds => args.pingTimeout
  | .failureThreshold => args.failureThreshold
  | .successThreshold => args.successThreshold
  | .recoveryHoldSeconds => args.recoveryHold
  | .recoveryJitterMaxSeconds => args.recoveryJitter

/-- The entries for the arguments that are there, in the order of `option_map`. -/
def ConfigureArgs.entries (args : ConfigureArgs) : Loading Values := do
  let numbers ← (Setting.all.filterMap fun setting => (args.setting setting).map (setting, ·)).mapM
    fun (setting, n) => do return (setting.key, ← str n)
  return (args.mode.map fun mode => (modeKey, mode.text)).toList ++ numbers

/-- `command_set_mode`, after what it does about the service. -/
def setModeEdit (globalConfig : Loading GlobalConfig) (fate : WriteFate) (mode : Mode) (file : OverridesFile) :
    Except AdminExn Unit × OverridesFile :=
  edit globalConfig fate [(modeKey, mode.text)] file

/-- `command_configure_profile`, before it prints what is in effect. -/
def configureProfile (profile : Except AdminExn ManagedProfile) (globalConfig : Loading GlobalConfig)
    (fate : WriteFate) (args : ConfigureArgs) (file : OverridesFile) : Except AdminExn Unit × OverridesFile :=
  match profile with
  | .error error => (.error error, file)
  | .ok profile =>
    if args.mode.any (· ≠ profile.config.mode) then
      (.error (.input "mode changes must use set-mode so stopped-service ownership is handled"), file)
    else match existingProfileValues file with
      | .error error => (.error error, file)
      | .ok values =>
        match args.entries with
        | .error error => (.error error.admin, file)
        | .ok [] => (.error (.input "at least one profile setting is required"), file)
        | .ok entries => writeProfileValues globalConfig fate (setValues values entries) file

/-- An edit is refused and leaves the file as it is, or it leaves a file whose values are as they should. -/
def EditEnds (file : OverridesFile) (Expected : Values → Prop) (result : Except AdminExn Unit × OverridesFile) :
    Prop :=
  ((∃ error, result.1 = .error error) ∧ result.2 = file) ∨
    ∃ text values, result.2 = .readable text ∧ parseProfileValues text = .ok values ∧ Expected values

/-- The values are the old ones, but for a mode and numbers that are set. -/
structure Sets (mode : Option Mode) (numbers : Setting → Option Int) (old values : Values) : Prop where
  mode : valueOf values modeKey = (mode.map Mode.text).or (valueOf old modeKey)
  setting : ∀ setting : Setting, valueOf values setting.key =
    ((numbers setting).map fun n => (toString n).toList).or (valueOf old setting.key)

end Watchdog
