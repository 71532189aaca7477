import Mathlib.Data.List.Sort
import Mathlib.Data.String.Basic
import GostManager.Lists.Dictionary
import GostManager.Profiles.Environment
import GostManager.Watchdog.Models

/-!
# Watchdog: configuration

`gost_watchdog/config.py`: the texts of the global configuration and of the overrides of profiles, how they
are parsed, and how they are rendered. Mappings are dictionaries of texts. `int` and `str` take numbers of at
most 4300 digits and raise a plain `ValueError` for others.
-/

namespace Watchdog

open Lists Profiles Texts

/-! ## Exceptions -/

/-- What can go wrong when files are loaded. -/
inductive LoadError where
  | osError
  | unicodeError
  | configError (message : String)
  | profileError (message : String)
  /-- A `ValueError` that is none of the others. -/
  | valueError
  deriving DecidableEq, Repr

/-- A computation that may raise one of them. -/
abbrev Loading (α : Type) : Type := Except LoadError α

/-! ## Keys -/

/-- The settings that have a number. -/
inductive Setting where
  | checkIntervalSeconds | pingTimeoutSeconds | failureThreshold | successThreshold | recoveryHoldSeconds
  | recoveryJitterMaxSeconds
  deriving DecidableEq, Repr

namespace Setting

/-- The settings in the order of their keys. -/
def all : List Setting :=
  [.checkIntervalSeconds, .pingTimeoutSeconds, .failureThreshold, .successThreshold, .recoveryHoldSeconds,
    .recoveryJitterMaxSeconds]

/-- The key of a setting. -/
def key : Setting → Text
  | .checkIntervalSeconds => "CHECK_INTERVAL_SECONDS".toList
  | .pingTimeoutSeconds => "PING_TIMEOUT_SECONDS".toList
  | .failureThreshold => "FAILURE_THRESHOLD".toList
  | .successThreshold => "SUCCESS_THRESHOLD".toList
  | .recoveryHoldSeconds => "RECOVERY_HOLD_SECONDS".toList
  | .recoveryJitterMaxSeconds => "RECOVERY_JITTER_MAX_SECONDS".toList

/-- `BOUNDS`. -/
def bounds : Setting → Nat × Nat
  | .checkIntervalSeconds => (1, 300)
  | .pingTimeoutSeconds => (1, 60)
  | .failureThreshold => (1, 1000)
  | .successThreshold => (1, 1000)
  | .recoveryHoldSeconds => (0, 3600)
  | .recoveryJitterMaxSeconds => (0, 300)

/-- A number within the bounds of a setting. -/
abbrev Value (setting : Setting) : Type := {n : Nat // setting.bounds.1 ≤ n ∧ n ≤ setting.bounds.2}

/-- The place of a setting among all of them. -/
def index : Setting → Nat
  | .checkIntervalSeconds => 0
  | .pingTimeoutSeconds => 1
  | .failureThreshold => 2
  | .successThreshold => 3
  | .recoveryHoldSeconds => 4
  | .recoveryJitterMaxSeconds => 5

end Setting

def checkModeKey : Text := "CHECK_MODE".toList

def modeKey : Text := "MODE".toList

/-- `GLOBAL_KEYS`. -/
def globalKeys : List Text := checkModeKey :: Setting.all.map Setting.key

/-- `PROFILE_KEYS`. -/
def profileKeys : List Text := modeKey :: Setting.all.map Setting.key

/-- The text of a mode. -/
def Mode.text : Mode → Text
  | .disabled => "disabled".toList
  | .monitor => "monitor".toList
  | .auto => "auto".toList

/-- The mode of a text, if it is in `MODES`. -/
def modeOf (text : Text) : Option Mode :=
  [Mode.disabled, Mode.monitor, Mode.auto].find? fun mode => mode.text = text

/-- `GlobalConfig`. -/
structure GlobalConfig where
  checkMode : Text := "ping".toList
  checkIntervalSeconds : Int := 2
  pingTimeoutSeconds : Int := 1
  failureThreshold : Int := 10
  successThreshold : Int := 10
  recoveryHoldSeconds : Int := 10
  recoveryJitterMaxSeconds : Int := 10
  deriving DecidableEq, Repr

/-- The number of a setting. -/
def GlobalConfig.setting (config : GlobalConfig) : Setting → Int
  | .checkIntervalSeconds => config.checkIntervalSeconds
  | .pingTimeoutSeconds => config.pingTimeoutSeconds
  | .failureThreshold => config.failureThreshold
  | .successThreshold => config.successThreshold
  | .recoveryHoldSeconds => config.recoveryHoldSeconds
  | .recoveryJitterMaxSeconds => config.recoveryJitterMaxSeconds

/-! ## Texts -/

/-- A dictionary of texts. -/
abbrev Values : Type := List (Text × Text)

/-- `values.get(key)`. -/
def valueOf (values : Values) (key : Text) : Option Text := (find Prod.fst key values).map Prod.snd

/-- One line of `_parse_text`, after the values that were read before. -/
def parseLine (allowed : List Text) (values : Values) (line : Text × Nat) : Loading Values :=
  if line.1 = [] ∨ line.1.count '=' ≠ 1 then .error (.configError s!"malformed config line {line.2}")
  else
    let key := line.1.takeWhile (· ≠ '=')
    let value := (line.1.dropWhile (· ≠ '=')).tail
    if key ∉ allowed then
      .error (.configError s!"unknown config key on line {line.2}: {String.ofList key}")
    else if key ∈ values.map (·.1) then
      .error (.configError s!"duplicate config key on line {line.2}: {String.ofList key}")
    else if value = [] ∨ value.any (fun c => 128 ≤ c.toNat) ∨ value.any isspace then
      .error (.configError s!"unsafe config value on line {line.2}: {String.ofList key}")
    else .ok (values ++ [(key, value)])

/-- `_parse_text`. -/
def parseText (text : Text) (allowed : List Text) (requireAll : Bool) : Loading Values :=
  if text = [] ∨ '\x00' ∈ text ∨ '\r' ∈ text then
    .error (.configError "config is empty or contains an invalid control character")
  else do
    let values ← ((splitlines text).zipIdx 1).foldlM (parseLine allowed) []
    match if requireAll then allowed.find? (· ∉ values.map (·.1)) else none with
    | some key => .error (.configError s!"missing config key: {String.ofList key}")
    | none => return values

/-- The lines of the keys that have values. -/
def renderValues (keys : List Text) (values : Values) : Text :=
  (keys.filterMap fun key => (valueOf values key).map fun value => key ++ '=' :: value ++ ['\n']).flatten

/-! ## Numbers -/

/-- `str(n)`. -/
def str (n : Int) : Loading Text :=
  if Digits.ascii.maxStrDigits < (Nat.toDigits 10 n.natAbs).length then .error .valueError
  else .ok (toString n).toList

/-- What `_integer` makes of the text that it reads. -/
def readInteger (setting : Setting) (raw : Text) : Loading setting.Value :=
  let name := String.ofList setting.key
  if !isNumeral raw then .error (.configError s!"{name} must be an integer")
  else match toNat? Digits.ascii raw with
    | none => .error .valueError
    | some parsed =>
      if h : setting.bounds.1 ≤ parsed ∧ parsed ≤ setting.bounds.2 then .ok ⟨parsed, h⟩
      else .error (.configError s!"{name} must be between {setting.bounds.1} and {setting.bounds.2}")

/-- `_integer`. -/
def integer (values : Values) (setting : Setting) (default : Int) : Loading setting.Value := do
  let default ← str default
  readInteger setting ((valueOf values setting.key).getD default)

/-- The numbers of a configuration. -/
structure Settings where
  checkIntervalSeconds : Setting.Value .checkIntervalSeconds
  pingTimeoutSeconds : Setting.Value .pingTimeoutSeconds
  failureThreshold : Setting.Value .failureThreshold
  successThreshold : Setting.Value .successThreshold
  recoveryHoldSeconds : Setting.Value .recoveryHoldSeconds
  recoveryJitterMaxSeconds : Setting.Value .recoveryJitterMaxSeconds
  /-- `_validate_timing`. -/
  timely : pingTimeoutSeconds.1 ≤ checkIntervalSeconds.1

/-- What `global_config_from_mapping` and `profile_config_from_mapping` do about numbers. -/
def settingsFromMapping (values : Values) (defaults : Setting → Int) : Loading Settings := do
  let interval ← integer values .checkIntervalSeconds (defaults .checkIntervalSeconds)
  let timeout ← integer values .pingTimeoutSeconds (defaults .pingTimeoutSeconds)
  if timely : timeout.1 ≤ interval.1 then
    let failureThreshold ← integer values .failureThreshold (defaults .failureThreshold)
    let successThreshold ← integer values .successThreshold (defaults .successThreshold)
    let recoveryHold ← integer values .recoveryHoldSeconds (defaults .recoveryHoldSeconds)
    let recoveryJitter ← integer values .recoveryJitterMaxSeconds (defaults .recoveryJitterMaxSeconds)
    return ⟨interval, timeout, failureThreshold, successThreshold, recoveryHold, recoveryJitter, timely⟩
  else .error (.configError "PING_TIMEOUT_SECONDS must not exceed CHECK_INTERVAL_SECONDS")

/-! ## Configurations -/

/-- `sorted(set(values) - set(keys))[0]`, if there is one. -/
def unknownKey (values : Values) (keys : List Text) : Option Text :=
  (((values.map (·.1)).filter (· ∉ keys)).insertionSort (· ≤ ·)).head?

/-- A global configuration with these numbers. -/
def Settings.globalConfig (settings : Settings) : GlobalConfig where
  checkIntervalSeconds := settings.checkIntervalSeconds.1
  pingTimeoutSeconds := settings.pingTimeoutSeconds.1
  failureThreshold := settings.failureThreshold.1
  successThreshold := settings.successThreshold.1
  recoveryHoldSeconds := settings.recoveryHoldSeconds.1
  recoveryJitterMaxSeconds := settings.recoveryJitterMaxSeconds.1

/-- The configuration of a profile with these numbers. -/
def Settings.profileConfig (settings : Settings) (mode : Mode) : ProfileConfig where
  mode
  checkIntervalSeconds := settings.checkIntervalSeconds.1
  pingTimeoutSeconds := settings.pingTimeoutSeconds.1
  failureThreshold := settings.failureThreshold.1
  successThreshold := settings.successThreshold.1
  recoveryHoldSeconds := settings.recoveryHoldSeconds.1
  recoveryJitterMaxSeconds := settings.recoveryJitterMaxSeconds.1
  checkIntervalSeconds_pos := settings.checkIntervalSeconds.2.1
  failureThreshold_pos := settings.failureThreshold.2.1
  successThreshold_pos := settings.successThreshold.2.1

/-- `global_config_from_mapping`. -/
def globalConfigFromMapping (values : Values) : Loading GlobalConfig :=
  match unknownKey values globalKeys with
  | some key => .error (.configError s!"unknown global config key: {String.ofList key}")
  | none =>
    if (valueOf values checkModeKey).getD "ping".toList ≠ "ping".toList then
      .error (.configError "CHECK_MODE must be ping in Watchdog v1")
    else do
      let defaults : GlobalConfig := {}
      let settings ← settingsFromMapping values defaults.setting
      return settings.globalConfig

/-- `parse_global_config`. -/
def parseGlobalConfig (text : Text) : Loading GlobalConfig := do
  globalConfigFromMapping (← parseText text globalKeys true)

/-- `profile_config_from_mapping`. -/
def profileConfigFromMapping (values : Values) (globalConfig : GlobalConfig) : Loading ProfileConfig :=
  match unknownKey values profileKeys with
  | some key => .error (.configError s!"unknown profile config key: {String.ofList key}")
  | none =>
    match modeOf ((valueOf values modeKey).getD "disabled".toList) with
    | none => .error (.configError "MODE must be disabled, monitor, or auto")
    | some mode => do
      let settings ← settingsFromMapping values globalConfig.setting
      return settings.profileConfig mode

/-- `parse_profile_values`. -/
def parseProfileValues (text : Text) : Loading Values := parseText text profileKeys false

/-- `parse_profile_config`. -/
def parseProfileConfig (text : Text) (globalConfig : GlobalConfig) : Loading ProfileConfig := do
  profileConfigFromMapping (← parseProfileValues text) globalConfig

/-- `render_global_config`. -/
def renderGlobalConfig (config : GlobalConfig) : Loading Text := do
  let values ← Setting.all.mapM fun setting => do return (setting.key, ← str (config.setting setting))
  return renderValues globalKeys ((checkModeKey, config.checkMode) :: values)

/-- `render_profile_values`. -/
def renderProfileValues (values : Values) (globalConfig : GlobalConfig) : Loading Text := do
  let _ ← profileConfigFromMapping values globalConfig
  return renderValues profileKeys values

/-! ## Numbers that are too long -/

/-- What `_integer` reads for a setting. -/
def rawOf (values : Values) (defaults : Setting → Int) (setting : Setting) : Text :=
  (valueOf values setting.key).getD (toString (defaults setting)).toList

/-- `_integer` takes a text for a setting. -/
structure Accepts (setting : Setting) (raw : Text) : Prop where
  numeral : isNumeral raw = true
  short : raw.length ≤ 4300
  minimum : setting.bounds.1 ≤ number raw
  maximum : number raw ≤ setting.bounds.2

/-- A numeral that `int` does not take. -/
structure Overlong (raw : Text) : Prop where
  numeral : isNumeral raw = true
  long : 4300 < raw.length

/-- The first setting that is refused has a number that is too long. -/
structure Overflows (values : Values) (defaults : Setting → Int) (setting : Setting) : Prop where
  overlong : Overlong (rawOf values defaults setting)
  accepted : ∀ earlier : Setting, earlier.index < setting.index →
    Accepts earlier (rawOf values defaults earlier)
  timely : Setting.index .pingTimeoutSeconds < setting.index →
    number (rawOf values defaults .pingTimeoutSeconds) ≤
      number (rawOf values defaults .checkIntervalSeconds)

/-- A global configuration whose numbers are within the bounds. -/
structure GlobalConfig.Valid (config : GlobalConfig) : Prop where
  checkMode : config.checkMode = "ping".toList
  minimum : ∀ setting : Setting, (setting.bounds.1 : Int) ≤ config.setting setting
  maximum : ∀ setting : Setting, config.setting setting ≤ setting.bounds.2
  timely : config.pingTimeoutSeconds ≤ config.checkIntervalSeconds

end Watchdog
