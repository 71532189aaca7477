import Mathlib.Data.List.Sort
import Mathlib.Data.String.Basic
import GostManager.Lists.Dictionary
import GostManager.Monitoring.Seeds
import GostManager.Profiles.Environment
import GostManager.Texts.Paths

/-!
# Monitoring: configuration

`monitoring/config.py`: the text of the configuration, how it is parsed, and where the installed service may keep
its database and find its profiles. Mappings are dictionaries of texts. What the file system says of a path does
not change while it is looked at, and no question about it raises.
-/

namespace Monitoring.Configuration

open Lists Profiles Texts

/-- A `ConfigError`, or the `ValueError` of `int` for a numeral that is too long. -/
inductive ConfigException where
  | configError (message : String)
  | valueError
  deriving DecidableEq, Repr

abbrev Loading (α : Type) : Type := Except ConfigException α

/-! ## Keys -/

/-- The settings that have a number. -/
inductive Interval where
  | sample | tcp | slow | maintenance
  deriving DecidableEq, Repr

namespace Interval

/-- The settings in the order of their keys. -/
def all : List Interval := [.sample, .tcp, .slow, .maintenance]

/-- The key of a setting. -/
def key : Interval → Text
  | .sample => "GOST_MONITOR_SAMPLE_INTERVAL".toList
  | .tcp => "GOST_MONITOR_TCP_INTERVAL".toList
  | .slow => "GOST_MONITOR_SLOW_INTERVAL".toList
  | .maintenance => "GOST_MONITOR_MAINTENANCE_INTERVAL".toList

/-- `INTERVAL_BOUNDS`. -/
def bounds : Interval → Nat × Nat
  | .sample => (5, 60)
  | .tcp => (10, 300)
  | .slow => (30, 900)
  | .maintenance => (300, 86400)

end Interval

def keyDb : Text := "GOST_MONITOR_DB".toList

def keyEnvDir : Text := "GOST_ENV_DIR".toList

/-- `ALLOWED_KEYS`. -/
def allowedKeys : List Text := [keyDb, keyEnvDir] ++ Interval.all.map Interval.key

/-! ## Configurations -/

/-- `MonitoringConfig`, with its defaults. -/
structure MonitoringConfig extends Monitoring.MonitoringConfig where
  dbPath : Text := "/var/lib/gost-manager/metrics.sqlite3".toList
  envDir : Text := "/etc/gost".toList

namespace MonitoringConfig

variable (config : MonitoringConfig)

/-- The number of a setting. -/
def interval : Interval → Nat
  | .sample => config.sampleInterval
  | .tcp => config.tcpInterval
  | .slow => config.slowInterval
  | .maintenance => config.maintenanceInterval

/-- `as_mapping`. -/
def asMapping : List (Text × Text) :=
  [(keyDb, config.dbPath), (keyEnvDir, config.envDir)] ++
    Interval.all.map fun interval => (interval.key, Nat.toDigits 10 (config.interval interval))

/-- The lines of a mapping, as `default_config_text` writes them. -/
def text : Text := (config.asMapping.map fun entry => entry.1 ++ '=' :: entry.2 ++ ['\n']).flatten

end MonitoringConfig

/-- `default_config_text`. -/
def defaultConfigText : Text := MonitoringConfig.text {}

/-! ## Values -/

/-- A character that `UNSAFE_VALUE_RE` matches. -/
def isUnsafe (c : Char) : Bool :=
  isspace c || ['\x00', '\r', '\n', '\'', '"', '\x60', '$', ';', '&', '|', '<', '>', '\\', '(', ')', '\x7b', '\x7d',
    '[', ']'].contains c

/-- `SAFE_PATH_RE.fullmatch`. -/
def safePathRe : Text → Bool
  | '/' :: rest => rest ≠ [] && rest.all fun c => c.isAlphanum || ['.', '_', '/', '+', ':', '-'].contains c
  | _ => false

/-- `_validate_path`. -/
def validatePath (value label : Text) : Loading Text :=
  if value = [] ∨ value.any isUnsafe = true ∨ safePathRe value = false then
    .error (.configError s!"{String.ofList label} must be a safe absolute path")
  else if value.head? ≠ some '/' ∨ normpath value ≠ value then
    .error (.configError s!"{String.ofList label} must be normalized and absolute")
  else .ok value

/-- `_validate_interval`. -/
def validateInterval (interval : Interval) (value : Text) : Loading Nat :=
  let key := String.ofList interval.key
  if !isNumeral value then .error (.configError s!"{key} must be an integer")
  else match toNat? Digits.ascii value with
    | none => .error .valueError
    | some parsed =>
      if parsed < interval.bounds.1 ∨ interval.bounds.2 < parsed then
        .error (.configError
          s!"{key} must be between {interval.bounds.1} and {interval.bounds.2} seconds")
      else .ok parsed

/-! ## Mappings -/

/-- `values.get(key)`. -/
def valueOf (values : List (Text × Text)) (key : Text) : Option Text := (find Prod.fst key values).map Prod.snd

/-- `merged[key]`, for an allowed key. -/
def merged (values : List (Text × Text)) (key : Text) : Text :=
  (valueOf values key).getD ((valueOf (MonitoringConfig.asMapping {}) key).getD [])

/-- `config_from_mapping`. -/
def configFromMapping (values : List (Text × Text)) (requireAll : Bool := false) : Loading MonitoringConfig :=
  match (((values.map (·.1)).filter (· ∉ allowedKeys)).insertionSort (· ≤ ·)).head? with
  | some key => .error (.configError s!"unknown monitoring config key: {String.ofList key}")
  | none =>
    match values.find? (·.2 = []) with
    | some entry => .error (.configError s!"{String.ofList entry.1} may not be empty")
    | none =>
      match if requireAll then allowedKeys.find? (· ∉ values.map (·.1)) else none with
      | some key => .error (.configError s!"missing monitoring config key: {String.ofList key}")
      | none => do
        let dbPath ← validatePath (merged values keyDb) keyDb
        let envDir ← validatePath (merged values keyEnvDir) keyEnvDir
        let sampleInterval ← validateInterval .sample (merged values (Interval.key .sample))
        let tcpInterval ← validateInterval .tcp (merged values (Interval.key .tcp))
        let slowInterval ← validateInterval .slow (merged values (Interval.key .slow))
        let maintenanceInterval ← validateInterval .maintenance (merged values (Interval.key .maintenance))
        if tcpInterval < sampleInterval then
          .error (.configError "GOST_MONITOR_TCP_INTERVAL may not be less than the sample interval")
        else if slowInterval < sampleInterval then
          .error (.configError "GOST_MONITOR_SLOW_INTERVAL may not be less than the sample interval")
        else if maintenanceInterval < slowInterval then
          .error (.configError "GOST_MONITOR_MAINTENANCE_INTERVAL may not be less than the slow interval")
        else .ok { sampleInterval, tcpInterval, slowInterval, maintenanceInterval, dbPath, envDir }

/-- `config_from_environment`. -/
def configFromEnvironment (source : Text → Option Text) : Loading MonitoringConfig :=
  configFromMapping (allowedKeys.filterMap fun key => (source key).map fun value => (key, value))

/-! ## Texts -/

/-- One line of `parse_config_text`, after the values that were read before. -/
def parseLine (values : List (Text × Text)) (line : Text × Nat) : Loading (List (Text × Text)) :=
  if line.1 = [] ∨ line.1.count '=' ≠ 1 then
    .error (.configError s!"malformed monitoring config line {line.2}")
  else
    let key := line.1.takeWhile (· ≠ '=')
    let value := (line.1.dropWhile (· ≠ '=')).tail
    if key ∉ allowedKeys then
      .error (.configError s!"unknown monitoring config key on line {line.2}: {String.ofList key}")
    else if key ∈ values.map (·.1) then
      .error (.configError s!"duplicate monitoring config key on line {line.2}: {String.ofList key}")
    else if value = [] then
      .error (.configError s!"empty monitoring config value on line {line.2}: {String.ofList key}")
    else if value.any isUnsafe = true then
      .error (.configError s!"unsafe monitoring config value on line {line.2}: {String.ofList key}")
    else .ok (values ++ [(key, value)])

/-- `parse_config_text`. -/
def parseConfigText (text : Text) : Loading MonitoringConfig :=
  if '\x00' ∈ text then .error (.configError "monitoring config contains a NUL byte")
  else if splitlines text = [] then .error (.configError "monitoring config is empty")
  else do
    let values ← ((splitlines text).zipIdx 1).foldlM parseLine []
    configFromMapping values true

/-! ## What is accepted -/

/-- `_validate_path` takes a text. -/
structure IsSafePath (value : Text) : Prop where
  harmless : ∀ c ∈ value, isUnsafe c = false
  safe : safePathRe value = true
  normal : normpath value = value

/-- `int` takes a numeral, and makes this number of it. -/
structure Denotes (raw : Text) (n : Nat) : Prop where
  numeral : isNumeral raw = true
  short : raw.length ≤ 4300
  number_eq : number raw = n

/-- A configuration that a loader may return. -/
structure MonitoringConfig.Valid (config : MonitoringConfig) : Prop where
  dbPath : IsSafePath config.dbPath
  envDir : IsSafePath config.envDir
  intervals : config.toMonitoringConfig.validate = .ok ()

/-- The line of an entry. -/
def entryLine (entry : Text × Text) : Text := entry.1 ++ '=' :: entry.2

/-- Each key has one line, and there are no others. -/
structure MonitoringConfig.IsDescribedBy (config : MonitoringConfig) (lines : List Text) : Prop where
  length : lines.length = allowedKeys.length
  dbPath : entryLine (keyDb, config.dbPath) ∈ lines
  envDir : entryLine (keyEnvDir, config.envDir) ∈ lines
  interval : ∀ interval : Interval, ∃ raw,
    entryLine (interval.key, raw) ∈ lines ∧ Denotes raw (config.interval interval)

/-! ## The installed service -/

/-- What the file system says of a path. -/
structure FileSystem where
  isSymlink : PurePath → Bool
  isThere : PurePath → Bool
  isFile : PurePath → Bool
  isDir : PurePath → Bool

/-- `INSTALLED_STATE_DIR`. -/
def installedStateDir : Text := "/var/lib/gost-manager".toList

/-- `INSTALLED_ENV_DIR`. -/
def installedEnvDir : Text := "/etc/gost".toList

/-- `_path_under`. -/
def pathUnder (path parent : Text) (allowParent : Bool) : Bool :=
  let candidate := PurePath.ofText path
  let base := PurePath.ofText parent
  if candidate = base then allowParent else base ∈ candidate.parents

variable (fs : FileSystem)

/-- `rooted_path`. No root, and an empty one, leave the path where it is. -/
def rootedPath (path : Text) (root : Option Text) : Loading PurePath :=
  let candidate := PurePath.ofText path
  if candidate.isAbsolute = false then .error (.configError "installed path must be absolute")
  else match root with
    | none => .ok candidate
    | some root =>
      let boundary := PurePath.ofText root
      if root = [] then .ok candidate
      else if boundary.isAbsolute = false ∨ fs.isSymlink boundary = true then
        .error (.configError "installed path root must be a real absolute directory")
      else .ok (boundary.below candidate)

/-- `boundary`, if the root is not empty. -/
def boundaryOf (root : Option Text) : Option PurePath :=
  (root.filter (· ≠ [])).map PurePath.ofText

/-- `_reject_symlink_components`, for a path below the boundary. -/
def rejectSymlinkComponents (path : PurePath) (boundary : Option PurePath) : Loading Unit :=
  let depth := (boundary.map (·.names.length)).getD 0
  match ((List.range (path.names.length + 1)).drop depth).map path.take |>.find? fs.isSymlink with
  | some current => .error (.configError s!"installed path traverses a symlink: {String.ofList current.text}")
  | none => .ok ()

/-- `validate_installed_config`. -/
def validateInstalledConfig (config : MonitoringConfig) (root : Option Text) : Loading MonitoringConfig :=
  if pathUnder config.dbPath installedStateDir false = false then
    .error (.configError (s!"{String.ofList keyDb} must be a file below {String.ofList installedStateDir}; " ++
      "move the database into the managed state directory"))
  else if pathUnder config.envDir installedEnvDir true = false then
    .error (.configError
      s!"{String.ofList keyEnvDir} must be {String.ofList installedEnvDir} or a directory below it")
  else do
    let dbPath ← rootedPath fs config.dbPath root
    let envPath ← rootedPath fs config.envDir root
    rejectSymlinkComponents fs dbPath (boundaryOf root)
    rejectSymlinkComponents fs envPath (boundaryOf root)
    if fs.isThere dbPath = true ∧ fs.isFile dbPath = false then
      .error (.configError s!"{String.ofList keyDb} must identify a regular database file")
    else if fs.isThere envPath = true ∧ fs.isDir envPath = false then
      .error (.configError s!"{String.ofList keyEnvDir} must identify a directory")
    else .ok config

/-- `CONFIG_POLICIES`. -/
inductive ConfigPolicy where
  | generic | installed
  deriving DecidableEq, Repr

/-- `apply_config_policy`. -/
def applyConfigPolicy (config : MonitoringConfig) (policy : ConfigPolicy) (root : Option Text) :
    Loading MonitoringConfig :=
  match policy with
  | .generic => .ok config
  | .installed => validateInstalledConfig fs config root

/-- `load_config`. What is read is a text, or the name of the class of an exception. -/
def loadConfig (path : PurePath) (raw : Except String Text) (policy : ConfigPolicy) (root : Option Text) :
    Loading MonitoringConfig :=
  if fs.isSymlink path = true then .error (.configError "monitoring config path may not be a symlink")
  else match raw with
    | .error name => .error (.configError s!"cannot read monitoring config: {name}")
    | .ok text => do applyConfigPolicy fs (← parseConfigText text) policy root

end Monitoring.Configuration
