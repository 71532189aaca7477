import GostManager.Monitoring.Configuration

/-!
# Monitoring: which database and which lock

How `monitoring/admin_cli.py` and `main` of `monitoring/gost_monitoring.py` come to the paths that they work on.
-/

namespace Monitoring.Administration

open Monitoring.Configuration Texts

/-! ## Exceptions -/

/-- The exceptions of the administration, with their messages. -/
inductive AdminException where
  | configError (exception : ConfigException)
  | inputError (message : String)
  | databaseError (message : String)
  | unsafeError (message : String)
  deriving DecidableEq, Repr

abbrev Admin (α : Type) : Type := Except AdminException α

/-- What `main` returns for an exception. -/
def exitCode : AdminException → Nat
  | .configError (.configError _) => 2
  | .configError .valueError => 1
  | .inputError _ => 2
  | .databaseError _ => 3
  | .unsafeError _ => 4

/-! ## The administration -/

/-- `DEFAULT_CONFIG_PATH`. -/
def defaultConfigPath : Text := "/etc/gost-manager/monitoring.env".toList

/-- `DEFAULT_LOCK_PATH`. -/
def defaultLockPath : Text := "/run/gost-manager/collector.lock".toList

/-- The arguments of the administration that are about paths. -/
structure AdminArguments where
  policy : ConfigPolicy := .installed
  pathRoot : Option Text := none
  lockPath : Text := defaultLockPath
  db : Option Text := none
  config : Text := defaultConfigPath

variable (fs : FileSystem) (content : Except String Text)

/-- `_load_for_args`. `content` is what is read of the file. -/
def loadForArgs (args : AdminArguments) : Loading Configuration.MonitoringConfig :=
  loadConfig fs (PurePath.ofText args.config) content args.policy args.pathRoot

/-- What a path of the configuration is below the root. -/
def resolved (policy : ConfigPolicy) (root : Option Text) (path : Text) : Loading Text :=
  match policy with
  | .installed => do return (← rootedPath fs path root).text
  | .generic => .ok path

/-- `_resolve_database`. An empty `--db` is none. -/
def resolveDatabase (args : AdminArguments) : Loading Text :=
  match args.db.filter (· ≠ []) with
  | some raw => do
    let _ ← applyConfigPolicy fs { dbPath := raw } args.policy args.pathRoot
    resolved fs args.policy args.pathRoot raw
  | none => do
    let config ← loadForArgs fs content args
    resolved fs args.policy args.pathRoot config.dbPath

/-- `_resolve_lock`. -/
def resolveLock (args : AdminArguments) : Loading Text :=
  if args.pathRoot.filter (· ≠ []) ≠ none ∧ args.lockPath = defaultLockPath then do
    return (← rootedPath fs defaultLockPath args.pathRoot).text
  else .ok args.lockPath

/-- `_safe_database_path`. -/
def safeDatabasePath (raw : Text) (mustExist : Bool) : Admin PurePath :=
  let path := PurePath.ofText raw
  if path.isAbsolute = false ∨ path.text ≠ normpath path.text then
    .error (.inputError "database path must be normalized and absolute")
  else if (((List.range (path.names.length + 1)).drop 1).map path.take).any fs.isSymlink = true then
    .error (.unsafeError "database path may not traverse a symlink")
  else if mustExist = true ∧ (fs.isFile path = false ∨ fs.isSymlink path = true) then
    .error (.databaseError "monitoring database does not exist")
  else if fs.isThere path = true ∧ fs.isFile path = false then
    .error (.unsafeError "monitoring database path is not a regular file")
  else .ok path

/-- The path that a command of the administration works on. -/
def databasePath (args : AdminArguments) (mustExist : Bool) : Admin PurePath :=
  match resolveDatabase fs content args with
  | .error exception => .error (.configError exception)
  | .ok raw => safeDatabasePath fs raw mustExist

/-! ## The collector -/

/-- The arguments of the collector that are about its configuration. -/
structure CollectorArguments where
  policy : ConfigPolicy := .installed
  pathRoot : Option Text := none
  lockPath : Option Text := none
  config : Option Text := none
  db : Option Text := none
  envDir : Option Text := none
  interval : Interval → Option Text := fun _ => none

/-- The option that stands over a value of the configuration. -/
def CollectorArguments.override (args : CollectorArguments) (key : Text) : Option Text :=
  if key = keyDb then args.db
  else if key = keyEnvDir then args.envDir
  else (Interval.all.find? (·.key = key)).bind args.interval

/-- `environment_config`. `environment` is that of the process. -/
def environmentConfig (environment : Text → Option Text) (args : CollectorArguments) :
    Loading Configuration.MonitoringConfig :=
  match args.config.filter (· ≠ []) with
  | some path => loadConfig fs (PurePath.ofText path) content args.policy args.pathRoot
  | none => configFromEnvironment environment

/-- `overrides`. -/
def overrides (args : CollectorArguments) (config : Configuration.MonitoringConfig) : List (Text × Text) :=
  config.asMapping.map fun entry => (entry.1, (args.override entry.1).getD entry.2)

/-- `active`. -/
def activeConfig (environment : Text → Option Text) (args : CollectorArguments) :
    Loading Configuration.MonitoringConfig := do
  let environmentConfig ← environmentConfig fs content environment args
  let active ← configFromMapping (overrides args environmentConfig) true
  applyConfigPolicy fs active args.policy args.pathRoot

/-- What the collector works on. -/
structure CollectorPaths where
  db : Text
  envDir : Text
  lock : Option Text
  deriving DecidableEq

/-- `db_path`, `env_dir` and `lock_path`. -/
def collectorPaths (environment : Text → Option Text) (args : CollectorArguments) : Loading CollectorPaths := do
  let active ← activeConfig fs content environment args
  let db ← resolved fs args.policy args.pathRoot active.dbPath
  let envDir ← resolved fs args.policy args.pathRoot active.envDir
  match args.lockPath, args.policy with
  | none, .installed =>
    let lock ← rootedPath fs defaultLockPath args.pathRoot
    .ok { db, envDir, lock := some lock.text }
  | lock, _ => .ok { db, envDir, lock }

/-! ## Confinement -/

/-- The names of the root. -/
def rootNames (root : Option Text) : List Text := ((boundaryOf root).map (·.names)).getD []

/-- A path to something within the directory of the state below the root: with no way up, and not through symlinks. -/
structure IsConfined (root : Option Text) (path : PurePath) : Prop where
  below : ∃ rest, rest ≠ [] ∧ path.names = rootNames root ++ (PurePath.ofText installedStateDir).names ++ rest
  upright : parentName ∉ path.names.drop (rootNames root).length
  real : ∀ n, (rootNames root).length ≤ n → n ≤ path.names.length → fs.isSymlink (path.take n) = false
  regular : fs.isThere path = true → fs.isFile path = true

end Monitoring.Administration
