import GostManager.Profiles.Readers
import GostManager.Watchdog.Configuration

/-!
# Watchdog: discovery of profiles

`discover_profiles` of `gost_watchdog/profiles.py`, with `load_profile_config` of `gost_watchdog/config.py`: the
profiles that the files in three directories make up, and those whose files are refused.
-/

namespace Watchdog

open Profiles Texts

/-! ## Files -/

/-- The kind of a file, as `lstat` says. -/
inductive FileKind where
  | regular | directory | symlink | other
  deriving DecidableEq

/-- Why a text cannot be read. -/
inductive ReadError where
  | osError
  | unicodeError
  deriving DecidableEq

/-- A file, with what `read_text` makes of it under both encodings. -/
structure ManagedFile where
  kind : FileKind := .regular
  mode : Nat := 0o600
  uid : Nat := 0
  ascii : Except ReadError Text
  utf8 : Except ReadError Text

/-- The files of a directory by their names, in the order in which they are listed. -/
structure Directory where
  files : List (Text × ManagedFile)
  distinct : (files.map (·.1)).Nodup
  /-- No name is longer than a file system takes. -/
  short : ∀ file ∈ files, file.1.length ≤ 255

/-- The file of a name. -/
def Directory.file (directory : Directory) (name : Text) : Option ManagedFile :=
  Lists.find (·.1) name directory.files |>.map (·.2)

/-- What is at the path of a directory. -/
inductive Root where
  | symlink
  | notDirectory
  | directory (directory : Directory)

/-- What a profile is loaded under. -/
structure Policy where
  globalConfig : GlobalConfig
  expectedUid : Option Nat := none
  /-- No symlink is traversed on the way to the configurations. -/
  boundary : Bool := true

/-- An exception of a read. -/
def ReadError.load : ReadError → LoadError
  | .osError => .osError
  | .unicodeError => .unicodeError

/-- `path.read_text`. -/
def readText : Except ReadError Text → Loading Text
  | .ok text => .ok text
  | .error error => .error error.load

/-- `_validate_managed_file`. -/
def validateManagedFile (expectedUid : Option Nat) : Option ManagedFile → Loading Unit
  | none => .error (.profileError "cannot inspect managed file: FileNotFoundError")
  | some file =>
    if file.kind ≠ .regular then .error (.profileError "managed file must be regular and non-symlink")
    else if file.mode &&& 0o022 ≠ 0 then
      .error (.profileError "managed file may not be group/world writable")
    else if expectedUid.any (· ≠ file.uid) then
      .error (.profileError "managed file must be owned by the trusted user")
    else .ok ()

/-- `validate_file_security`. -/
def validateFileSecurity (policy : Policy) (file : ManagedFile) : Loading Unit :=
  if !policy.boundary ∨ file.kind = .symlink then
    .error (.configError "managed path traverses a symlink")
  else if file.kind ≠ .regular then
    .error (.configError "config must be a regular non-symlink file")
  else if file.mode &&& 0o077 ≠ 0 then
    .error (.configError "config permissions must be 0600 or stricter")
  else if policy.expectedUid.any (· ≠ file.uid) then
    .error (.configError "config must be owned by the trusted user")
  else .ok ()

/-- `load_profile_config`. -/
def loadProfileConfig (policy : Policy) : Option ManagedFile → Loading ProfileConfig
  | none => profileConfigFromMapping [] policy.globalConfig
  | some file => do
    validateFileSecurity policy file
    match file.ascii with
    | .error _ => .error (.configError "cannot read profile config")
    | .ok text => parseProfileConfig text policy.globalConfig

/-- `parse_kharej_ip_text`, with its exception. -/
def loadKharejIp (text : Text) : Loading Text :=
  match parseKharejIpText text with
  | .ok kharejIp => .ok kharejIp
  | .error message => .error (.profileError message)

/-! ## Profiles -/

/-- The digits of the number of a profile. -/
abbrev Number : Type := {digits : Text // isNumber digits = true}

/-- The number of a profile. -/
def Number.value (n : Number) : Nat := number n.1

/-- `f"iran-{number}"`. -/
def Number.profileId (n : Number) : String := String.ofList ("iran-".toList ++ n.1)

/-- `f"iran-{number}.env"`. -/
def Number.envName (n : Number) : Text := "iran-".toList ++ n.1 ++ ".env".toList

/-- `f"gost-iran-{number}.service"`. -/
def Number.unitName (n : Number) : Text := "gost-iran-".toList ++ n.1 ++ ".service".toList

/-- `f"iran-{number}.conf"`. -/
def Number.configName (n : Number) : Text := "iran-".toList ++ n.1 ++ ".conf".toList

theorem profileRe_ofList {digits : Text} (h : isNumber digits = true) :
    profileRe (String.ofList ("iran-".toList ++ digits)) = true := by
  have hlist : (String.ofList ("iran-".toList ++ digits)).toList = "iran-".toList ++ digits :=
    String.toList_ofList
  have hdrop : ("iran-".toList ++ digits).drop 5 = digits := List.drop_left' (by decide)
  have hprefix : "iran-".toList.isPrefixOf ("iran-".toList ++ digits) = true :=
    List.isPrefixOf_iff_prefix.mpr (List.prefix_append _ _)
  rw [profileRe, hlist, hdrop, hprefix, h, Bool.and_true]

theorem Number.profileId_valid (n : Number) : profileRe n.profileId = true := profileRe_ofList n.2

/-- What is tried for a candidate: its three files are checked and read. -/
def discoverProfile (policy : Policy) (n : Number) (env unit config : Option ManagedFile) :
    Loading ManagedProfile := do
  validateManagedFile policy.expectedUid env
  validateManagedFile policy.expectedUid unit
  let text ← match env with
    | some file => readText file.utf8
    | none => .error .osError
  let kharejIp ← loadKharejIp text
  let config ← loadProfileConfig policy config
  return {
    profileId := n.profileId
    serviceName := unitOf n.profileId
    kharejIp := String.ofList kharejIp
    config
    profileId_valid := n.profileId_valid
    serviceName_eq := rfl }

/-- `ENV_RE.fullmatch`: the number in a name. -/
def envRe (name : Text) : Option Number :=
  let digits := (name.drop 5).take (name.length - 9)
  if h : isNumber digits = true then
    if name = Number.envName ⟨digits, h⟩ then some ⟨digits, h⟩ else none
  else none

/-- `env_root.glob("iran-*.env")`. -/
def isGlobbed (name : Text) : Bool :=
  "iran-".toList.isPrefixOf name && ".env".toList.isSuffixOf (name.drop 5)

/-- The key that the candidates are sorted by. -/
def candidateKey (name : Text) : Loading Nat :=
  match envRe name with
  | none => .ok 0
  | some n =>
    match toNat? Digits.ascii n.1 with
    | some value => .ok value
    | none => .error .valueError

/-- What became of the candidates so far: the profiles, and the errors with their categories. -/
abbrev Discovered : Type := List ManagedProfile × List (Option String × String)

/-- One candidate of `discover_profiles`. -/
def discoverCandidate (policy : Policy) (unitRoot configRoot : Directory) (found : Discovered)
    (candidate : Text × ManagedFile) : Loading Discovered :=
  match envRe candidate.1 with
  | none => .ok found
  | some n =>
    match discoverProfile policy n (some candidate.2) (unitRoot.file n.unitName)
        (configRoot.file n.configName) with
    | .ok profile => .ok (found.1 ++ [profile], found.2)
    -- An exception that is none of those that are caught.
    | .error .valueError => .error .valueError
    | .error _ => .ok (found.1, found.2 ++ [(some n.profileId, "invalid_profile")])

/-- The candidates with their keys, in order. -/
def candidates (envRoot : Directory) : Loading (List (Nat × Text × ManagedFile)) := do
  let keyed ← (envRoot.files.filter fun file => isGlobbed file.1).mapM fun file => do
    return (← candidateKey file.1, file)
  return keyed.insertionSort fun a b => a.1 ≤ b.1

/-- `discover_profiles`. -/
def discoverProfiles (policy : Policy) (env unit config : Root) : Loading Discovered :=
  match env, unit, config with
  | .symlink, _, _ => .ok ([], [(none, "unsafe_directory")])
  | _, .symlink, _ => .ok ([], [(none, "unsafe_directory")])
  | _, _, .symlink => .ok ([], [(none, "unsafe_directory")])
  | .directory envRoot, .directory unitRoot, .directory configRoot => do
    (← candidates envRoot).foldlM
      (fun found candidate => discoverCandidate policy unitRoot configRoot found candidate.2) ([], [])
  | _, _, _ => .ok ([], [])

/-! ## What is asked of it -/

/-- The outcome is a result or the one exception that is meant. -/
def OnlyRaises {α : Type} (p : LoadError → Prop) (outcome : Loading α) : Prop :=
  ∀ error, outcome = .error error → p error

/-- A `ConfigError`. -/
def LoadError.IsConfigError (error : LoadError) : Prop := ∃ message, error = .configError message

/-- A `ProfileError`. -/
def LoadError.IsProfileError (error : LoadError) : Prop := ∃ message, error = .profileError message

/-- The files of a number in three directories. -/
structure Files where
  env : Directory
  unit : Directory
  config : Directory

/-- What the three files of a profile make of it. -/
def Files.discover (files : Files) (policy : Policy) (n : Number) : Loading ManagedProfile :=
  discoverProfile policy n (files.env.file n.envName) (files.unit.file n.unitName)
    (files.config.file n.configName)

/-- There is a file for the number. -/
def Files.Lists (files : Files) (n : Number) : Prop := n.envName ∈ files.env.files.map (·.1)

/-- A discovery puts each profile where its own three files say, in order of the numbers. -/
structure Discovers (policy : Policy) (files : Files) (profiles : List (Number × ManagedProfile))
    (errors : List Number) : Prop where
  profile : ∀ n profile, (n, profile) ∈ profiles ↔ files.Lists n ∧ files.discover policy n = .ok profile
  error : ∀ n, n ∈ errors ↔ files.Lists n ∧ ∃ error, files.discover policy n = .error error
  profiles_sorted : profiles.Pairwise fun a b => a.1.value < b.1.value
  errors_sorted : errors.Pairwise fun a b => a.value < b.value

/-- The broken files of a profile are its own business: the discovery returns, and lists each profile once by
its own files. -/
def Isolates (policy : Policy) (files : Files) : Prop :=
  ∃ profiles errors, discoverProfiles policy (.directory files.env) (.directory files.unit)
      (.directory files.config) =
    .ok (profiles.map (·.2), errors.map fun n => (some n.profileId, "invalid_profile")) ∧
    Discovers policy files profiles errors

/-! ## Where it fails -/

/-- A global configuration is refused for a number that is too long. -/
def GlobalOverflows (text : Text) : Prop :=
  ∃ values, parseText text globalKeys true = .ok values ∧
    (valueOf values checkModeKey).getD "ping".toList = "ping".toList ∧
    ∃ setting, Overflows values ({} : GlobalConfig).setting setting

/-- The configuration of a profile is refused for a number that is too long. -/
def ProfileOverflows (globalConfig : GlobalConfig) (text : Text) : Prop :=
  ∃ values, parseProfileValues text = .ok values ∧
    (modeOf ((valueOf values modeKey).getD "disabled".toList)).isSome = true ∧
    ∃ setting, Overflows values globalConfig.setting setting

/-- The files that say what a profile is are good, and the file with its configuration is secure and has a number
that is too long. -/
structure Files.Overflow (files : Files) (policy : Policy) (n : Number) : Prop where
  env : ∃ file text kharejIp, files.env.file n.envName = some file ∧
    validateManagedFile policy.expectedUid (some file) = .ok () ∧ file.utf8 = .ok text ∧
    parseKharejIpText text = .ok kharejIp
  unit : validateManagedFile policy.expectedUid (files.unit.file n.unitName) = .ok ()
  config : ∃ file text, files.config.file n.configName = some file ∧
    validateFileSecurity policy file = .ok () ∧ file.ascii = .ok text ∧
    ProfileOverflows policy.globalConfig text

end Watchdog
