import GostManager.Effects.Machine
import GostManager.Profiles.Host

/-!
# Profiles: creating, cloning, editing and deleting

The functions of `gost-manager.sh` that change profiles, as programs over the host. Every function that
gives up ends the script, with the message that it prints last. What they print otherwise is left out, and
so are their temporary files.
-/

namespace Profiles

open Texts Effects

/-- A part of the script. An exception is the message with which the script ends. -/
abbrev Manager (α : Type) : Type := Prog Op Ans String α

/-- `die`, and `return 1` after a message. -/
def die {α : Type} (message : String) : Manager α := .raise message

/-- `check || die message`. -/
def dieUnless (holds : Bool) (message : String) : Manager Unit := if holds then pure () else die message

/-- A check that ends the script by itself. -/
def checked {α : Type} : Except String α → Manager α
  | .ok a => pure a
  | .error message => die message

def run (command : Command) : Manager Bool := Prog.perform (Op.run command)

/-- A part of the script, if it is called for. -/
def given (needed : Prop) [Decidable needed] (otherwise : Bool) (part : Manager Bool) : Manager Bool :=
  if needed then part else pure otherwise

/-- A command, unless something has failed before. -/
def runIf (holds : Bool) (command : Command) : Manager Bool := given holds false (run command)

/-- A command, if it is called for. -/
def runWhen (needed : Prop) [Decidable needed] (command : Command) : Manager Bool :=
  given needed true (run command)

def confirm (prompt : String) : Manager Bool := Prog.perform (Op.confirm prompt)

/-- `prompt_default`. -/
def promptDefault (prompt : String) (default : Text) : Manager Text := do
  let value ← (Prog.perform (Op.read prompt) : Manager Text)
  return if value = [] then default else value

def promptRequired (prompt : String) : Manager Text := Prog.perform (Op.promptRequired prompt)

def promptSecretConfirmed (prompt : String) (allowBlank : Bool) : Manager Text :=
  Prog.perform (Op.promptSecretConfirmed prompt allowBlank)

def selectExistingTunnel : Manager Profile := do
  match ← (Prog.perform Op.selectExistingTunnel : Manager (Option Profile)) with
  | some profile => return profile
  | none => die "no managed GOST tunnels were found."

def readEnv (profile : Profile) : Manager (Option Text) := Prog.perform (Op.readEnv profile)

def writeEnv (profile : Profile) (text : Text) : Manager Bool := Prog.perform (Op.writeEnv profile text)

def writeUnit (profile : Profile) : Manager Bool := Prog.perform (Op.writeUnit profile)

def removeEnv (profile : Profile) : Manager Bool := Prog.perform (Op.removeEnv profile)

def removeUnit (profile : Profile) : Manager Bool := Prog.perform (Op.removeUnit profile)

def identityExists (profile : Profile) : Manager Bool := Prog.perform (Op.profileIdentityExists profile)

/-! ## Checks of single values -/

def validateTokenOrDie (label : String) (value : Text) : Except String Unit :=
  orDie (isToken value) s!"{label} may contain only letters, numbers, dot, underscore, tilde, or hyphen."

def validateProfileLabelOrDie (label : Text) : Except String Unit :=
  orDie (label == [] || isLabel label)
    "profile label must use 1-64 safe letters, numbers, dot, underscore, tilde, or hyphen."

def validatePortOrDie (port : Text) : Except String Unit :=
  orDie (isValidPort port) s!"port must be between 1 and 65535: {String.ofList port}"

def validateHostOrDie (label : String) (value : Text) : Except String Unit :=
  orDie (isHost value) s!"{label} must be an IPv4 address or DNS name without spaces."

def validateTunnelNumberOrDie (number : Text) : Except String Unit :=
  orDie (isPositiveInteger number) "tunnel number must be a positive integer."

/-! ## Local ports -/

/-- The listen ports of `MAPPINGS`. -/
def listenPorts (mappings : Text) : List Text := (splitOn ',' mappings).map fun pair => pair.takeWhile (· ≠ ':')

/-- The local ports that the values name: the listen ports of `MAPPINGS`, or `TUNNEL_PORT`. -/
def namedPorts (side : Side) (env : ProfileEnv) : List Text :=
  match side with
  | .iran => listenPorts (env.value Key.mappings)
  | .kharej => [env.value Key.tunnelPort]

/-- What `profile_local_ports_from_loaded` asks of the values. -/
def portsAreValid (side : Side) (env : ProfileEnv) : Bool :=
  match side with
  | .iran => (validateMappings (env.value Key.mappings)).toBool
  | .kharej => isValidPort (env.value Key.tunnelPort)

/-- `profile_local_ports_from_loaded`. -/
def profileLocalPortsFromLoaded (side : Side) (env : ProfileEnv) : Option (List Text) :=
  if portsAreValid side env then some (namedPorts side env) else none

/-- The first column of a profile whose ports cannot be told. -/
def incomplete : Text := "incomplete".toList

/-- What `configured_port_inventory` writes for one profile. -/
def inventoryLines (profile : Profile) (text : Option Text) : List (Text × Profile) :=
  let loaded := (text.filter isPlain).bind fun text => profileEnvLoad text profile.side true
  match loaded.bind (profileLocalPortsFromLoaded profile.side) with
  | some ports => ports.map (·, profile)
  | none => [(incomplete, profile)]

/-- The loop of `configured_port_inventory`. -/
def inventoryOf : List Profile → Manager (List (Text × Profile))
  | [] => return []
  | profile :: profiles => do
    let text ← readEnv profile
    let inventory ← inventoryOf profiles
    return inventoryLines profile text ++ inventory

/-- `configured_port_inventory`. -/
def configuredPortInventory : Manager (List (Text × Profile)) := do
  let profiles ← (Prog.perform Op.discoverExistingTunnels : Manager (List Profile))
  inventoryOf profiles

/-- The first entry of a port that belongs to another profile. -/
def conflict (inventory : List (Text × Profile)) (candidate : Profile) (port : Text) : Option (Text × Profile) :=
  inventory.find? fun entry => entry.1 = port ∧ entry.2 ≠ candidate

/-- `validate_configured_ports`. -/
def validateConfiguredPorts (candidate : Profile) (ports : List Text) : Manager Unit := do
  let inventory ← configuredPortInventory
  match ports.findSome? (conflict inventory candidate) with
  | some (port, owner) =>
    die (s!"Configured local port {String.ofList port} conflicts with {String.ofList owner.id}. " ++
      "No files were changed.")
  | none => return ()

/-- `validate_profile_ports_before_write`. It goes on with the profile as it would be read back. -/
def validateProfilePortsBeforeWrite (candidate : Profile) (env : ProfileEnv) (ports : List Text)
    (selected : Option Profile) (unchanged : List Text) : Manager ProfileEnv := do
  validateConfiguredPorts candidate ports
  match profileEnvLoad (profileEnvWriteLines candidate.side env) candidate.side with
  | none => die ""
  | some env =>
    dieUnless (← run .takeListenSnapshot)
      "Cannot verify live local ports; ownership is unavailable. No files were changed."
    dieUnless (← run (.validateLivePortsSnapshot ports selected unchanged))
      "A live local port is occupied. No files were changed."
    return env

section Sources

-- `canonicalize_allowed_sources`
variable (canonicalizeAllowedSources : Text → Option Text)

/-- `profile_sources_from_loaded`. -/
def profileSourcesFromLoaded (env : ProfileEnv) : Option Text :=
  let legacy := env.value Key.iranIp
  let sources := env.value Key.allowedIranSources
  if legacy ≠ [] ∧ sources ≠ [] then none
  else if sources ≠ [] then canonicalizeAllowedSources sources
  else if legacy ≠ [] then canonicalizeAllowedSources legacy
  else none

/-- `canonicalize_allowed_sources sources || die message`. -/
def canonicalizeOrDie (sources : Text) (message : String) : Manager Text :=
  match canonicalizeAllowedSources sources with
  | some sources => return sources
  | none => die message

/-! ## Creating -/

/-- The end of `install_new_profile_from_loaded` after a failure. -/
def rollbackNewProfile (profile : Profile) (lifecycleMutated : Bool) : Manager Unit := do
  let stopped ← runWhen lifecycleMutated (.stopDisableServiceVerified profile)
  let returned ← runWhen (lifecycleMutated ∧ stopped) (.verifyServiceStateMatches profile)
  dieUnless (stopped && returned)
    s!"Profile {String.ofList profile.id} activation failed and inactive/disabled rollback could not be proven."
  dieUnless (← runWhen (profile.side = .kharej) (.restoreKharejFirewallRules profile.number))
    s!"Profile {String.ofList profile.id} activation failed and firewall rollback could not be proven."
  let unitRemoved ← removeUnit profile
  let envRemoved ← removeEnv profile
  dieUnless (← runIf (unitRemoved && envRemoved) .daemonReload)
    s!"Profile {String.ofList profile.id} activation failed; file cleanup needs operator recovery."
  die (s!"Profile {String.ofList profile.id} creation failed; " ++
    "only its new files and managed firewall rules were rolled back.")

/-- The writing part of `install_new_profile_from_loaded`. -/
def activateNewProfile (profile : Profile) (env : ProfileEnv) (ports : List Text) (startProfile : Bool) :
    Manager Unit := do
  let envWritten ← writeEnv profile (profileEnvWriteLines profile.side env)
  let unitWritten ← given envWritten false (writeUnit profile)
  let protects := profile.side = .kharej ∧ env.value Key.firewallEnabled = ['1']
  let sources := (profileSourcesFromLoaded canonicalizeAllowedSources env).getD []
  let firewalled ← given (unitWritten ∧ protects) unitWritten
    (run (.addKharejFirewallRules profile.number sources ports))
  let reloaded ← runIf firewalled .daemonReload
  let captured ← runIf (reloaded && startProfile) (.captureServiceState profile)
  let enabled ← runIf captured (.enableNow profile)
  let verified ← runIf enabled (.verifyActiveProfileListener profile ports)
  if reloaded ∧ (startProfile → verified) then pure () else rollbackNewProfile profile captured

/-- `install_new_profile_from_loaded`. -/
def installNewProfileFromLoaded (profile : Profile) (env : ProfileEnv) (startProfile : Bool) : Manager Unit := do
  checked (validateTunnelNumberOrDie profile.number)
  dieUnless (!(← identityExists profile))
    s!"Profile {String.ofList profile.id} already exists; creation never overwrites it."
  checked (validateLoadedProfile (profileSourcesFromLoaded canonicalizeAllowedSources) profile.side env)
  dieUnless (← runWhen (profile.side = .kharej ∧ env.value Key.firewallEnabled = ['1']) .findIptables)
    "iptables is required before creating a firewall-enabled Kharej profile."
  match profileLocalPortsFromLoaded profile.side env with
  | none => die ""
  | some ports =>
    let env ← validateProfilePortsBeforeWrite profile env ports none []
    dieUnless (← run .ensureProfileDirectories) "unsafe GOST env directory."
    dieUnless (← runWhen (profile.side = .kharej) (.snapshotKharejFirewallRules profile.number)) ""
    activateNewProfile canonicalizeAllowedSources profile env ports startProfile

/-- The number of a new profile. -/
def promptProfileNumber (side : Side) (prompt : String) : Manager Profile := do
  match ← (Prog.perform (Op.nextFreeProfileNumber side) : Manager (Option Text)) with
  | none => die s!"no free {String.ofList side.name} profile number below the safe limit."
  | some suggested =>
    let number ← promptDefault prompt suggested
    checked (validateTunnelNumberOrDie number)
    dieUnless (!(← identityExists ⟨side, number⟩))
      s!"profile {String.ofList (Profile.id ⟨side, number⟩)} already exists."
    return ⟨side, number⟩

/-- `[[ -z "${label}" ]] || profile_env_set PROFILE_LABEL "${label}"`. -/
def withLabel (env : ProfileEnv) (label : Text) : ProfileEnv :=
  if label = [] then env else env.set Key.profileLabel label

/-- The new Iran profile of `create_iran_tunnel` and `clone_profile`. -/
def newIranEnv (user password host port mappings : Text) : ProfileEnv :=
  ((((ProfileEnv.set {} Key.gostUser user).set Key.gostPass password).set Key.kharejIp host).set
    Key.tunnelPort port).set Key.mappings mappings

/-- The new Kharej profile of `create_kharej_tunnel` and `clone_profile`. -/
def newKharejEnv (user password port sources firewall : Text) : ProfileEnv :=
  ((((ProfileEnv.set {} Key.gostUser user).set Key.gostPass password).set Key.tunnelPort port).set
    Key.allowedIranSources sources).set Key.firewallEnabled firewall

/-- `create_kharej_tunnel`. -/
def createKharejTunnel : Manager Unit := do
  dieUnless (← run (.ensureCommands ["systemctl", "ss", "python3"])) "missing required commands"
  let profile ← promptProfileNumber .kharej "Kharej profile number"
  let label ← promptDefault "Profile label (optional)" []
  checked (validateProfileLabelOrDie label)
  let port ← promptDefault "SOCKS listen port" "28420".toList
  checked (validatePortOrDie port)
  let user ← promptDefault "GOST username" "maya".toList
  checked (validateTokenOrDie "GOST username" user)
  let password ← promptSecretConfirmed "GOST password" false
  checked (validateTokenOrDie "GOST password" password)
  let sources ← promptRequired "Allowed Iran IPv4/CIDRs, comma-separated (for example 198.51.100.10)"
  let sources ← canonicalizeOrDie canonicalizeAllowedSources sources
    "allowed sources must be 1-64 canonical IPv4 networks from /8 through /32."
  let enabled ← confirm "Apply profile-scoped iptables firewall rules?"
  dieUnless (← runWhen enabled (.ensureCommands ["iptables"])) "missing required commands"
  let env := withLabel (newKharejEnv user password port sources (if enabled then ['1'] else ['0'])) label
  dieUnless (← confirm "Create and start this exact profile?") "creation aborted."
  installNewProfileFromLoaded canonicalizeAllowedSources profile env true

/-- `create_iran_tunnel`. -/
def createIranTunnel : Manager Unit := do
  dieUnless (← run (.ensureCommands ["systemctl", "ss", "python3"])) "missing required commands"
  let profile ← promptProfileNumber .iran "Iran profile number"
  let label ← promptDefault "Profile label (optional)" []
  checked (validateProfileLabelOrDie label)
  let host ← promptRequired "Kharej IP, for example 203.0.113.20"
  checked (validateHostOrDie "Kharej IP" host)
  let port ← promptDefault "Kharej SOCKS port" "28420".toList
  checked (validatePortOrDie port)
  let user ← promptDefault "GOST username" "maya".toList
  checked (validateTokenOrDie "GOST username" user)
  let password ← promptSecretConfirmed "Matching GOST password from Kharej" false
  checked (validateTokenOrDie "GOST password" password)
  let mappings ← promptRequired "Port mappings"
  let _ ← checked (validateMappings mappings)
  let env := withLabel (newIranEnv user password host port mappings) label
  dieUnless (← confirm "Create and start this exact profile?") "creation aborted."
  installNewProfileFromLoaded canonicalizeAllowedSources profile env true

/-! ## Cloning -/

/-- What `clone_profile` asks for an Iran profile. -/
def promptIranClone (source : ProfileEnv) (user password : Text) : Manager ProfileEnv := do
  let host ← promptDefault "Kharej host" (source.value Key.kharejIp)
  let port ← promptDefault "Kharej SOCKS port" (source.value Key.tunnelPort)
  let mappings ← promptDefault "New unique local mappings" (source.value Key.mappings)
  return newIranEnv user password host port mappings

/-- What `clone_profile` asks for a Kharej profile. -/
def promptKharejClone (source : ProfileEnv) (user password : Text) : Manager ProfileEnv := do
  let oldSources := (profileSourcesFromLoaded canonicalizeAllowedSources source).getD []
  let port ← promptDefault "New unique SOCKS listen port" (source.value Key.tunnelPort)
  let sources ← promptDefault "Allowed Iran IPv4/CIDRs" oldSources
  let sources ← canonicalizeOrDie canonicalizeAllowedSources sources "invalid allowed-source list."
  let firewall ← promptDefault "Firewall enabled (0 or 1)" (source.value Key.firewallEnabled)
  let applies ← given (firewall = ['1']) false (confirm "Apply firewall rules to the cloned profile?")
  dieUnless (← runWhen applies (.ensureCommands ["iptables"])) "missing required commands"
  return newKharejEnv user password port sources (if firewall = ['1'] ∧ !applies then ['0'] else firewall)

def promptClone (side : Side) (source : ProfileEnv) (user password : Text) : Manager ProfileEnv :=
  match side with
  | .iran => promptIranClone source user password
  | .kharej => promptKharejClone canonicalizeAllowedSources source user password

/-- The credentials of a clone. -/
def promptCredentials (source : ProfileEnv) : Manager (Text × Text) := do
  if ← confirm "Reuse the source credentials without displaying them?" then
    return (source.value Key.gostUser, source.value Key.gostPass)
  else
    let user ← promptRequired "New GOST username"
    let password ← promptSecretConfirmed "New GOST password" false
    return (user, password)

/-- `clone_profile`. -/
def cloneProfile : Manager Unit := do
  dieUnless (← run (.ensureCommands ["systemctl", "ss", "python3"])) "missing required commands"
  let selected ← selectExistingTunnel
  match (← readEnv selected).bind (profileEnvLoad · selected.side) with
  | none => die "source profile env is malformed."
  | some source =>
    checked (validateLoadedProfile (profileSourcesFromLoaded canonicalizeAllowedSources) selected.side source)
    let (user, password) ← promptCredentials source
    checked (validateTokenOrDie "GOST username" user)
    checked (validateTokenOrDie "GOST password" password)
    let profile ← promptProfileNumber selected.side s!"New {String.ofList selected.side.name} profile number"
    let label ← promptDefault "New profile label (optional)" []
    checked (validateProfileLabelOrDie label)
    let env ← promptClone canonicalizeAllowedSources selected.side source user password
    let env := withLabel env label
    checked (validateLoadedProfile (profileSourcesFromLoaded canonicalizeAllowedSources) selected.side env)
    if ← confirm "Create this clone?" then
      let startProfile ← confirm "Start the cloned service now?"
      installNewProfileFromLoaded canonicalizeAllowedSources profile env startProfile

end Sources

end Profiles
