import Mathlib.Data.List.Dedup
import Mathlib.Data.List.Sort
import GostManager.Effects.Program
import GostManager.Lists.Dictionary
import GostManager.Profiles.Environment

/-!
# Profiles: the host that the manager works on

The env files and the units of a host, and what `gost-manager.sh` does to them. Files are replaced as a
whole. The answers of the operator, and what `systemctl`, `iptables` and `ss` do, are left open, as long as
they leave these files alone.
-/

namespace Profiles

open Texts Effects

/-- A profile, as the names of its files have it. -/
structure Profile where
  side : Side
  number : Text
  deriving DecidableEq, Repr

/-- `"${side}-${number}"`. -/
def Profile.id (profile : Profile) : Text := profile.side.name ++ '-' :: profile.number

/-- What stands at the name of an env file: a regular file, or a link, a directory and the like. -/
inductive File where
  | regular (text : Text)
  | special
  deriving DecidableEq, Repr

/-- The env files, and the profiles that have units. -/
structure Host where
  envs : List (Profile × File) := []
  units : List Profile := []
  deriving DecidableEq, Repr

namespace Host

variable (host : Host) (profile : Profile)

/-- What stands at the name of the env file. -/
def file : Option File := (Lists.find Prod.fst profile host.envs).map (·.2)

/-- The text of a regular env file. -/
def envText : Option Text :=
  match host.file profile with
  | some (.regular text) => some text
  | _ => none

/-- `profile_identity_exists`. -/
def identityExists : Bool := (host.file profile).isSome || host.units.contains profile

/-- The order of `sort -t '|' -k1,1 -k2,2n`. -/
def inOrder (profile other : Profile) : Bool :=
  match profile.side, other.side with
  | .iran, .kharej => true
  | .kharej, .iran => false
  | _, _ => number profile.number ≤ number other.number

/-- `discover_existing_tunnels`: the profiles that have a unit or an env file. -/
def existingTunnels : List Profile :=
  let names := (host.units ++ host.envs.map (·.1)).filter fun profile => isPositiveInteger profile.number
  names.dedup.insertionSort fun profile other => inOrder profile other

/-- `MAX_PROFILE_NUMBER`. -/
def maxProfileNumber : Nat := 10000

/-- `next_free_profile_number`. -/
def nextFreeProfileNumber (side : Side) : Option Text :=
  ((List.range' 1 maxProfileNumber).map (Nat.toDigits 10)).find? fun number =>
    !host.identityExists ⟨side, number⟩

/-! ## Changes -/

def writeEnv (text : Text) : Host :=
  { host with envs := Lists.store Prod.fst (profile, .regular text) host.envs }

def removeEnv : Host := { host with envs := host.envs.filter fun entry => entry.1 ≠ profile }

def writeUnit : Host :=
  { host with units := if profile ∈ host.units then host.units else host.units ++ [profile] }

def removeUnit : Host := { host with units := host.units.filter (· ≠ profile) }

end Host

/-! ## Operations -/

/-- The functions and commands that leave env files and units alone, with what they are told. -/
inductive Command where
  | ensureCommands (names : List String)
  /-- `command -v iptables`. -/
  | findIptables
  | ensureProfileDirectories
  /-- `validate_managed_destination`, for the env file. -/
  | validateEnvDestination (profile : Profile)
  /-- The same for the unit. -/
  | validateUnitDestination (profile : Profile)
  | snapshotManagedFile
  | takeListenSnapshot
  | validateLivePortsSnapshot (ports : List Text) (selected : Option Profile) (unchanged : List Text)
  | daemonReload
  | enableNow (profile : Profile)
  | disableNow (profile : Profile)
  | restart (profile : Profile)
  | captureServiceState (profile : Profile)
  | restoreServiceState (profile : Profile)
  | verifyServiceStateMatches (profile : Profile)
  | serviceIsInactiveDisabled (profile : Profile)
  | stopServiceVerified (profile : Profile)
  | stopDisableServiceVerified (profile : Profile)
  | verifyActiveProfileListener (profile : Profile) (ports : List Text)
  | verifyProfileListeners (profile : Profile) (ports : List Text)
  | snapshotKharejFirewallRules (number : Text)
  | addKharejFirewallRules (number sources : Text) (ports : List Text)
  | restoreKharejFirewallRules (number : Text)
  | deleteKharejFirewallRules (number : Text)
  | finalizeKharejFirewallTransition (number port sources : Text) (count : Nat)
  | rollbackKharejFirewallTransition (number : Text) (count : Nat)

/-- What a function of the manager asks for. -/
inductive Op where
  /-- `read -r -p`. -/
  | read (prompt : String)
  /-- `prompt_required`. -/
  | promptRequired (prompt : String)
  /-- `prompt_secret_confirmed`. -/
  | promptSecretConfirmed (prompt : String) (allowBlank : Bool)
  | confirm (prompt : String)
  /-- `select_existing_tunnel`. -/
  | selectExistingTunnel
  | discoverExistingTunnels
  | profileIdentityExists (profile : Profile)
  /-- `[[ -e "${env_file}" || -L "${env_file}" ]]`. -/
  | envExists (profile : Profile)
  /-- The same for the unit. -/
  | unitExists (profile : Profile)
  | nextFreeProfileNumber (side : Side)
  /-- Read a regular env file. -/
  | readEnv (profile : Profile)
  | run (command : Command)
  /-- `read_captured_service_state`, with `CAPTURED_ACTIVE_STATE`. -/
  | readCapturedServiceState (profile : Profile)
  /-- `prepare_kharej_firewall_transition`: the number of candidate rules, or the exit status. -/
  | prepareKharejFirewallTransition (number port sources : Text)
  /-- `write_loaded_profile_env`. -/
  | writeEnv (profile : Profile) (text : Text)
  /-- `write_service_file`. -/
  | writeUnit (profile : Profile)
  /-- `restore_managed_snapshot`, for the env file. -/
  | restoreEnv (profile : Profile) (snapshot : Text)
  /-- The same for the unit. -/
  | restoreUnit (profile : Profile)
  /-- `rm -f`, for the env file. -/
  | removeEnv (profile : Profile)
  /-- The same for the unit. -/
  | removeUnit (profile : Profile)

/-- The answers. -/
@[reducible] def Ans : Op → Type
  | .read _ | .promptRequired _ | .promptSecretConfirmed _ _ => Text
  | .selectExistingTunnel => Option Profile
  | .discoverExistingTunnels => List Profile
  | .nextFreeProfileNumber _ | .readEnv _ | .readCapturedServiceState _ => Option Text
  | .prepareKharejFirewallTransition .. => Except Nat Nat
  | _ => Bool

/-- How the host answers. A step that fails may have changed its file. -/
def answers (host : Host) : (op : Op) → Ans op → Host → Prop
  | .read _, line, host' => '\n' ∉ line ∧ host' = host
  | .promptRequired _, line, host' => '\n' ∉ line ∧ line ≠ [] ∧ host' = host
  | .promptSecretConfirmed _ allowBlank, line, host' =>
    '\n' ∉ line ∧ (line = [] → allowBlank = true) ∧ host' = host
  | .confirm _, _, host' => host' = host
  | .selectExistingTunnel, selected, host' =>
    (∀ profile ∈ selected, profile ∈ host.existingTunnels) ∧ host' = host
  | .discoverExistingTunnels, profiles, host' => profiles = host.existingTunnels ∧ host' = host
  | .profileIdentityExists profile, exists_, host' =>
    exists_ = host.identityExists profile ∧ host' = host
  | .envExists profile, exists_, host' => exists_ = (host.file profile).isSome ∧ host' = host
  | .unitExists profile, exists_, host' => exists_ = host.units.contains profile ∧ host' = host
  | .nextFreeProfileNumber side, number, host' => number = host.nextFreeProfileNumber side ∧ host' = host
  | .readEnv profile, text, host' => text = host.envText profile ∧ host' = host
  | .run _, _, host' => host' = host
  | .readCapturedServiceState _, _, host' => host' = host
  | .prepareKharejFirewallTransition .., _, host' => host' = host
  | .writeEnv profile text, true, host' =>
    host.file profile ≠ some .special ∧ host' = host.writeEnv profile text
  | .writeEnv _ _, false, host' => host' = host
  | .writeUnit profile, true, host' => host' = host.writeUnit profile
  | .writeUnit _, false, host' => host' = host
  | .restoreEnv profile text, true, host' =>
    host.file profile ≠ some .special ∧ host' = host.writeEnv profile text
  | .restoreEnv profile text, false, host' => host' = host ∨ host' = host.writeEnv profile text
  | .restoreUnit profile, true, host' => host' = host.writeUnit profile
  | .restoreUnit profile, false, host' => host' = host ∨ host' = host.writeUnit profile
  | .removeEnv profile, true, host' => host' = host.removeEnv profile
  | .removeEnv _, false, host' => host' = host
  | .removeUnit profile, true, host' => host' = host.removeUnit profile
  | .removeUnit _, false, host' => host' = host

end Profiles
