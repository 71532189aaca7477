import GostManager.Profiles.Manager

/-!
# Profiles: editing and deleting, and runs of the manager

`edit_profile` and `delete_tunnel`, with their ways back, and the machine that runs one operation of the
manager after the other.
-/

namespace Profiles

open Texts Effects

def restoreEnv (profile : Profile) (snapshot : Text) : Manager Bool :=
  Prog.perform (Op.restoreEnv profile snapshot)

def readCapturedServiceState (profile : Profile) : Manager (Option Text) :=
  Prog.perform (Op.readCapturedServiceState profile)

def active : Text := "active".toList

def inactive : Text := "inactive".toList

/-- The check of the listeners of a service that was active before. -/
def verifyCapturedListener (profile : Profile) (ports : List Text) : Manager Bool := do
  match ← readCapturedServiceState profile with
  | some state => if state = active ∧ ports ≠ [] then run (.verifyProfileListeners profile ports) else return true
  | none => return true

/-- `verify_listener_for_captured_state`. -/
def verifyListenerForCapturedState (profile : Profile) (ports : List Text) : Manager Bool := do
  match ← readCapturedServiceState profile with
  | none => return false
  | some state =>
    if state = active then
      if ports = [] then return false else run (.verifyProfileListeners profile ports)
    else return true

section Sources

variable (canonicalizeAllowedSources : Text → Option Text)

/-! ## Editing -/

/-- What the operator has changed. -/
structure Edit where
  env : ProfileEnv
  labelChanged : Bool := false
  credentialsChanged : Bool := false
  iranRuntimeChanged : Bool := false
  portChanged : Bool := false
  sourcesChanged : Bool := false
  firewallChanged : Bool := false
  port : Text := []
  sources : Text := []
  oldFirewall : Text := []
  firewall : Text := []

namespace Edit

variable (edit : Edit)

def changed : Bool :=
  edit.labelChanged || edit.credentialsChanged || edit.iranRuntimeChanged || edit.portChanged ||
    edit.sourcesChanged || edit.firewallChanged

/-- `protected_port_migration`. -/
def migratesProtectedPort : Bool :=
  edit.portChanged && (edit.oldFirewall == ['1'] || edit.firewall == ['1'])

/-- `firewall_rules_changed`. -/
def changesFirewallRules : Bool := edit.sourcesChanged || edit.firewallChanged || edit.migratesProtectedPort

/-- `needs_runtime_restart`. -/
def needsRuntimeRestart : Bool := edit.credentialsChanged || edit.iranRuntimeChanged || edit.portChanged

end Edit

/-- The fields of an Iran profile. -/
def promptIranEdit (edit : Edit) : Manager Edit := do
  let oldHost := edit.env.value Key.kharejIp
  let oldPort := edit.env.value Key.tunnelPort
  let oldMappings := edit.env.value Key.mappings
  let host ← promptDefault "Kharej host" oldHost
  let port ← promptDefault "Kharej SOCKS port" oldPort
  let mappings ← promptDefault "Port mappings" oldMappings
  return { edit with
    env := ((edit.env.set Key.kharejIp host).set Key.tunnelPort port).set Key.mappings mappings
    iranRuntimeChanged := host != oldHost || port != oldPort || mappings != oldMappings }

/-- The fields of a Kharej profile. -/
def promptKharejEdit (edit : Edit) : Manager Edit := do
  let oldPort := edit.env.value Key.tunnelPort
  let oldSources := (profileSourcesFromLoaded canonicalizeAllowedSources edit.env).getD []
  let oldFirewall := edit.env.value Key.firewallEnabled
  let port ← promptDefault "SOCKS listen port" oldPort
  let sources ← promptDefault "Allowed Iran IPv4/CIDRs" oldSources
  let sources ← canonicalizeOrDie canonicalizeAllowedSources sources "invalid allowed-source list."
  let firewall ← promptDefault "Firewall enabled (0 or 1)" oldFirewall
  -- a legacy `IRAN_IP` gives way only if the sources change
  let env :=
    if sources = oldSources then edit.env
    else ((edit.env.unset Key.iranIp).unset Key.allowedIranSources).set Key.allowedIranSources sources
  return { edit with
    env := (env.set Key.tunnelPort port).set Key.firewallEnabled firewall
    portChanged := port != oldPort
    sourcesChanged := sources != oldSources
    firewallChanged := firewall != oldFirewall
    port, sources, oldFirewall, firewall }

/-- The questions of `edit_profile`. -/
def promptEdit (side : Side) (old : ProfileEnv) : Manager Edit := do
  let oldLabel := old.value Key.profileLabel
  let oldUser := old.value Key.gostUser
  let oldPassword := old.value Key.gostPass
  let label ← promptDefault "Profile label (empty removes it)" oldLabel
  checked (validateProfileLabelOrDie label)
  let user ← promptDefault "New GOST username (blank retains current)" oldUser
  checked (validateTokenOrDie "GOST username" user)
  let secret ← promptSecretConfirmed "New GOST password (blank retains current)" true
  let password := if secret = [] then oldPassword else secret
  checked (validateTokenOrDie "GOST password" password)
  let env := (old.set Key.gostUser user).set Key.gostPass password
  let edit : Edit :=
    { env := if label = [] then env.unset Key.profileLabel else env.set Key.profileLabel label
      labelChanged := label != oldLabel
      credentialsChanged := user != oldUser || password != oldPassword }
  match side with
  | .iran => promptIranEdit edit
  | .kharej => promptKharejEdit canonicalizeAllowedSources edit

/-- What the ways back of `edit_profile` need. -/
structure Recovery where
  profile : Profile
  snapshot : Text
  oldPorts : List Text
  newPorts : List Text
  /-- The number of candidate rules in the firewall. -/
  count : Nat
  edit : Edit

namespace Recovery

variable (recovery : Recovery)

/-- Bring the firewall rules back. -/
def rollbackFirewall : Manager Bool :=
  if recovery.edit.firewall = ['1'] then
    run (.rollbackKharejFirewallTransition recovery.profile.number recovery.count)
  else run (.restoreKharejFirewallRules recovery.profile.number)

/-- `rollback_protected_kharej_edit`. -/
def rollbackProtectedKharejEdit : Manager Bool := do
  match ← readCapturedServiceState recovery.profile with
  | none => return false
  | some _ =>
    let envRestored ← restoreEnv recovery.profile recovery.snapshot
    if ← run (.stopServiceVerified recovery.profile) then
      let firewallRestored ← recovery.rollbackFirewall
      let stateRestored ← runIf (envRestored && firewallRestored) (.restoreServiceState recovery.profile)
      if stateRestored then verifyListenerForCapturedState recovery.profile recovery.oldPorts
      else return false
    else return false

/-- `rollback_kharej_firewall_edit`. -/
def rollbackKharejFirewallEdit : Manager Bool := do
  let envRestored ← restoreEnv recovery.profile recovery.snapshot
  let firewallRestored ← recovery.rollbackFirewall
  return envRestored && firewallRestored

/-- The new rules of the firewall take over. -/
def finishFirewall : Manager Bool :=
  if recovery.edit.firewall = ['1'] then
    run (.finalizeKharejFirewallTransition recovery.profile.number recovery.edit.port recovery.edit.sources
      recovery.count)
  else run (.deleteKharejFirewallRules recovery.profile.number)

/-- The service of an edited profile moves to the new port, if it was active. -/
def moveService : Manager Bool := do
  match ← readCapturedServiceState recovery.profile with
  | none => return false
  | some state =>
    if state = active then
      let restarted ← run (.restart recovery.profile)
      runIf restarted (.verifyActiveProfileListener recovery.profile recovery.newPorts)
    else runIf (state = inactive) (.verifyServiceStateMatches recovery.profile)

/-- The migration of a port that the firewall protects. -/
def migrateProtectedPort : Manager Unit := do
  let moved ← recovery.moveService
  let finished ← given moved false recovery.finishFirewall
  if finished then pure ()
  else
    dieUnless (← recovery.rollbackProtectedKharejEdit)
      "Protected port migration failed and restoration could not be proven."
    die ("Protected port migration failed; " ++
      "exact prior env, firewall, service state, and listener were restored.")

/-- The way back of an edit whose restart failed. -/
def rollbackRestart : Manager Bool := do
  if recovery.profile.side = .kharej ∧ recovery.edit.changesFirewallRules then
    recovery.rollbackProtectedKharejEdit
  else
    let envRestored ← restoreEnv recovery.profile recovery.snapshot
    let stopped ← run (.stopServiceVerified recovery.profile)
    if envRestored && stopped then
      let stateRestored ← run (.restoreServiceState recovery.profile)
      let verified ← verifyListenerForCapturedState recovery.profile recovery.oldPorts
      return stateRestored && verified
    else return false

/-- The restart at the end of `edit_profile`. -/
def restartEdited : Manager Unit := do
  if ← confirm s!"Restart only {String.ofList recovery.profile.id} now?" then
    let restarted ← run (.restart recovery.profile)
    let verified ← runIf restarted (.verifyActiveProfileListener recovery.profile recovery.newPorts)
    if verified then pure ()
    else
      dieUnless (← recovery.rollbackRestart) "Restart and automatic restoration could not be proven."
      die "Restart verification failed; the prior env, firewall, and service state were restored."

/-- `edit_profile`, from the writing of the env file. -/
def saveEdit (env : ProfileEnv) : Manager Unit := do
  let transits := recovery.profile.side = .kharej ∧ recovery.edit.changesFirewallRules
  if ← writeEnv recovery.profile (profileEnvWriteLines recovery.profile.side env) then
    if recovery.edit.migratesProtectedPort then recovery.migrateProtectedPort
    else
      let finished ← given transits true recovery.finishFirewall
      if !finished then
        dieUnless (← recovery.rollbackKharejFirewallEdit)
          "Firewall edit and automatic restoration could not be proven."
        die "Edit failed while applying firewall changes; the prior profile was restored."
      else if recovery.edit.needsRuntimeRestart then recovery.restartEdited
      else pure ()
  else
    let restored ← given transits true recovery.rollbackKharejFirewallEdit
    dieUnless restored "Env write failed and firewall restoration could not be proven."
    die ""

end Recovery

/-- The candidate rules of an edit, before its env file is written. -/
def prepareFirewall (profile : Profile) (edit : Edit) : Manager Nat := do
  if profile.side = .kharej ∧ edit.changesFirewallRules ∧ edit.firewall = ['1'] then
    match ← (Prog.perform (Op.prepareKharejFirewallTransition profile.number edit.port edit.sources) :
        Manager (Except Nat Nat)) with
    | .ok count => return count
    | .error 1 => die "Candidate firewall preparation failed; exact prior rules remain unchanged."
    | .error _ => die "Candidate firewall preparation and rollback could not be proven."
  else return 0

/-- `edit_profile`, after its values are checked. -/
def applyEdit (profile : Profile) (edit : Edit) (env : ProfileEnv) (oldPorts newPorts : List Text) :
    Manager Unit := do
  let saves ← confirm "Save this exact profile change?"
  let migrates ← given (saves ∧ edit.migratesProtectedPort) saves
    (confirm "This protected Kharej port migration requires an exact service restart. Continue transactionally?")
  if migrates then
    dieUnless (← runWhen edit.changesFirewallRules (.ensureCommands ["iptables"])) "missing required commands"
    match ← readEnv profile with
    | none => die ""
    | some snapshot =>
      dieUnless (← run .snapshotManagedFile) ""
      dieUnless (← runWhen (profile.side = .kharej) (.snapshotKharejFirewallRules profile.number)) ""
      dieUnless (← runWhen edit.needsRuntimeRestart (.captureServiceState profile))
        "Could not capture exact service state; no profile mutation was made."
      let count ← prepareFirewall profile edit
      Recovery.saveEdit { profile, snapshot, oldPorts, newPorts, count, edit } env

/-- `edit_profile`. -/
def editProfile : Manager Unit := do
  dieUnless (← run (.ensureCommands ["systemctl", "ss", "python3"])) "missing required commands"
  let profile ← selectExistingTunnel
  match (← readEnv profile).bind (profileEnvLoad · profile.side) with
  | none => die "selected profile env is malformed; no values were displayed or changed."
  | some old =>
    checked (validateLoadedProfile (profileSourcesFromLoaded canonicalizeAllowedSources) profile.side old)
    let oldPorts := namedPorts profile.side old
    let edit ← promptEdit canonicalizeAllowedSources profile.side old
    if edit.changed then
      checked (validateLoadedProfile (profileSourcesFromLoaded canonicalizeAllowedSources) profile.side edit.env)
      match profileLocalPortsFromLoaded profile.side edit.env with
      | none => die ""
      | some newPorts =>
        let env ← validateProfilePortsBeforeWrite profile edit.env newPorts (some profile) oldPorts
        applyEdit profile edit env oldPorts newPorts

end Sources

/-! ## Deleting -/

/-- What is to be brought back if a profile cannot be deleted. -/
structure Deletion where
  profile : Profile
  envSnapshot : Option Text
  hasUnit : Bool
  oldPorts : List Text

namespace Deletion

variable (deletion : Deletion)

/-- The service gets its state back. -/
def restoreState : Manager Bool := do
  let restored ← run (.restoreServiceState deletion.profile)
  given restored false (verifyCapturedListener deletion.profile deletion.oldPorts)

/-- The way back of `delete_tunnel` after the firewall rules could not be deleted. -/
def restoreFirewall : Manager Bool := do
  let firewallRestored ← run (.restoreKharejFirewallRules deletion.profile.number)
  let restored ← run (.restoreServiceState deletion.profile)
  given (firewallRestored ∧ restored) false (verifyCapturedListener deletion.profile deletion.oldPorts)

/-- The env file gets its text back, if there was one. -/
def restoreSnapshot : Manager Bool :=
  match deletion.envSnapshot with
  | some snapshot => restoreEnv deletion.profile snapshot
  | none => pure true

def restoreUnit : Manager Bool := Prog.perform (Op.restoreUnit deletion.profile)

/-- The way back of `delete_tunnel` after files have been removed. -/
def restoreFiles : Manager Bool := do
  let envRestored ← deletion.restoreSnapshot
  let unitRestored ← given deletion.hasUnit true deletion.restoreUnit
  let firewallRestored ← runWhen (deletion.profile.side = .kharej)
    (.restoreKharejFirewallRules deletion.profile.number)
  let reloaded ← run .daemonReload
  let restored ← run (.restoreServiceState deletion.profile)
  given (envRestored && unitRestored && firewallRestored && reloaded && restored) false
    (verifyCapturedListener deletion.profile deletion.oldPorts)

/-- The removal of the files. -/
def removeFiles : Manager Unit := do
  let envRemoved ← given deletion.envSnapshot.isSome true (removeEnv deletion.profile)
  let unitRemoved ← given deletion.hasUnit true (removeUnit deletion.profile)
  let reloaded ← runWhen (envRemoved ∧ unitRemoved ∧ deletion.hasUnit) .daemonReload
  if envRemoved && unitRemoved && reloaded then pure ()
  else
    dieUnless (← deletion.restoreFiles) "Deletion failed and automatic restoration could not be proven."
    die "Deletion failed; the selected profile was restored."

/-- `delete_tunnel`, from the stopping of the service. -/
def perform : Manager Unit := do
  let disabled ← run (.disableNow deletion.profile)
  if ← runIf disabled (.serviceIsInactiveDisabled deletion.profile) then
    if ← runWhen (deletion.profile.side = .kharej) (.deleteKharejFirewallRules deletion.profile.number) then
      deletion.removeFiles
    else
      dieUnless (← deletion.restoreFirewall) "Firewall removal failed and restoration could not be proven."
      die "Firewall removal failed; the profile and service state were restored."
  else
    dieUnless (← deletion.restoreState)
      "Could not stop/disable the service and exact service-state restoration was not proven."
    die "Could not stop/disable the service; its exact prior service state was restored."

end Deletion

/-- `FIREWALL_ENABLED` as `delete_tunnel` takes it. -/
def firewallOf (side : Side) (loaded : Option ProfileEnv) : Text :=
  match side, loaded with
  | .kharej, some env => env.value Key.firewallEnabled
  | _, _ => []

def envExists (profile : Profile) : Manager Bool := Prog.perform (Op.envExists profile)

def unitExists (profile : Profile) : Manager Bool := Prog.perform (Op.unitExists profile)

/-- `delete_tunnel`. -/
def deleteTunnel : Manager Unit := do
  dieUnless (← run (.ensureCommands ["systemctl"])) "missing required commands"
  let profile ← selectExistingTunnel
  let text ← readEnv profile
  let loaded := text.bind (profileEnvLoad · profile.side)
  let oldPorts := (loaded.bind (profileLocalPortsFromLoaded profile.side)).getD []
  dieUnless (← confirm s!"Stop, disable, and delete only {String.ofList profile.id}?") "delete aborted."
  dieUnless (← runWhen (profile.side = .kharej ∧ firewallOf profile.side loaded = ['1']) .findIptables)
    "iptables is unavailable; service, env, unit, and firewall were preserved."
  let envIsSafe ← run (.validateEnvDestination profile)
  let envStands ← given (!envIsSafe) false (envExists profile)
  dieUnless (!envStands) "unsafe env destination; nothing was deleted."
  let unitIsSafe ← run (.validateUnitDestination profile)
  let unitStands ← given (!unitIsSafe) false (unitExists profile)
  dieUnless (!unitStands) "unsafe unit destination; nothing was deleted."
  dieUnless (← run (.captureServiceState profile))
    "Could not capture exact service state; nothing was changed."
  let envSnapshot ← readEnv profile
  dieUnless (← runWhen envSnapshot.isSome .snapshotManagedFile)
    "Could not snapshot the selected env; nothing was changed."
  let hasUnit ← unitExists profile
  dieUnless (← runWhen hasUnit .snapshotManagedFile)
    "Could not snapshot the selected unit; nothing was changed."
  dieUnless (← runWhen (profile.side = .kharej) (.snapshotKharejFirewallRules profile.number))
    "Could not snapshot the selected firewall rules; nothing was changed."
  Deletion.perform { profile, envSnapshot, hasUnit, oldPorts }

/-! ## Runs -/

/-- The operations of the manager that change profiles. -/
inductive Operation where
  | createKharej
  | createIran
  | clone
  | edit
  | delete
  deriving DecidableEq, Repr

def Operation.body (canonicalizeAllowedSources : Text → Option Text) : Operation → Manager Unit
  | .createKharej => createKharejTunnel canonicalizeAllowedSources
  | .createIran => createIranTunnel canonicalizeAllowedSources
  | .clone => cloneProfile canonicalizeAllowedSources
  | .edit => editProfile canonicalizeAllowedSources
  | .delete => deleteTunnel

/-- The manager, which runs one operation at a time and may be killed in the middle of it. -/
def manager (canonicalizeAllowedSources : Text → Option Text) :
    Machine Op Ans String Unit Operation Empty Host where
  body := Operation.body canonicalizeAllowedSources
  admits _ _ _ := True
  answers _ host _ op a host' := answers host op a host'
  outside _ _ _ := False
  kills := True

/-- The profile has an env file that loads. -/
def Host.Loads (host : Host) (profile : Profile) (env : ProfileEnv) : Prop :=
  isPositiveInteger profile.number = true ∧
    (host.envText profile).bind (profileEnvLoad · profile.side) = some env

/-- Among the profiles whose env files load with such values, no two have a local port in common, and none
has one twice. -/
def Host.PortsDisjoint (such : Side → ProfileEnv → Prop) (host : Host) : Prop :=
  (∀ profile env, host.Loads profile env → such profile.side env →
    ((namedPorts profile.side env).map number).Nodup) ∧
  ∀ profile env profile' env', host.Loads profile env → host.Loads profile' env' →
    such profile.side env → such profile'.side env' → profile ≠ profile' →
    ((namedPorts profile.side env).map number).Disjoint ((namedPorts profile'.side env').map number)

/-- An operator who types these lines and confirms everything, on a host on which every command succeeds. -/
def respond (lines : String → Text) (host : Host) : (op : Op) → Option (Ans op × Host)
  | .read prompt => if '\n' ∈ lines prompt then none else some (lines prompt, host)
  | .promptRequired prompt | .promptSecretConfirmed prompt _ =>
    if '\n' ∈ lines prompt ∨ lines prompt = [] then none else some (lines prompt, host)
  | .selectExistingTunnel => some (host.existingTunnels.head?, host)
  | .discoverExistingTunnels => some (host.existingTunnels, host)
  | .profileIdentityExists profile => some (host.identityExists profile, host)
  | .envExists profile => some ((host.file profile).isSome, host)
  | .unitExists profile => some (host.units.contains profile, host)
  | .nextFreeProfileNumber side => some (host.nextFreeProfileNumber side, host)
  | .readEnv profile => some (host.envText profile, host)
  | .confirm _ | .run _ => some (true, host)
  | .readCapturedServiceState _ => some (some active, host)
  | .prepareKharejFirewallTransition .. => some (.ok 0, host)
  | .writeEnv profile text | .restoreEnv profile text =>
    if host.file profile = some .special then none else some (true, host.writeEnv profile text)
  | .writeUnit profile | .restoreUnit profile => some (true, host.writeUnit profile)
  | .removeEnv profile => some (true, host.removeEnv profile)
  | .removeUnit profile => some (true, host.removeUnit profile)

/-- The operation in which such an operator answers. -/
def scene (canonicalizeAllowedSources : Text → Option Text) (operation : Operation) (lines : String → Text) :
    (manager canonicalizeAllowedSources).Scene :=
  (operation, fun _ host _ op => respond lines host op, 100)

end Profiles
