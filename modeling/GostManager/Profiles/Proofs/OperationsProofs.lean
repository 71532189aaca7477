import GostManager.Effects.Proofs.MachineProofs
import GostManager.Profiles.Proofs.PortsProofs

/-!
# Proofs: local ports stay disjoint

An operation of the manager reads until it has compared the ports of its candidate with those of all other
profiles, and from then on it only puts the candidate, the old text or nothing in the place of one env file.
The ports are disjoint in each of these states.
-/

namespace Profiles

open Texts Effects Effects.Prog

variable {α β : Type} {side : Side} {env env' : ProfileEnv} {text snapshot : Text} {profile other : Profile}
  {ports : List Text} {host s s' : Host} {command : Command} {canonicalizeAllowedSources : Text → Option Text}

/-! ## What may stand in the place of a file -/

/-- Profiles count whose ports the manager accepts. -/
def Counts (side : Side) (env : ProfileEnv) : Prop := portsAreValid side env = true

/-- The ports of a text are not those of another profile of the host. -/
def Fits (host : Host) (profile : Profile) (text : Text) : Prop :=
  isPositiveInteger profile.number = true → ∀ env, profileEnvLoad text profile.side = some env → Counts profile.side env →
    ∀ other env', other ≠ profile → host.Loads other env' → Counts other.side env' →
      ((namedPorts profile.side env).map number).Disjoint ((namedPorts other.side env').map number)

/-- A host that differs at most in one env file, in whose place is a text that fits, or nothing. -/
structure Near (host : Host) (profile : Profile) (s : Host) : Prop where
  others : ∀ other, other ≠ profile → s.envText other = host.envText other
  own : ∀ text, s.envText profile = some text → Fits host profile text

theorem loads_congr (h : s.envText profile = host.envText profile) : s.Loads profile env ↔ host.Loads profile env := by
  unfold Host.Loads
  rw [h]

theorem fits_of_disjoint (h : host.PortsDisjoint Counts) (htext : host.envText profile = some text) :
    Fits host profile text := by
  intro hnumber env hload hcounts other env' hne hother hother'
  refine h.2 profile env other env' ⟨hnumber, ?_⟩ hother hcounts hother' hne.symm
  rw [htext]
  exact hload

theorem disjoint_of_near (h : host.PortsDisjoint Counts) (hs : Near host profile s) :
    s.PortsDisjoint Counts := by
  have hother : ∀ {other env}, other ≠ profile → s.Loads other env → host.Loads other env :=
    fun hne hload => (loads_congr (hs.others _ hne)).1 hload
  have hown : ∀ {env}, s.Loads profile env → Counts profile.side env → ∀ other env', other ≠ profile →
      host.Loads other env' → Counts other.side env' →
      ((namedPorts profile.side env).map number).Disjoint ((namedPorts other.side env').map number) := by
    rintro env ⟨hnumber, hload⟩
    obtain ⟨text, htext, hload⟩ := Option.bind_eq_some_iff.1 hload
    exact hs.own text htext hnumber env hload
  refine ⟨fun p env _ hcounts => nodup_numbers hcounts, ?_⟩
  intro p env p' env' hload hload' hcounts hcounts' hne
  by_cases hp : p = profile
  · subst hp
    exact hown hload hcounts p' env' hne.symm (hother hne.symm hload') hcounts'
  · by_cases hp' : p' = profile
    · subst hp'
      exact (hown hload' hcounts' p env hne (hother hne hload) hcounts).symm
    · exact h.2 p env p' env' (hother hp hload) (hother hp' hload') hcounts hcounts' hne

/-! ## The operations of the manager -/

/-- What an operation can do to the env files. -/
theorem envs_of_answers {op : Op} {a : Ans op} (h : answers s op a s') :
    s'.envText = s.envText ∨
    (∃ profile text, (op = .writeEnv profile text ∨ op = .restoreEnv profile text) ∧
      s' = s.writeEnv profile text) ∨
    ∃ profile, op = .removeEnv profile ∧ s' = s.removeEnv profile := by
  cases op
  case writeEnv profile text =>
    cases a with
    | false => exact .inl (congrArg Host.envText h)
    | true => exact .inr (.inl ⟨profile, text, .inl rfl, h.2⟩)
  case restoreEnv profile text =>
    cases a with
    | false =>
      rcases h with h | h
      · exact .inl (congrArg Host.envText h)
      · exact .inr (.inl ⟨profile, text, .inr rfl, h⟩)
    | true => exact .inr (.inl ⟨profile, text, .inr rfl, h.2⟩)
  case removeEnv profile =>
    cases a with
    | false => exact .inl (congrArg Host.envText h)
    | true => exact .inr (.inr ⟨profile, rfl, h⟩)
  case writeUnit profile =>
    cases a with
    | false => exact .inl (congrArg Host.envText h)
    | true =>
      obtain rfl : s' = s.writeUnit profile := h
      exact .inl rfl
  case restoreUnit profile =>
    cases a with
    | false =>
      rcases h with h | rfl
      · exact .inl (congrArg Host.envText h)
      · exact .inl rfl
    | true =>
      obtain rfl : s' = s.writeUnit profile := h
      exact .inl rfl
  case removeUnit profile =>
    cases a with
    | false => exact .inl (congrArg Host.envText h)
    | true =>
      obtain rfl : s' = s.removeUnit profile := h
      exact .inl rfl
  all_goals
    first
    | exact .inl (congrArg Host.envText h)
    | exact .inl (congrArg Host.envText h.2)
    | exact .inl (congrArg Host.envText h.2.2)

/-- An operation that puts nothing in the place of an env file but such texts. -/
def Op.Puts (profile : Profile) (texts : Text → Prop) : Op → Prop
  | .writeEnv other text | .restoreEnv other text => other = profile ∧ texts text
  | .removeEnv other => other = profile
  | _ => True

theorem near_writeEnv (hs : Near host profile s) (hfits : Fits host profile text) :
    Near host profile (s.writeEnv profile text) := by
  refine ⟨fun other hne => (Host.envText_writeEnv_of_ne hne).trans (hs.others other hne), fun text' htext => ?_⟩
  rw [Host.envText_writeEnv_self] at htext
  exact Option.some.inj htext ▸ hfits

theorem near_removeEnv (hs : Near host profile s) : Near host profile (s.removeEnv profile) := by
  refine ⟨fun other hne => (Host.envText_removeEnv_of_ne hne).trans (hs.others other hne), fun text htext => ?_⟩
  rw [Host.envText_removeEnv_self] at htext
  cases htext

theorem near_of_puts {op : Op} {a : Ans op} (hop : op.Puts profile (Fits host profile)) (hs : Near host profile s)
    (h : answers s op a s') : Near host profile s' := by
  rcases envs_of_answers h with htexts | ⟨other, text, hput, rfl⟩ | ⟨other, rfl, rfl⟩
  · exact ⟨fun other hne => by rw [htexts]; exact hs.others other hne, fun text htext => hs.own text (htexts ▸ htext)⟩
  · rcases hput with rfl | rfl
    · obtain ⟨rfl, hfits⟩ := hop
      exact near_writeEnv hs hfits
    · obtain ⟨rfl, hfits⟩ := hop
      exact near_writeEnv hs hfits
  · obtain rfl := hop
    exact near_removeEnv hs

/-! ## Sound programs -/

/-- What is asked of the manager: the ports are disjoint whenever an operation is issued. -/
def disjointly : Contract Op Ans Host where
  answers := answers
  guard host _ := host.PortsDisjoint Counts

/-- The ports are disjoint throughout a program and at its end, if they are at its beginning. -/
def Sound (p : Manager α) : Prop :=
  ∀ host, host.PortsDisjoint Counts → wp disjointly p (fun _ s => s.PortsDisjoint Counts) host

theorem Sound.bind {p : Manager α} {f : α → Manager β} (hp : Sound p) (hf : ∀ a, Sound (f a)) :
    Sound (p >>= f) := by
  intro host hhost
  refine wp_bind.2 (wp_mono (hp host hhost) fun r s hs => ?_)
  cases r with
  | error e => exact hs
  | ok a => exact hf a s hs

theorem sound_pure {a : α} : Sound (pure a : Manager α) := fun _ h => h

theorem sound_die {message : String} : Sound (die message : Manager α) := fun _ h => h

theorem Sound.ite {c : Prop} [Decidable c] {p q : Manager α} (hp : Sound p) (hq : Sound q) :
    Sound (if c then p else q) := by
  split
  · exact hp
  · exact hq

/-- A program that puts only texts that fit in the place of one file is sound. -/
theorem wp_of_puts {p : Manager α} (hp : p.Issues (Op.Puts profile (Fits host profile)))
    (hhost : host.PortsDisjoint Counts) (hs : Near host profile s) :
    wp disjointly p (fun _ s => s.PortsDisjoint Counts) s :=
  wp_mono (hp.wp (fun _ _ _ _ hA hop ha => near_of_puts hop hA ha)
    (fun _ _ hA _ => disjoint_of_near hhost hA) hs) fun _ _ hs => disjoint_of_near hhost hs

/-- An operation that changes no env file is sound. -/
theorem sound_perform {op : Op} (h : ∀ {s s' : Host} {a : Ans op}, answers s op a s' → s'.envText = s.envText) :
    Sound (Prog.perform op : Manager (Ans op)) := by
  intro host hhost
  refine ⟨hhost, fun a s' ha => ?_⟩
  have hnear : ∀ {profile env}, s'.Loads profile env ↔ host.Loads profile env := by
    intro profile env
    exact loads_congr (congrFun (h ha) profile)
  refine ⟨fun p env hload => hhost.1 p env (hnear.1 hload), ?_⟩
  intro p env p' env' hload hload'
  exact hhost.2 p env p' env' (hnear.1 hload) (hnear.1 hload')

/-! ## Comparing ports -/

/-- The loop of `configured_port_inventory`. -/
theorem wp_inventoryOf {profiles : List Profile} (hhost : host.PortsDisjoint Counts) :
    wp disjointly (inventoryOf profiles) (Post (fun inventory s => s = host ∧
      inventory = profiles.flatMap fun profile => inventoryLines profile (host.envText profile))
      (fun s => s = host)) host := by
  induction profiles with
  | nil => exact ⟨rfl, rfl⟩
  | cons profile profiles ih =>
    unfold inventoryOf
    refine Post.bind (φ := fun text s => s = host ∧ text = host.envText profile) ⟨hhost, ?_⟩ ?_
    · rintro text s' ⟨rfl, rfl⟩
      exact ⟨rfl, rfl⟩
    · rintro text s' ⟨rfl, rfl⟩
      refine Post.bind ih ?_
      rintro inventory s' ⟨rfl, rfl⟩
      exact ⟨rfl, by rw [List.flatMap_cons]⟩

/-- No port of the candidate is a local port of another profile. -/
def NoConflict (host : Host) (candidate : Profile) (ports : List Text) : Prop :=
  ∀ other env, other ≠ candidate → host.Loads other env → Counts other.side env →
    ∀ port ∈ ports, port ∉ namedPorts other.side env

theorem noConflict_of_findSome? (h : ports.findSome? (conflict (host.existingTunnels.flatMap fun profile =>
    inventoryLines profile (host.envText profile)) profile) = none) : NoConflict host profile ports := by
  intro other env hne hload hcounts port hport hmem
  have hnone := List.findSome?_eq_none_iff.1 h port hport
  have hfind := List.find?_eq_none.1 hnone (port, other) (mem_inventory hload hcounts hmem)
  exact hfind (decide_eq_true ⟨rfl, hne⟩)

theorem wp_validateConfiguredPorts (hhost : host.PortsDisjoint Counts) :
    wp disjointly (validateConfiguredPorts profile ports)
      (Post (fun _ s => s = host ∧ NoConflict host profile ports) (fun s => s = host)) host := by
  unfold validateConfiguredPorts configuredPortInventory
  refine Post.bind (φ := fun inventory s => s = host ∧ inventory = host.existingTunnels.flatMap fun profile =>
    inventoryLines profile (host.envText profile)) ?_ ?_
  · refine Post.bind (φ := fun profiles s => s = host ∧ profiles = host.existingTunnels) ⟨hhost, ?_⟩ ?_
    · rintro profiles s' ⟨rfl, rfl⟩
      exact ⟨rfl, rfl⟩
    · rintro profiles s' ⟨rfl, rfl⟩
      exact wp_inventoryOf hhost
  · rintro inventory s' ⟨rfl, rfl⟩
    split
    · rfl
    · next hnone => exact ⟨rfl, noConflict_of_findSome? hnone⟩

theorem wp_run {Q : Except String Bool → Host → Prop} (hhost : host.PortsDisjoint Counts)
    (h : ∀ b, Q (.ok b) host) : wp disjointly (run command) Q host := by
  refine ⟨hhost, ?_⟩
  rintro a s' rfl
  exact h a

theorem wp_dieUnless {holds : Bool} {message : String} {Q : Except String Unit → Host → Prop}
    (h : holds = true → Q (.ok ()) host) (h' : holds = false → Q (.error message) host) :
    wp disjointly (dieUnless holds message) Q host := by
  cases holds with
  | true => exact h rfl
  | false => exact h' rfl

/-- The candidate as it is read back fits the host, if it passes the check. -/
theorem wp_validateProfilePortsBeforeWrite {selected : Option Profile} {unchanged : List Text}
    (hhost : host.PortsDisjoint Counts) (hcounts : Counts profile.side env) :
    wp disjointly
      (validateProfilePortsBeforeWrite profile env (namedPorts profile.side env) selected unchanged)
      (Post (fun env' s => s = host ∧ Fits host profile (profileEnvWriteLines profile.side env'))
        (fun s => s = host)) host := by
  unfold validateProfilePortsBeforeWrite
  refine Post.bind (wp_validateConfiguredPorts hhost) ?_
  rintro ⟨⟩ s' ⟨rfl, hconflict⟩
  split
  · rfl
  · next env' hload =>
    have hfits : Fits s' profile (profileEnvWriteLines profile.side env') := by
      obtain ⟨hports, hcounts'⟩ := namedPorts_of_written hcounts hload
      intro _ env'' hload' _ other envOther hne hother hotherCounts
      obtain ⟨hports', -⟩ := namedPorts_of_written hcounts' hload'
      rw [hports', hports]
      exact disjoint_numbers hcounts hotherCounts (hconflict other envOther hne hother hotherCounts)
    refine wp_bind.2 (wp_run hhost fun b => ?_)
    refine wp_bind.2 (wp_dieUnless (fun _ => ?_) fun _ => rfl)
    refine wp_bind.2 (wp_run hhost fun b => ?_)
    exact wp_bind.2 (wp_dieUnless (fun _ => ⟨rfl, hfits⟩) fun _ => rfl)

/-! ## Questions and commands -/

theorem sound_run : Sound (run command) := sound_perform fun h => congrArg Host.envText h

theorem sound_given {needed : Prop} [Decidable needed] {otherwise : Bool} {part : Manager Bool}
    (h : Sound part) : Sound (given needed otherwise part) := Sound.ite h sound_pure

theorem sound_runWhen {needed : Prop} [Decidable needed] : Sound (runWhen needed command) :=
  sound_given sound_run

theorem sound_confirm {prompt : String} : Sound (confirm prompt) := sound_perform fun h => congrArg Host.envText h

theorem sound_promptDefault {prompt : String} {default : Text} : Sound (promptDefault prompt default) :=
  Sound.bind (sound_perform fun h => congrArg Host.envText h.2) fun _ => sound_pure

theorem sound_promptRequired {prompt : String} : Sound (promptRequired prompt) :=
  sound_perform fun h => congrArg Host.envText h.2.2

theorem sound_promptSecretConfirmed {prompt : String} {allowBlank : Bool} :
    Sound (promptSecretConfirmed prompt allowBlank) := sound_perform fun h => congrArg Host.envText h.2.2

theorem sound_identityExists : Sound (identityExists profile) :=
  sound_perform fun h => congrArg Host.envText h.2

theorem sound_dieUnless {holds : Bool} {message : String} : Sound (dieUnless holds message) :=
  Sound.ite sound_pure sound_die

theorem sound_checked {check : Except String α} : Sound (checked check) := by
  cases check with
  | ok a => exact sound_pure
  | error message => exact sound_die

theorem sound_canonicalizeOrDie {sources : Text} {message : String} :
    Sound (canonicalizeOrDie canonicalizeAllowedSources sources message) := by
  unfold canonicalizeOrDie
  split
  · exact sound_pure
  · exact sound_die

theorem sound_selectExistingTunnel : Sound selectExistingTunnel := by
  refine Sound.bind (sound_perform fun h => congrArg Host.envText h.2) fun selected => ?_
  cases selected with
  | some profile => exact sound_pure
  | none => exact sound_die

theorem sound_promptProfileNumber {prompt : String} : Sound (promptProfileNumber side prompt) := by
  refine Sound.bind (sound_perform fun h => congrArg Host.envText h.2) fun suggested => ?_
  cases suggested with
  | none => exact sound_die
  | some suggested =>
    refine Sound.bind sound_promptDefault fun number => ?_
    refine Sound.bind sound_checked fun _ => ?_
    refine Sound.bind sound_identityExists fun existing => ?_
    exact Sound.bind sound_dieUnless fun _ => sound_pure

/-! ## Ways forth and back -/

section Puts

variable {texts : Text → Prop} {needed : Prop} [Decidable needed] {holds : Bool} {message : String}

theorem puts_run : (run command).Issues (Op.Puts profile texts) := ⟨trivial, fun _ => trivial⟩

theorem puts_given {otherwise : Bool} {part : Manager Bool} (h : part.Issues (Op.Puts profile texts)) :
    (given needed otherwise part).Issues (Op.Puts profile texts) := Issues.ite h trivial

theorem puts_runIf : (runIf holds command).Issues (Op.Puts profile texts) := puts_given puts_run

theorem puts_runWhen : (runWhen needed command).Issues (Op.Puts profile texts) := puts_given puts_run

theorem puts_dieUnless : (dieUnless holds message).Issues (Op.Puts profile texts) := Issues.ite trivial trivial

theorem puts_writeEnv (h : texts text) : (writeEnv profile text).Issues (Op.Puts profile texts) :=
  ⟨⟨rfl, h⟩, fun _ => trivial⟩

theorem puts_restoreEnv (h : texts snapshot) : (restoreEnv profile snapshot).Issues (Op.Puts profile texts) :=
  ⟨⟨rfl, h⟩, fun _ => trivial⟩

theorem puts_removeEnv : (removeEnv profile).Issues (Op.Puts profile texts) := ⟨rfl, fun _ => trivial⟩

theorem puts_confirm {prompt : String} : (confirm prompt).Issues (Op.Puts profile texts) :=
  ⟨trivial, fun _ => trivial⟩

/-- A way back that ends the script. -/
theorem puts_giveUp {p : Manager Bool} {message' : String} (h : p.Issues (Op.Puts profile texts)) :
    (do dieUnless (← p) message; die message' : Manager Unit).Issues (Op.Puts profile texts) :=
  Issues.bind h fun _ => Issues.bind puts_dieUnless fun _ => trivial

theorem puts_rollbackNewProfile : (rollbackNewProfile profile holds).Issues (Op.Puts profile texts) := by
  refine Issues.bind puts_runWhen fun stopped => ?_
  refine Issues.bind puts_runWhen fun returned => ?_
  refine Issues.bind puts_dieUnless fun _ => ?_
  refine Issues.bind puts_runWhen fun restored => ?_
  refine Issues.bind puts_dieUnless fun _ => ?_
  refine Issues.bind ⟨trivial, fun _ => trivial⟩ fun unitRemoved => ?_
  refine Issues.bind puts_removeEnv fun envRemoved => ?_
  exact puts_giveUp puts_runIf

theorem puts_activateNewProfile (h : texts (profileEnvWriteLines profile.side env)) :
    (activateNewProfile canonicalizeAllowedSources profile env ports holds).Issues (Op.Puts profile texts) := by
  refine Issues.bind (puts_writeEnv h) fun envWritten => ?_
  refine Issues.bind (puts_given ⟨trivial, fun _ => trivial⟩) fun unitWritten => ?_
  refine Issues.bind (puts_given puts_run) fun firewalled => ?_
  refine Issues.bind puts_runIf fun reloaded => ?_
  refine Issues.bind puts_runIf fun captured => ?_
  refine Issues.bind puts_runIf fun enabled => ?_
  refine Issues.bind puts_runIf fun verified => ?_
  exact Issues.ite trivial puts_rollbackNewProfile

theorem puts_readCapturedServiceState : (readCapturedServiceState profile).Issues (Op.Puts other texts) :=
  ⟨trivial, fun _ => trivial⟩

theorem puts_verifyCapturedListener :
    (verifyCapturedListener profile ports).Issues (Op.Puts other texts) := by
  refine Issues.bind puts_readCapturedServiceState fun state => ?_
  cases state with
  | none => trivial
  | some state => exact Issues.ite puts_run trivial

theorem puts_verifyListenerForCapturedState :
    (verifyListenerForCapturedState profile ports).Issues (Op.Puts other texts) := by
  refine Issues.bind puts_readCapturedServiceState fun state => ?_
  cases state with
  | none => trivial
  | some state => exact Issues.ite (Issues.ite trivial puts_run) trivial

section Recovery

variable {recovery : Recovery} (h : texts recovery.snapshot)
include h

omit h in
theorem puts_rollbackFirewall : recovery.rollbackFirewall.Issues (Op.Puts profile texts) :=
  Issues.ite puts_run puts_run

omit h in
theorem puts_finishFirewall : recovery.finishFirewall.Issues (Op.Puts profile texts) :=
  Issues.ite puts_run puts_run

theorem puts_rollbackProtectedKharejEdit :
    recovery.rollbackProtectedKharejEdit.Issues (Op.Puts recovery.profile texts) := by
  refine Issues.bind puts_readCapturedServiceState fun state => ?_
  cases state with
  | none => trivial
  | some state =>
    refine Issues.bind (puts_restoreEnv h) fun envRestored => ?_
    refine Issues.bind puts_run fun stopped => Issues.ite ?_ trivial
    refine Issues.bind puts_rollbackFirewall fun firewallRestored => ?_
    refine Issues.bind puts_runIf fun stateRestored => ?_
    exact Issues.ite puts_verifyListenerForCapturedState trivial

theorem puts_rollbackKharejFirewallEdit :
    recovery.rollbackKharejFirewallEdit.Issues (Op.Puts recovery.profile texts) := by
  refine Issues.bind (puts_restoreEnv h) fun envRestored => ?_
  exact Issues.bind puts_rollbackFirewall fun firewallRestored => trivial

theorem puts_migrateProtectedPort : recovery.migrateProtectedPort.Issues (Op.Puts recovery.profile texts) := by
  have hmove : recovery.moveService.Issues (Op.Puts recovery.profile texts) := by
    refine Issues.bind puts_readCapturedServiceState fun state => ?_
    cases state with
    | none => trivial
    | some state => exact Issues.ite (Issues.bind puts_run fun restarted => puts_runIf) puts_runIf
  refine Issues.bind hmove fun moved => ?_
  refine Issues.bind (puts_given puts_finishFirewall) fun finished => ?_
  exact Issues.ite trivial (puts_giveUp (puts_rollbackProtectedKharejEdit h))

theorem puts_rollbackRestart : recovery.rollbackRestart.Issues (Op.Puts recovery.profile texts) := by
  refine Issues.ite (puts_rollbackProtectedKharejEdit h) ?_
  refine Issues.bind (puts_restoreEnv h) fun envRestored => ?_
  refine Issues.bind puts_run fun stopped => Issues.ite ?_ trivial
  refine Issues.bind puts_run fun stateRestored => ?_
  exact Issues.bind puts_verifyListenerForCapturedState fun verified => trivial

theorem puts_restartEdited : recovery.restartEdited.Issues (Op.Puts recovery.profile texts) := by
  refine Issues.bind puts_confirm fun restarts => Issues.ite ?_ trivial
  refine Issues.bind puts_run fun restarted => ?_
  refine Issues.bind puts_runIf fun verified => ?_
  exact Issues.ite trivial (puts_giveUp (puts_rollbackRestart h))

theorem puts_saveEdit (henv : texts (profileEnvWriteLines recovery.profile.side env)) :
    (recovery.saveEdit env).Issues (Op.Puts recovery.profile texts) := by
  refine Issues.bind (puts_writeEnv henv) fun written => Issues.ite (Issues.ite ?_ ?_) ?_
  · exact puts_migrateProtectedPort h
  · refine Issues.bind (puts_given puts_finishFirewall) fun finished => ?_
    refine Issues.ite (puts_giveUp (puts_rollbackKharejFirewallEdit h)) ?_
    exact Issues.ite (puts_restartEdited h) trivial
  · exact puts_giveUp (puts_given (puts_rollbackKharejFirewallEdit h))

end Recovery

section Deletion

variable {deletion : Deletion}

theorem puts_restoreFiles (h : ∀ snapshot, deletion.envSnapshot = some snapshot → texts snapshot) :
    deletion.restoreFiles.Issues (Op.Puts deletion.profile texts) := by
  have hsnapshot : deletion.restoreSnapshot.Issues (Op.Puts deletion.profile texts) := by
    unfold Deletion.restoreSnapshot
    split
    · next snapshot hsome => exact puts_restoreEnv (h snapshot hsome)
    · trivial
  refine Issues.bind hsnapshot fun envRestored => ?_
  refine Issues.bind (puts_given ⟨trivial, fun _ => trivial⟩) fun unitRestored => ?_
  refine Issues.bind puts_runWhen fun firewallRestored => ?_
  refine Issues.bind puts_run fun reloaded => ?_
  refine Issues.bind puts_run fun restored => ?_
  exact puts_given puts_verifyCapturedListener

theorem puts_perform (h : ∀ snapshot, deletion.envSnapshot = some snapshot → texts snapshot) :
    deletion.perform.Issues (Op.Puts deletion.profile texts) := by
  refine Issues.bind puts_run fun disabled => ?_
  refine Issues.bind puts_runIf fun stopped => Issues.ite ?_ ?_
  · refine Issues.bind puts_runWhen fun firewalled => Issues.ite ?_ ?_
    · refine Issues.bind (puts_given puts_removeEnv) fun envRemoved => ?_
      refine Issues.bind (puts_given ⟨trivial, fun _ => trivial⟩) fun unitRemoved => ?_
      refine Issues.bind puts_runWhen fun reloaded => ?_
      exact Issues.ite trivial (puts_giveUp (puts_restoreFiles h))
    · refine puts_giveUp ?_
      refine Issues.bind puts_run fun firewallRestored => ?_
      refine Issues.bind puts_run fun restored => ?_
      exact puts_given puts_verifyCapturedListener
  · refine puts_giveUp ?_
    refine Issues.bind puts_run fun restored => ?_
    exact puts_given puts_verifyCapturedListener

end Deletion

end Puts

/-! ## The five operations -/

theorem near_self (hhost : host.PortsDisjoint Counts) : Near host profile host :=
  ⟨fun _ _ => rfl, fun _ htext => fits_of_disjoint hhost htext⟩

theorem counts_of_localPorts (h : profileLocalPortsFromLoaded side env = some ports) :
    Counts side env ∧ ports = namedPorts side env := by
  unfold profileLocalPortsFromLoaded at h
  split at h
  · next hvalid => exact ⟨hvalid, (Option.some.inj h).symm⟩
  · cases h

/-- A check that passes, with what it tells. -/
theorem wp_checked {check : Except String α} {Q : Except String α → Host → Prop}
    (h : ∀ a, check = .ok a → Q (.ok a) host) (h' : ∀ message, Q (.error message) host) :
    wp disjointly (checked check) Q host := by
  cases check with
  | ok a => exact h a rfl
  | error message => exact h' message

theorem sound_installNewProfileFromLoaded {startProfile : Bool} :
    Sound (installNewProfileFromLoaded canonicalizeAllowedSources profile env startProfile) := by
  refine Sound.bind sound_checked fun _ => ?_
  refine Sound.bind sound_identityExists fun existing => ?_
  refine Sound.bind sound_dieUnless fun _ => ?_
  refine Sound.bind sound_checked fun _ => ?_
  refine Sound.bind sound_runWhen fun found => ?_
  refine Sound.bind sound_dieUnless fun _ => ?_
  split
  · exact sound_die
  · next ports hports =>
    obtain ⟨hcounts, rfl⟩ := counts_of_localPorts hports
    intro host hhost
    refine wp_bind.2 (wp_mono (wp_validateProfilePortsBeforeWrite hhost hcounts) fun r s hs => ?_)
    cases r with
    | error message =>
      obtain rfl : s = host := hs
      exact hhost
    | ok env' =>
      obtain ⟨rfl, hfits⟩ := hs
      have hputs : (do
          dieUnless (← run .ensureProfileDirectories) "unsafe GOST env directory."
          dieUnless (← runWhen (profile.side = .kharej) (.snapshotKharejFirewallRules profile.number)) ""
          activateNewProfile canonicalizeAllowedSources profile env' (namedPorts profile.side env) startProfile :
          Manager Unit).Issues (Op.Puts profile (Fits s profile)) := by
        refine Issues.bind puts_run fun ready => ?_
        refine Issues.bind puts_dieUnless fun _ => ?_
        refine Issues.bind puts_runWhen fun saved => ?_
        refine Issues.bind puts_dieUnless fun _ => ?_
        exact puts_activateNewProfile hfits
      exact wp_of_puts hputs hhost (near_self hhost)

theorem sound_createKharejTunnel : Sound (createKharejTunnel canonicalizeAllowedSources) := by
  refine Sound.bind sound_run fun found => ?_
  refine Sound.bind sound_dieUnless fun _ => ?_
  refine Sound.bind sound_promptProfileNumber fun profile => ?_
  refine Sound.bind sound_promptDefault fun label => ?_
  refine Sound.bind sound_checked fun _ => ?_
  refine Sound.bind sound_promptDefault fun port => ?_
  refine Sound.bind sound_checked fun _ => ?_
  refine Sound.bind sound_promptDefault fun user => ?_
  refine Sound.bind sound_checked fun _ => ?_
  refine Sound.bind sound_promptSecretConfirmed fun password => ?_
  refine Sound.bind sound_checked fun _ => ?_
  refine Sound.bind sound_promptRequired fun sources => ?_
  refine Sound.bind sound_canonicalizeOrDie fun sources => ?_
  refine Sound.bind sound_confirm fun enabled => ?_
  refine Sound.bind sound_runWhen fun found => ?_
  refine Sound.bind sound_dieUnless fun _ => ?_
  refine Sound.bind sound_confirm fun creates => ?_
  refine Sound.bind sound_dieUnless fun _ => ?_
  exact sound_installNewProfileFromLoaded

theorem sound_createIranTunnel : Sound (createIranTunnel canonicalizeAllowedSources) := by
  refine Sound.bind sound_run fun found => ?_
  refine Sound.bind sound_dieUnless fun _ => ?_
  refine Sound.bind sound_promptProfileNumber fun profile => ?_
  refine Sound.bind sound_promptDefault fun label => ?_
  refine Sound.bind sound_checked fun _ => ?_
  refine Sound.bind sound_promptRequired fun host => ?_
  refine Sound.bind sound_checked fun _ => ?_
  refine Sound.bind sound_promptDefault fun port => ?_
  refine Sound.bind sound_checked fun _ => ?_
  refine Sound.bind sound_promptDefault fun user => ?_
  refine Sound.bind sound_checked fun _ => ?_
  refine Sound.bind sound_promptSecretConfirmed fun password => ?_
  refine Sound.bind sound_checked fun _ => ?_
  refine Sound.bind sound_promptRequired fun mappings => ?_
  refine Sound.bind sound_checked fun _ => ?_
  refine Sound.bind sound_confirm fun creates => ?_
  refine Sound.bind sound_dieUnless fun _ => ?_
  exact sound_installNewProfileFromLoaded

theorem sound_readEnv : Sound (readEnv profile) := sound_perform fun h => congrArg Host.envText h.2

theorem sound_promptClone {source : ProfileEnv} {user password : Text} :
    Sound (promptClone canonicalizeAllowedSources side source user password) := by
  cases side with
  | iran =>
    refine Sound.bind sound_promptDefault fun host => ?_
    refine Sound.bind sound_promptDefault fun port => ?_
    exact Sound.bind sound_promptDefault fun mappings => sound_pure
  | kharej =>
    refine Sound.bind sound_promptDefault fun port => ?_
    refine Sound.bind sound_promptDefault fun sources => ?_
    refine Sound.bind sound_canonicalizeOrDie fun sources => ?_
    refine Sound.bind sound_promptDefault fun firewall => ?_
    refine Sound.bind (sound_given sound_confirm) fun applies => ?_
    refine Sound.bind sound_runWhen fun found => ?_
    exact Sound.bind sound_dieUnless fun _ => sound_pure

theorem sound_promptCredentials {source : ProfileEnv} : Sound (promptCredentials source) := by
  refine Sound.bind sound_confirm fun reuse => Sound.ite sound_pure ?_
  refine Sound.bind sound_promptRequired fun user => ?_
  exact Sound.bind sound_promptSecretConfirmed fun password => sound_pure

theorem sound_cloneProfile : Sound (cloneProfile canonicalizeAllowedSources) := by
  refine Sound.bind sound_run fun found => ?_
  refine Sound.bind sound_dieUnless fun _ => ?_
  refine Sound.bind sound_selectExistingTunnel fun selected => ?_
  refine Sound.bind sound_readEnv fun text => ?_
  split
  · exact sound_die
  · next source _ =>
    refine Sound.bind sound_checked fun _ => ?_
    refine Sound.bind sound_promptCredentials fun credentials => ?_
    refine Sound.bind sound_checked fun _ => ?_
    refine Sound.bind sound_checked fun _ => ?_
    refine Sound.bind sound_promptProfileNumber fun profile => ?_
    refine Sound.bind sound_promptDefault fun label => ?_
    refine Sound.bind sound_checked fun _ => ?_
    refine Sound.bind sound_promptClone fun env => ?_
    refine Sound.bind sound_checked fun _ => ?_
    refine Sound.bind sound_confirm fun creates => Sound.ite ?_ sound_pure
    refine Sound.bind sound_confirm fun starts => ?_
    exact sound_installNewProfileFromLoaded

theorem sound_promptEdit {old : ProfileEnv} : Sound (promptEdit canonicalizeAllowedSources side old) := by
  refine Sound.bind sound_promptDefault fun label => ?_
  refine Sound.bind sound_checked fun _ => ?_
  refine Sound.bind sound_promptDefault fun user => ?_
  refine Sound.bind sound_checked fun _ => ?_
  refine Sound.bind sound_promptSecretConfirmed fun secret => ?_
  refine Sound.bind sound_checked fun _ => ?_
  cases side with
  | iran =>
    refine Sound.bind sound_promptDefault fun host => ?_
    refine Sound.bind sound_promptDefault fun port => ?_
    exact Sound.bind sound_promptDefault fun mappings => sound_pure
  | kharej =>
    refine Sound.bind sound_promptDefault fun port => ?_
    refine Sound.bind sound_promptDefault fun sources => ?_
    refine Sound.bind sound_canonicalizeOrDie fun sources => ?_
    exact Sound.bind sound_promptDefault fun firewall => sound_pure

/-- A program that leaves the host as it is. -/
def Reading (p : Manager α) : Prop :=
  ∀ host, host.PortsDisjoint Counts → wp disjointly p (fun _ s => s = host) host

theorem Reading.andThen {p : Manager α} {f : α → Manager β} {Q : Except String β → Host → Prop}
    (hp : Reading p) (hhost : host.PortsDisjoint Counts) (hf : ∀ a, wp disjointly (f a) Q host)
    (he : ∀ message, Q (.error message) host) : wp disjointly (p >>= f) Q host := by
  refine wp_bind.2 (wp_mono (hp host hhost) fun r s hs => ?_)
  subst hs
  cases r with
  | error message => exact he message
  | ok a => exact hf a

theorem reading_run : Reading (run command) := fun _ hhost => ⟨hhost, fun _ _ h => h⟩

theorem reading_confirm {prompt : String} : Reading (confirm prompt) := fun _ hhost => ⟨hhost, fun _ _ h => h⟩

theorem reading_given {needed : Prop} [Decidable needed] {otherwise : Bool} {part : Manager Bool}
    (h : Reading part) : Reading (given needed otherwise part) := by
  intro host hhost
  exact wp_ite.2 ⟨fun _ => h host hhost, fun _ => rfl⟩

theorem reading_dieUnless {holds : Bool} {message : String} : Reading (dieUnless holds message) :=
  fun _ _ => wp_ite.2 ⟨fun _ => rfl, fun _ => rfl⟩

theorem reading_prepareFirewall {edit : Edit} : Reading (prepareFirewall profile edit) := by
  intro host hhost
  unfold prepareFirewall
  refine wp_ite.2 ⟨fun _ => wp_bind.2 ⟨hhost, ?_⟩, fun _ => rfl⟩
  rintro status s' rfl
  rcases status with (_ | _ | _) | _ <;> rfl

/-- Reading the env file of a profile tells its text. -/
theorem wp_readEnv {Q : Except String (Option Text) → Host → Prop} (hhost : host.PortsDisjoint Counts)
    (h : Q (.ok (host.envText profile)) host) : wp disjointly (readEnv profile) Q host := by
  refine ⟨hhost, ?_⟩
  rintro text s' ⟨rfl, rfl⟩
  exact h

/-- From the check of its ports on, an edit puts its candidate or the old text in the place of the file. -/
theorem wp_applyEdit {edit : Edit} {oldPorts newPorts : List Text} (hhost : host.PortsDisjoint Counts)
    (hfits : Fits host profile (profileEnvWriteLines profile.side env)) :
    wp disjointly (applyEdit profile edit env oldPorts newPorts) (fun _ s => s.PortsDisjoint Counts) host := by
  refine Reading.andThen reading_confirm hhost (fun saves => ?_) fun _ => hhost
  refine Reading.andThen (reading_given reading_confirm) hhost (fun migrates => ?_) fun _ => hhost
  refine wp_ite.2 ⟨fun _ => ?_, fun _ => hhost⟩
  refine Reading.andThen (reading_given reading_run) hhost (fun found => ?_) fun _ => hhost
  refine Reading.andThen reading_dieUnless hhost (fun _ => ?_) fun _ => hhost
  refine wp_bind.2 (wp_readEnv hhost ?_)
  rw [andThen_ok]
  split
  · exact hhost
  · next snapshot htext =>
    refine Reading.andThen reading_run hhost (fun saved => ?_) fun _ => hhost
    refine Reading.andThen reading_dieUnless hhost (fun _ => ?_) fun _ => hhost
    refine Reading.andThen (reading_given reading_run) hhost (fun saved => ?_) fun _ => hhost
    refine Reading.andThen reading_dieUnless hhost (fun _ => ?_) fun _ => hhost
    refine Reading.andThen (reading_given reading_run) hhost (fun captured => ?_) fun _ => hhost
    refine Reading.andThen reading_dieUnless hhost (fun _ => ?_) fun _ => hhost
    refine Reading.andThen reading_prepareFirewall hhost (fun count => ?_) fun _ => hhost
    have hputs : (Recovery.saveEdit { profile, snapshot, oldPorts, newPorts, count, edit } env).Issues
        (Op.Puts profile (Fits host profile)) := by
      refine puts_saveEdit ?_ ?_
      · exact fits_of_disjoint hhost htext
      · exact hfits
    exact wp_of_puts hputs hhost (near_self hhost)

theorem sound_editProfile : Sound (editProfile canonicalizeAllowedSources) := by
  refine Sound.bind sound_run fun found => ?_
  refine Sound.bind sound_dieUnless fun _ => ?_
  refine Sound.bind sound_selectExistingTunnel fun profile => ?_
  refine Sound.bind sound_readEnv fun text => ?_
  split
  · exact sound_die
  · next old _ =>
    refine Sound.bind sound_checked fun _ => ?_
    refine Sound.bind sound_promptEdit fun edit => Sound.ite ?_ sound_pure
    refine Sound.bind sound_checked fun _ => ?_
    split
    · exact sound_die
    · next newPorts hports =>
      obtain ⟨hcounts, rfl⟩ := counts_of_localPorts hports
      intro host hhost
      refine wp_bind.2 (wp_mono (wp_validateProfilePortsBeforeWrite hhost hcounts) fun r s hs => ?_)
      cases r with
      | error message =>
        obtain rfl : s = host := hs
        exact hhost
      | ok env' =>
        obtain ⟨rfl, hfits⟩ := hs
        exact wp_applyEdit hhost hfits

theorem reading_envExists : Reading (envExists profile) := fun _ hhost => ⟨hhost, fun _ _ h => h.2⟩

theorem reading_unitExists : Reading (unitExists profile) := fun _ hhost => ⟨hhost, fun _ _ h => h.2⟩

theorem sound_deleteTunnel : Sound deleteTunnel := by
  refine Sound.bind sound_run fun found => ?_
  refine Sound.bind sound_dieUnless fun _ => ?_
  refine Sound.bind sound_selectExistingTunnel fun profile => ?_
  refine Sound.bind sound_readEnv fun text => ?_
  refine Sound.bind sound_confirm fun deletes => ?_
  refine Sound.bind sound_dieUnless fun _ => ?_
  refine Sound.bind sound_runWhen fun found => ?_
  refine Sound.bind sound_dieUnless fun _ => ?_
  intro host hhost
  refine Reading.andThen reading_run hhost (fun envIsSafe => ?_) fun _ => hhost
  refine Reading.andThen (reading_given reading_envExists) hhost (fun envStands => ?_) fun _ => hhost
  refine Reading.andThen reading_dieUnless hhost (fun _ => ?_) fun _ => hhost
  refine Reading.andThen reading_run hhost (fun unitIsSafe => ?_) fun _ => hhost
  refine Reading.andThen (reading_given reading_unitExists) hhost (fun unitStands => ?_) fun _ => hhost
  refine Reading.andThen reading_dieUnless hhost (fun _ => ?_) fun _ => hhost
  refine Reading.andThen reading_run hhost (fun captured => ?_) fun _ => hhost
  refine Reading.andThen reading_dieUnless hhost (fun _ => ?_) fun _ => hhost
  refine wp_bind.2 (wp_readEnv hhost ?_)
  rw [andThen_ok]
  refine Reading.andThen (reading_given reading_run) hhost (fun saved => ?_) fun _ => hhost
  refine Reading.andThen reading_dieUnless hhost (fun _ => ?_) fun _ => hhost
  refine Reading.andThen reading_unitExists hhost (fun hasUnit => ?_) fun _ => hhost
  refine Reading.andThen (reading_given reading_run) hhost (fun saved => ?_) fun _ => hhost
  refine Reading.andThen reading_dieUnless hhost (fun _ => ?_) fun _ => hhost
  refine Reading.andThen (reading_given reading_run) hhost (fun saved => ?_) fun _ => hhost
  refine Reading.andThen reading_dieUnless hhost (fun _ => ?_) fun _ => hhost
  exact wp_of_puts (puts_perform fun snapshot htext => fits_of_disjoint hhost htext) hhost (near_self hhost)

theorem sound_body {operation : Operation} : Sound (operation.body canonicalizeAllowedSources) := by
  cases operation with
  | createKharej => exact sound_createKharejTunnel
  | createIran => exact sound_createIranTunnel
  | clone => exact sound_cloneProfile
  | edit => exact sound_editProfile
  | delete => exact sound_deleteTunnel

/-! ## Runs -/

theorem keeps_portsDisjoint : (manager canonicalizeAllowedSources).Keeps
    (fun host _ => host.PortsDisjoint Counts) (fun _ host _ _ => host.PortsDisjoint Counts)
    (fun _ host _ _ => host.PortsDisjoint Counts) where
  call host _ _ hhost _ :=
    Machine.wp_contract _ (C := disjointly) (fun _ _ _ _ _ ha => ha) (sound_body host hhost)
  finish _ _ _ _ h := h
  alone _ _ _ h := h
  cut _ _ _ _ _ h := h
  cut_last _ _ _ _ _ h := h

/-- In every run of the manager, also in the middle of an operation and after it was killed, the valid local
ports of the profiles are disjoint. -/
theorem portsDisjoint_of_reachable {cfg : (manager canonicalizeAllowedSources).Config}
    (hhost : host.PortsDisjoint Counts) (hr : (manager canonicalizeAllowedSources).Reachable host cfg) :
    cfg.world.PortsDisjoint Counts :=
  keeps_portsDisjoint.always (A := fun host _ => host.PortsDisjoint Counts) (fun _ _ h => h) (fun _ _ _ _ h => h)
    (fun _ _ _ _ h => h) hhost hr

/-! ## A host with one profile -/

theorem respond_answers {lines : String → Text} {op : Op} {a : Ans op} (h : respond lines host op = some (a, s')) :
    answers host op a s' := by
  cases op
  case read prompt =>
    simp only [respond] at h
    split at h
    · cases h
    · next hline =>
      cases h
      exact ⟨hline, rfl⟩
  case promptRequired prompt =>
    simp only [respond] at h
    split at h
    · cases h
    · next hline =>
      cases h
      exact ⟨fun hfeed => hline (.inl hfeed), fun hnil => hline (.inr hnil), rfl⟩
  case promptSecretConfirmed prompt allowBlank =>
    simp only [respond] at h
    split at h
    · cases h
    · next hline =>
      cases h
      exact ⟨fun hfeed => hline (.inl hfeed), fun hnil => absurd (.inr hnil) hline, rfl⟩
  case writeEnv profile text =>
    simp only [respond] at h
    split at h
    · cases h
    · next hfile =>
      cases h
      exact ⟨hfile, rfl⟩
  case restoreEnv profile text =>
    simp only [respond] at h
    split at h
    · cases h
    · next hfile =>
      cases h
      exact ⟨hfile, rfl⟩
  case selectExistingTunnel =>
    cases h
    exact ⟨fun profile hprofile => List.mem_of_mem_head? hprofile, rfl⟩
  all_goals
    cases h
    first
    | rfl
    | exact ⟨rfl, rfl⟩

/-- The Iran profile with such mappings. -/
def iranProfile (mappings : Text) : Text :=
  "GOST_USER=u\nGOST_PASS=p\nKHAREJ_IP=192.0.2.1\nTUNNEL_PORT=8443\nMAPPINGS=".toList ++ mappings ++ ['\n']

def iranHost (mappings : Text) : Host where
  envs := [(⟨.iran, ['1']⟩, .regular (iranProfile mappings))]

/-- What is typed for a Kharej profile with such a port. -/
def kharejLines (port : Text) : String → Text
  | "SOCKS listen port" => port
  | "GOST password" => ['p']
  | "Allowed Iran IPv4/CIDRs, comma-separated (for example 198.51.100.10)" => "198.51.100.10/32".toList
  | _ => []

/-- The creation of a Kharej profile on the host. -/
def kharejCreated (mappings port : Text) : (manager some).Config :=
  (manager some).script (iranHost mappings) [scene some .createKharej (kharejLines port)]

theorem reachable_kharejCreated (mappings port : Text) :
    (manager some).Reachable (iranHost mappings) (kharejCreated mappings port) := by
  refine Machine.reachable_script (Machine.Config.admits_of_forall fun _ _ _ _ => trivial) ?_
  intro scene hscene c w h op a w' hanswer
  obtain rfl := List.mem_singleton.1 hscene
  exact respond_answers hanswer

/-- A profile that is the only one. -/
theorem loads_single (h : Host.Loads { envs := [(other, .regular text)] } profile env) :
    profile = other ∧ profileEnvLoad text other.side = some env := by
  obtain ⟨-, hload⟩ := h
  obtain ⟨text', htext, hload⟩ := Option.bind_eq_some_iff.1 hload
  by_cases hprofile : other = profile
  · subst hprofile
    simp only [Host.envText, Host.file, Lists.find, List.find?_cons, decide_true, Option.map_some,
      Option.some.injEq] at htext
    exact ⟨rfl, htext ▸ hload⟩
  · simp [Host.envText, Host.file, Lists.find, hprofile] at htext

theorem portsDisjoint_single {such : Side → ProfileEnv → Prop}
    (h : ∀ env, profileEnvLoad text other.side = some env → ((namedPorts other.side env).map number).Nodup) :
    Host.PortsDisjoint such { envs := [(other, .regular text)] } := by
  refine ⟨fun profile env hload _ => ?_, fun profile env profile' env' hload hload' _ _ hne => ?_⟩
  · obtain ⟨rfl, hload⟩ := loads_single hload
    exact h env hload
  · exact absurd ((loads_single hload).1.trans (loads_single hload').1.symm) hne

theorem portsDisjoint_of_reachable_kharejCreated :
    (kharejCreated "80:80".toList "443".toList).world.PortsDisjoint Counts := by
  have hload : profileEnvLoad (iranProfile "80:80".toList) .iran = some
      { entries := [(Key.gostUser, ['u']), (Key.gostPass, ['p']), (Key.kharejIp, "192.0.2.1".toList),
          (Key.tunnelPort, "8443".toList), (Key.mappings, "80:80".toList)] } := by decide +kernel
  refine portsDisjoint_of_reachable (portsDisjoint_single fun env henv => ?_)
    (reachable_kharejCreated "80:80".toList "443".toList)
  obtain rfl := Option.some.inj (hload.symm.trans henv)
  decide

def kharejEnv : ProfileEnv where
  entries := [(Key.gostUser, "maya".toList), (Key.gostPass, ['p']), (Key.tunnelPort, "80".toList),
    (Key.allowedIranSources, "198.51.100.10/32".toList), (Key.firewallEnabled, ['1'])]

/-- A profile that loads is not protected if one of its target ports is not valid. -/
theorem not_portsDisjoint_of_reachable : ¬ ∀ (canonicalizeAllowedSources : Text → Option Text) (host : Host)
    (cfg : (manager canonicalizeAllowedSources).Config), host.PortsDisjoint (fun _ _ => True) →
    (manager canonicalizeAllowedSources).Reachable host cfg → cfg.world.PortsDisjoint (fun _ _ => True) := by
  intro h
  have hload : profileEnvLoad (iranProfile "80:80,81:0".toList) .iran = some
      { entries := [(Key.gostUser, ['u']), (Key.gostPass, ['p']), (Key.kharejIp, "192.0.2.1".toList),
          (Key.tunnelPort, "8443".toList), (Key.mappings, "80:80,81:0".toList)] } := by decide +kernel
  have hiran : (kharejCreated "80:80,81:0".toList "80".toList).world.envText ⟨.iran, ['1']⟩ =
      some (iranProfile "80:80,81:0".toList) := by decide +kernel
  have hkharej : ((kharejCreated "80:80,81:0".toList "80".toList).world.envText ⟨.kharej, ['1']⟩).bind
      (profileEnvLoad · .kharej) = some kharejEnv := by decide +kernel
  have hstart : (iranHost "80:80,81:0".toList).PortsDisjoint fun _ _ => True := by
    refine portsDisjoint_single fun env henv => ?_
    obtain rfl := Option.some.inj (hload.symm.trans henv)
    decide
  have hdisjoint := h some _ _ hstart (reachable_kharejCreated "80:80,81:0".toList "80".toList)
  have hports := hdisjoint.2 ⟨.iran, ['1']⟩ _ ⟨.kharej, ['1']⟩ _ ⟨by decide, by rw [hiran]; exact hload⟩
    ⟨by decide, hkharej⟩ trivial trivial (by decide)
  have h80 : 80 ∈ (namedPorts .kharej kharejEnv).map number := by decide
  exact hports (by decide) h80

end Profiles
