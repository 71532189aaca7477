import GostManager.Profiles.Operations
import GostManager.Profiles.Proofs.ReadersProofs

/-!
# Proofs: the local ports of a profile

Valid local ports are canonical numerals, each of them once, so that ports agree exactly if their texts do.
They survive the writing and the reading of a profile, whatever its other values are.
-/

namespace Profiles

open Texts Effects

variable {side : Side} {env env' : ProfileEnv} {lines : List Text} {line key value data text : Text}
  {profile other : Profile} {ports : List Text} {port : Text} {host : Host}

/-! ## Valid ports -/

theorem takeWhile_of_mapping {listen target : Text} (h : mapping text = some (listen, target)) :
    text.takeWhile (· ≠ ':') = listen := by
  unfold mapping at h
  obtain ⟨honce, -⟩ := Option.filter_eq_some_iff.1 h
  unfold splitOnce at honce
  split at honce
  · exact (Prod.mk.inj (Option.some.inj honce)).1
  · cases honce

/-- What the loop of `validate_mappings` collects. -/
theorem validatePairs_eq_ok {seen seen' : List Text} (hseen : seen.Nodup)
    (h : lines.foldlM validatePair seen = .ok seen') :
    seen' = seen ++ lines.map (fun pair => pair.takeWhile (· ≠ ':')) ∧ seen'.Nodup ∧
      ∀ port ∈ lines.map (fun pair => pair.takeWhile (· ≠ ':')), isValidPort port = true := by
  induction lines generalizing seen with
  | nil =>
    obtain rfl := Except.ok.inj h
    exact ⟨(List.append_nil _).symm, hseen, nofun⟩
  | cons pair lines ih =>
    rw [List.foldlM_cons] at h
    obtain ⟨next, hpair, hrest⟩ := ok_bind.1 h
    obtain ⟨listen, target, hports, hlisten, -, hnew, rfl⟩ := validatePair_eq_ok.1 hpair
    have hnodup : (seen ++ [listen]).Nodup := by
      rw [List.nodup_append]
      refine ⟨hseen, List.nodup_singleton _, fun a ha b hb => ?_⟩
      obtain rfl := List.mem_singleton.1 hb
      rintro rfl
      exact hnew ha
    obtain ⟨rfl, hall, hvalid⟩ := ih hnodup hrest
    rw [List.map_cons, takeWhile_of_mapping hports]
    refine ⟨by simp, hall, fun port hport => ?_⟩
    rcases List.mem_cons.1 hport with rfl | hport
    · exact hlisten
    · exact hvalid port hport

theorem validateMappings_of_toBool (h : (validateMappings text).toBool = true) :
    ∃ listens, validateMappings text = .ok listens := by
  cases hm : validateMappings text with
  | error message =>
    rw [hm] at h
    cases h
  | ok listens => exact ⟨listens, rfl⟩

/-- Valid ports are valid one by one, and distinct. -/
theorem valid_namedPorts (h : portsAreValid side env = true) :
    (namedPorts side env).Nodup ∧ ∀ port ∈ namedPorts side env, isValidPort port = true := by
  cases side with
  | kharej => exact ⟨List.nodup_singleton _, fun port hport => List.mem_singleton.1 hport ▸ h⟩
  | iran =>
    obtain ⟨listens, hlistens⟩ := validateMappings_of_toBool h
    unfold validateMappings at hlistens
    split at hlistens
    · cases hlistens
    · obtain ⟨rfl, hnodup, hvalid⟩ := validatePairs_eq_ok .nil hlistens
      exact ⟨hnodup, hvalid⟩

/-- Among valid ports, those with the same number are the same. -/
theorem eq_of_number_eq {port' : Text} (h : isValidPort port = true) (h' : isValidPort port' = true)
    (heq : number port = number port') : port = port' :=
  number_inj (isPositiveInteger_of_isValidPort h) (isPositiveInteger_of_isValidPort h') heq

theorem nodup_numbers (h : portsAreValid side env = true) : ((namedPorts side env).map number).Nodup := by
  obtain ⟨hnodup, hvalid⟩ := valid_namedPorts h
  refine List.Nodup.map_on ?_ hnodup
  intro port hport port' hport' heq
  exact eq_of_number_eq (hvalid port hport) (hvalid port' hport') heq

theorem disjoint_numbers {side' : Side} (h : portsAreValid side env = true)
    (h' : portsAreValid side' env' = true) (hports : ∀ port ∈ namedPorts side env, port ∉ namedPorts side' env') :
    ((namedPorts side env).map number).Disjoint ((namedPorts side' env').map number) := by
  intro n hn hn'
  obtain ⟨port, hport, rfl⟩ := List.mem_map.1 hn
  obtain ⟨port', hport', heq⟩ := List.mem_map.1 hn'
  have hsame := eq_of_number_eq ((valid_namedPorts h').2 port' hport') ((valid_namedPorts h).2 port hport) heq
  exact hports port hport (hsame ▸ hport')

/-! ## Ports that are written and read -/

/-- The key that holds the local ports. -/
def portsKey : Side → Text
  | .iran => Key.mappings
  | .kharej => Key.tunnelPort

theorem portsKey_mem : portsKey side ∈ knownKeys side := by
  cases side <;> simp [portsKey, knownKeys]

theorem namedPorts_congr (h : env.value (portsKey side) = env'.value (portsKey side)) :
    namedPorts side env = namedPorts side env' ∧ portsAreValid side env = portsAreValid side env' := by
  cases side with
  | iran =>
    have hmappings : env.value Key.mappings = env'.value Key.mappings := h
    simp only [namedPorts, portsAreValid, hmappings, and_self]
  | kharej =>
    have hport : env.value Key.tunnelPort = env'.value Key.tunnelPort := h
    simp only [namedPorts, portsAreValid, hport, and_self]

/-- The text of valid ports. -/
theorem valid_portsValue (h : portsAreValid side env = true) :
    env.value (portsKey side) ≠ [] ∧ ∀ c ∈ env.value (portsKey side), isValueChar c = true := by
  cases side with
  | iran =>
    obtain ⟨listens, hlistens⟩ := validateMappings_of_toBool h
    refine ⟨?_, fun c hc => isValueChar_of_validateMappings hlistens hc⟩
    intro hnil
    have hmappings : env.value Key.mappings = [] := hnil
    rw [hmappings] at hlistens
    cases hlistens
  | kharej =>
    have hnumeral := isNumeral_of_isPositiveInteger (isPositiveInteger_of_isValidPort h)
    refine ⟨?_, fun c hc => isValueChar_of_isNumeral hnumeral hc⟩
    intro hnil
    have hport : env.value Key.tunnelPort = [] := hnil
    rw [hport] at hnumeral
    cases hnumeral

theorem isKey_of_known (h : key ∈ knownKeys side) :
    (∀ c ∈ key, isKeyChar c = true) ∧ key.head?.any isKeyStart = true := by
  have hall : ((knownKeys side).all fun key => key.all isKeyChar && key.head?.any isKeyStart) = true := by
    cases side <;> rfl
  have hkey := List.all_eq_true.1 hall key h
  rw [Bool.and_eq_true, List.all_eq_true] at hkey
  exact hkey

/-- A known value on one line is read back, if the file loads. -/
theorem value_of_written (hkey : key ∈ knownKeys side) (hvalue : env.value key ≠ [])
    (hchars : ∀ c ∈ env.value key, isValueChar c = true)
    (hload : profileEnvLoad (profileEnvWriteLines side env) side = some env') :
    env'.value key = env.value key := by
  obtain ⟨-, hloaded⟩ := loaded_of_profileEnvLoad hload
  have hget : env.value? key = some (env.value key) := by
    unfold ProfileEnv.value at hvalue ⊢
    cases hv : env.value? key with
    | none =>
      rw [hv] at hvalue
      exact absurd rfl hvalue
    | some v => rfl
  have hassignment : assignment (assign key (env.value key)) = some (key, env.value key) :=
    assignment_assign (isKey_of_known hkey).1 (isKey_of_known hkey).2
  have hfeed : '\n' ∉ assign key (env.value key) := by
    intro hmem
    have hboundary : isValueChar '\n' = true := by
      rcases List.mem_append.1 hmem with hmem | hmem
      · exact isValueChar_of_isKeyChar ((isKey_of_known hkey).1 _ hmem)
      · rcases List.mem_cons.1 hmem with heq | hmem
        · cases heq
        · exact hchars _ hmem
    cases hboundary
  have hwritten : assign key (env.value key) ∈
      ((knownKeys side).filterMap fun key => (env.value? key).map (assign key)) ++
        env.preserved.filter (· ≠ []) :=
    List.mem_append_left _ (List.mem_filterMap.2 ⟨key, hkey, by rw [hget]; rfl⟩)
  have hread : assign key (env.value key) ∈ readLines (profileEnvWriteLines side env) := by
    have hpart := mem_splitOn_flatten hwritten hfeed
    rcases readLines_eq (profileEnvWriteLines side env) with heq | heq
    · rw [heq]
      exact hpart
    · have hsplit : assign key (env.value key) ∈ readLines (profileEnvWriteLines side env) ++ [[]] := heq ▸ hpart
      refine (List.mem_append.1 hsplit).resolve_right fun hnil => ?_
      have hempty := List.mem_singleton.1 hnil
      rw [hempty] at hassignment
      cases hassignment
  refine get_eq hloaded.keys ?_
  rw [hloaded.entries]
  refine List.mem_append_right _ (List.mem_filter.2 ⟨List.mem_filterMap.2 ⟨_, hread, hassignment⟩, ?_⟩)
  exact decide_eq_true hkey

/-- The local ports of a profile are those of the file that is written for it. -/
theorem namedPorts_of_written (h : portsAreValid side env = true)
    (hload : profileEnvLoad (profileEnvWriteLines side env) side = some env') :
    namedPorts side env' = namedPorts side env ∧ portsAreValid side env' = true := by
  obtain ⟨hvalue, hchars⟩ := valid_portsValue h
  obtain ⟨hports, hvalid⟩ := namedPorts_congr (value_of_written portsKey_mem hvalue hchars hload)
  exact ⟨hports, hvalid.trans h⟩

/-! ## The host -/

namespace Host

theorem file_writeEnv : (host.writeEnv profile text).file other =
    if profile = other then some (.regular text) else host.file other := by
  unfold file writeEnv
  rw [Lists.find_store]
  split
  · rfl
  · rfl

theorem file_removeEnv : (host.removeEnv profile).file other =
    if other = profile then none else host.file other := by
  unfold file removeEnv
  rw [Lists.find_filter_ne]
  split
  · rfl
  · rfl

@[simp] theorem envText_writeEnv_self : (host.writeEnv profile text).envText profile = some text := by
  unfold envText
  rw [file_writeEnv, if_pos rfl]

theorem envText_writeEnv_of_ne (h : other ≠ profile) :
    (host.writeEnv profile text).envText other = host.envText other := by
  unfold envText
  rw [file_writeEnv, if_neg (Ne.symm h)]

@[simp] theorem envText_removeEnv_self : (host.removeEnv profile).envText profile = none := by
  unfold envText
  rw [file_removeEnv, if_pos rfl]

theorem envText_removeEnv_of_ne (h : other ≠ profile) :
    (host.removeEnv profile).envText other = host.envText other := by
  unfold envText
  rw [file_removeEnv, if_neg h]

@[simp] theorem envText_writeUnit : (host.writeUnit profile).envText other = host.envText other := rfl

@[simp] theorem envText_removeUnit : (host.removeUnit profile).envText other = host.envText other := rfl

/-- A profile whose env file loads is found. -/
theorem mem_existingTunnels (h : host.Loads profile env) : profile ∈ host.existingTunnels := by
  obtain ⟨hnumber, hload⟩ := h
  obtain ⟨text, htext, -⟩ := Option.bind_eq_some_iff.1 hload
  unfold existingTunnels
  rw [List.mem_insertionSort, List.mem_dedup, List.mem_filter]
  refine ⟨List.mem_append_right _ ?_, hnumber⟩
  unfold envText file at htext
  cases hfind : Lists.find Prod.fst profile host.envs with
  | none =>
    rw [hfind] at htext
    cases htext
  | some entry =>
    unfold Lists.find at hfind
    have hkey : entry.1 = profile := by simpa using List.find?_some hfind
    exact List.mem_map.2 ⟨entry, List.mem_of_find?_eq_some hfind, hkey⟩

end Host

/-- The check of the bytes is made once for all files. -/
theorem loaded_eq (text : Option Text) : ((text.filter isPlain).bind fun text => profileEnvLoad text side true) =
    text.bind (profileEnvLoad · side) := by
  cases text with
  | none => rfl
  | some text =>
    by_cases h : isPlain text = true
    · simp [Option.filter, h, profileEnvLoad]
    · simp [Option.filter, h, profileEnvLoad]

/-- The inventory has the local ports of every profile whose env file loads with valid ports. -/
theorem mem_inventory (h : host.Loads profile env) (hvalid : portsAreValid profile.side env = true)
    (hport : port ∈ namedPorts profile.side env) :
    (port, profile) ∈ host.existingTunnels.flatMap fun profile => inventoryLines profile (host.envText profile) := by
  refine List.mem_flatMap.2 ⟨profile, Host.mem_existingTunnels h, ?_⟩
  unfold inventoryLines
  dsimp only
  rw [loaded_eq, h.2]
  have hports : profileLocalPortsFromLoaded profile.side env = some (namedPorts profile.side env) := if_pos hvalid
  rw [Option.bind_some, hports]
  exact List.mem_map.2 ⟨port, hport, rfl⟩

end Profiles
