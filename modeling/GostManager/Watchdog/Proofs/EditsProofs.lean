import GostManager.Watchdog.Edits
import GostManager.Watchdog.Proofs.ConfigurationProofs

/-!
# Proofs: edits of the file of a profile

An edit sets the values it is about and keeps the others, or it is refused and the file stays as it is.
-/

namespace Watchdog

open Effects Lists Profiles Texts

variable {values entries old : Values} {key value text : Text} {file : OverridesFile} {fate : WriteFate}
  {globalConfig : Loading GlobalConfig} {args : ConfigureArgs} {setting : Setting}

/-! ## Values that are set -/

theorem valueOf_store {entry : Text × Text} : valueOf (store Prod.fst entry values) key =
    if entry.1 = key then some entry.2 else valueOf values key := by
  rw [valueOf, find_store]
  split <;> rfl

/-- What is set has its value, and the others keep theirs. -/
theorem valueOf_setValues (h : (entries.map (·.1)).Nodup) :
    valueOf (setValues values entries) key = (valueOf entries key).or (valueOf values key) := by
  induction entries generalizing values with
  | nil => rfl
  | cons entry entries ih =>
    rw [List.map_cons, List.nodup_cons] at h
    have hfirst : valueOf (entry :: entries) key =
        if entry.1 = key then some entry.2 else valueOf entries key := by
      rw [valueOf, find, List.find?_cons]
      by_cases hkey : entry.1 = key
      · simp [hkey]
      · simp [hkey, valueOf, find]
    rw [setValues, List.foldl_cons, ← setValues, ih h.2, valueOf_store, hfirst]
    by_cases hkey : entry.1 = key
    · have hnone : valueOf entries key = none := by
        rw [← Option.not_isSome_iff_eq_none, valueOf_isSome, ← hkey]
        exact h.1
      rw [if_pos hkey, if_pos hkey, hnone]
      rfl
    · rw [if_neg hkey, if_neg hkey]

theorem setValues_ne_nil (h : entries ≠ []) : setValues values entries ≠ [] := by
  induction entries using List.reverseRecOn with
  | nil => exact absurd rfl h
  | append_singleton entries entry ih =>
    rw [setValues, List.foldl_append, List.foldl_cons, List.foldl_nil]
    intro hnil
    have hmem : entry.1 ∈ (store Prod.fst entry (setValues values entries)).map Prod.fst :=
      mem_keys_store.mpr (.inl rfl)
    rw [setValues, hnil] at hmem
    cases hmem

/-! ## The file -/

theorem atomicWriteConfig_outcomes :
    ((∃ error, (atomicWriteConfig fate text file).1 = .error error) ∧
        (atomicWriteConfig fate text file).2 = file) ∨
      (atomicWriteConfig fate text file).2 = .readable text := by
  unfold atomicWriteConfig
  split
  · exact .inl ⟨⟨_, rfl⟩, rfl⟩
  · split
    · exact .inl ⟨⟨_, rfl⟩, rfl⟩
    · exact .inr rfl
  · split
    · exact .inl ⟨⟨_, rfl⟩, rfl⟩
    · exact .inr rfl

/-- Values that are written are read back. -/
theorem writeProfileValues_ends (h : values ≠ []) :
    EditEnds file (fun values' => ∀ key, valueOf values' key = valueOf values key)
      (writeProfileValues globalConfig fate values file) := by
  simp only [writeProfileValues]
  split
  · exact .inl ⟨⟨_, rfl⟩, rfl⟩
  · rename_i text hrendered
    obtain ⟨globalConfig, _, hrendered⟩ := bind_eq_ok.mp hrendered
    obtain ⟨config, hconfig, hrendered⟩ := bind_eq_ok.mp hrendered
    obtain ⟨text', values', hrender, hparse, hvalues, _⟩ := renderProfileValues_roundTrip h hconfig
    cases hrender.symm.trans hrendered
    rcases atomicWriteConfig_outcomes with hrefused | hwritten
    · exact .inl hrefused
    · exact .inr ⟨text, values', hwritten, hparse, hvalues⟩

theorem existingProfileValues_readable (h : parseProfileValues text = .ok old) :
    existingProfileValues (.readable text) = .ok old := by
  simp only [existingProfileValues, h]

theorem EditEnds.imp {Expected Expected' : Values → Prop} {result : Except AdminExn Unit × OverridesFile}
    (h : EditEnds file Expected result) (himp : ∀ values, Expected values → Expected' values) :
    EditEnds file Expected' result := by
  rcases h with hrefused | ⟨text, values, hfile, hparse, hexpected⟩
  · exact .inl hrefused
  · exact .inr ⟨text, values, hfile, hparse, himp values hexpected⟩

/-! ## The commands -/

theorem setValues_sets {mode : Option Mode} {numbers : Setting → Option Int} (h : (entries.map (·.1)).Nodup)
    (hmode : valueOf entries modeKey = mode.map Mode.text)
    (hsetting : ∀ setting : Setting,
      valueOf entries setting.key = (numbers setting).map fun n => (toString n).toList)
    (hvalues : ∀ key, valueOf values key = valueOf (setValues old entries) key) :
    Sets mode numbers old values where
  mode := by rw [hvalues, valueOf_setValues h, hmode]
  setting setting := by rw [hvalues, valueOf_setValues h, hsetting]

theorem setModeEdit_ends {mode : Mode} (h : parseProfileValues text = .ok old) :
    EditEnds (.readable text) (Sets (some mode) (fun _ => none) old)
      (setModeEdit globalConfig fate mode (.readable text)) := by
  rw [setModeEdit, edit, existingProfileValues_readable h]
  refine (writeProfileValues_ends (setValues_ne_nil (List.cons_ne_nil _ _))).imp fun values hvalues => ?_
  have hnodup : ([(modeKey, mode.text)].map (·.1)).Nodup := List.nodup_singleton _
  refine setValues_sets hnodup ?_ (fun setting => ?_) hvalues
  · rw [valueOf_singleton, if_pos rfl]
    rfl
  · rw [valueOf_singleton, if_neg modeKey_ne_key]
    rfl

/-- The entries for the numbers that are given. -/
def ConfigureArgs.numbers (args : ConfigureArgs) : Values :=
  Setting.all.filterMap fun setting => (args.setting setting).map fun n => (setting.key, (toString n).toList)

theorem entries_eq (h : args.entries = .ok entries) :
    entries = (args.mode.map fun mode => (modeKey, mode.text)).toList ++ args.numbers := by
  obtain ⟨numbers, hnumbers, h⟩ := bind_eq_ok.mp h
  cases h
  have hstr : ∀ (given : Setting × Int) (entry : Text × Text),
      (do return (given.1.key, ← str given.2) : Loading (Text × Text)) = .ok entry →
        entry = (given.1.key, (toString given.2).toList) := by
    intro given entry hentry
    obtain ⟨number, hnumber, hentry⟩ := bind_eq_ok.mp hentry
    cases hentry
    unfold str at hnumber
    split at hnumber
    · cases hnumber
    · cases hnumber
      rfl
  rw [eq_map_of_mapM hnumbers hstr, List.map_filterMap, ConfigureArgs.numbers]
  congr 2
  funext setting
  rw [Option.map_map]
  rfl

theorem mem_numbers {entry : Text × Text} : entry ∈ args.numbers ↔
    ∃ setting n, args.setting setting = some n ∧ (setting.key, (toString n).toList) = entry := by
  simp only [ConfigureArgs.numbers, List.mem_filterMap, Option.map_eq_some_iff]
  refine exists_congr fun setting => and_iff_right ?_
  cases setting <;> decide

theorem key_inj {setting' : Setting} (h : setting.key = setting'.key) : setting = setting' := by
  have hnodup : (Setting.all.map Setting.key).Nodup := by decide +kernel
  refine List.inj_on_of_nodup_map hnodup ?_ ?_ h
  · cases setting <;> decide
  · cases setting' <;> decide

theorem nodup_numbers : (args.numbers.map (·.1)).Nodup := by
  have hsublist : args.numbers.map (·.1) = (Setting.all.filter fun setting => (args.setting setting).isSome).map
      Setting.key := by
    rw [ConfigureArgs.numbers, List.map_filterMap, ← List.filterMap_eq_filter, List.map_filterMap]
    congr 1
    funext setting
    cases hn : args.setting setting <;> simp [Option.guard, hn]
  rw [hsublist]
  refine List.Nodup.sublist (List.filter_sublist.map _) ?_
  decide +kernel

/-- The keys of the entries are different, and each has the value that was given. -/
theorem entries_sets (h : args.entries = .ok entries) : (entries.map (·.1)).Nodup ∧
    valueOf entries modeKey = args.mode.map Mode.text ∧
    ∀ setting : Setting, valueOf entries setting.key = (args.setting setting).map fun n => (toString n).toList := by
  have hnumbers : ∀ value, (modeKey, value) ∉ args.numbers := by
    intro value hmem
    obtain ⟨setting, n, _, hentry⟩ := mem_numbers.mp hmem
    exact modeKey_ne_key (Prod.mk.inj hentry).1.symm
  have hnodup : (entries.map (·.1)).Nodup := by
    rw [entries_eq h]
    cases args.mode with
    | none => exact nodup_numbers
    | some mode =>
      refine List.nodup_cons.mpr ⟨fun hmem => ?_, nodup_numbers⟩
      obtain ⟨⟨key, value⟩, hentry, hkey⟩ := List.mem_map.mp hmem
      have heq : key = modeKey := hkey
      exact hnumbers value (heq ▸ hentry)
  refine ⟨hnodup, Option.ext fun value => ?_, fun setting => Option.ext fun value => ?_⟩
  · rw [valueOf_eq_some hnodup, entries_eq h, List.mem_append, or_iff_left (hnumbers value), Option.mem_toList]
    simp
  · have hmode : (setting.key, value) ∉ (args.mode.map fun mode => (modeKey, mode.text)).toList := by
      simp [modeKey_ne_key]
    rw [valueOf_eq_some hnodup, entries_eq h, List.mem_append, or_iff_right hmode, mem_numbers,
      Option.map_eq_some_iff]
    constructor
    · rintro ⟨setting', n, hn, hentry⟩
      obtain ⟨hkey, hvalue⟩ := Prod.mk.inj hentry
      rw [← key_inj hkey]
      exact ⟨n, hn, hvalue⟩
    · rintro ⟨n, hn, rfl⟩
      exact ⟨setting, n, hn, rfl⟩

theorem configureProfile_ends {profile : Except AdminExn ManagedProfile} (h : parseProfileValues text = .ok old) :
    EditEnds (.readable text) (Sets args.mode args.setting old)
      (configureProfile profile globalConfig fate args (.readable text)) := by
  unfold configureProfile
  split
  · exact .inl ⟨⟨_, rfl⟩, rfl⟩
  split
  · exact .inl ⟨⟨_, rfl⟩, rfl⟩
  rw [existingProfileValues_readable h]
  cases hentries : args.entries with
  | error error => exact .inl ⟨⟨_, rfl⟩, rfl⟩
  | ok entries =>
    obtain ⟨hnodup, hmode, hsetting⟩ := entries_sets hentries
    cases entries with
    | nil => exact .inl ⟨⟨_, rfl⟩, rfl⟩
    | cons entry entries =>
      exact (writeProfileValues_ends (setValues_ne_nil (List.cons_ne_nil _ _))).imp fun values hvalues =>
        setValues_sets hnodup hmode hsetting hvalues

/-! ## Round trips -/

/-- Configurations are read back from their renderings, and an edit sets what it is about and nothing else. -/
theorem configuration_roundTrip :
    (∀ text config, parseGlobalConfig text = .ok config →
      ∃ rendered, renderGlobalConfig config = .ok rendered ∧ parseGlobalConfig rendered = .ok config) ∧
    (∀ values globalConfig config, values ≠ [] → profileConfigFromMapping values globalConfig = .ok config →
      ∃ text values', renderProfileValues values globalConfig = .ok text ∧
        parseProfileValues text = .ok values' ∧ (∀ key, valueOf values' key = valueOf values key) ∧
        parseProfileConfig text globalConfig = .ok config) ∧
    ∀ text old, parseProfileValues text = .ok old → ∀ globalConfig fate,
      (∀ mode, EditEnds (.readable text) (Sets (some mode) (fun _ => none) old)
        (setModeEdit globalConfig fate mode (.readable text))) ∧
      ∀ profile args, EditEnds (.readable text) (Sets args.mode args.setting old)
        (configureProfile profile globalConfig fate args (.readable text)) :=
  ⟨fun _ _ => renderGlobalConfig_roundTrip, fun _ _ _ => renderProfileValues_roundTrip,
    fun _ _ h _ _ => ⟨fun _ => setModeEdit_ends h, fun _ _ => configureProfile_ends h⟩⟩

/-- A global configuration, a profile of one line, and that profile when its interval is set. -/
theorem configuration_roundTrip_monitor :
    (∃ rendered, renderGlobalConfig { checkIntervalSeconds := 5 } = .ok rendered ∧
      parseGlobalConfig rendered = .ok { checkIntervalSeconds := 5 }) ∧
    (∃ text values', renderProfileValues [(modeKey, "monitor".toList)] {} = .ok text ∧
      parseProfileValues text = .ok values' ∧
      (∀ key, valueOf values' key = valueOf [(modeKey, "monitor".toList)] key) ∧
      parseProfileConfig text {} = .ok { mode := .monitor }) ∧
    EditEnds (.readable "MODE=monitor\n".toList)
      (Sets none (ConfigureArgs.setting { checkInterval := some 5 }) [(modeKey, "monitor".toList)])
      (configureProfile (.ok nervousProfile) (.ok {}) .succeeds { checkInterval := some 5 }
        (.readable "MODE=monitor\n".toList)) := by
  refine ⟨configuration_roundTrip.1 (renderValues globalKeys (globalEntries { checkIntervalSeconds := 5 })) _ ?_,
    configuration_roundTrip.2.1 _ _ _ (List.cons_ne_nil _ _) ?_,
    (configuration_roundTrip.2.2 _ _ ?_ _ _).2 _ _⟩
  · decide +kernel
  · rfl
  · decide +kernel

/-- To set the mode that is there already changes no value. -/
theorem not_setModeEdit_differs : ¬ ∀ text old globalConfig fate mode, parseProfileValues text = .ok old →
    EditEnds (.readable text) (fun values => ∀ key, valueOf values key ≠ valueOf old key ↔ key = modeKey)
      (setModeEdit globalConfig fate mode (.readable text)) := by
  intro h
  rcases h "MODE=monitor\n".toList [(modeKey, "monitor".toList)] (.ok {}) .succeeds .monitor (by decide +kernel)
    with ⟨⟨_, herror⟩, _⟩ | ⟨text, values, hfile, hparse, hvalues⟩
  · have hok : (setModeEdit (.ok {}) .succeeds .monitor (.readable "MODE=monitor\n".toList)).1 = .ok () := by
      decide +kernel
    cases hok.symm.trans herror
  · have hwritten : (setModeEdit (.ok {}) .succeeds .monitor (.readable "MODE=monitor\n".toList)).2 =
        .readable "MODE=monitor\n".toList := by
      decide +kernel
    cases hwritten.symm.trans hfile
    have hsame : parseProfileValues "MODE=monitor\n".toList = .ok [(modeKey, "monitor".toList)] := by
      decide +kernel
    cases hsame.symm.trans hparse
    exact (hvalues modeKey).mpr rfl rfl

end Watchdog
