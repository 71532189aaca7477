import GostManager.Watchdog.Discovery
import GostManager.Watchdog.Proofs.ConfigurationProofs

/-!
# Proofs: discovery of profiles

What becomes of a profile is told by its own three files. The discovery goes on after each exception but the one
that a number raises when it is too long.
-/

namespace Watchdog

open Effects Lists Profiles Texts

variable {text name : Text} {values : Values} {setting : Setting} {policy : Policy} {files : Files} {n : Number}
  {found : Discovered}

/-! ## What parsers raise -/

theorem parseLine_raises {allowed : List Text} {line : Text × Nat} {error : LoadError}
    (h : parseLine allowed values line = .error error) : error.IsConfigError := by
  simp only [parseLine] at h
  split at h
  · cases h
    exact ⟨_, rfl⟩
  split at h
  · cases h
    exact ⟨_, rfl⟩
  split at h
  · cases h
    exact ⟨_, rfl⟩
  split at h
  · cases h
    exact ⟨_, rfl⟩
  · cases h

theorem parseLines_raises {allowed : List Text} {error : LoadError} {lines : List (Text × Nat)}
    (h : lines.foldlM (parseLine allowed) values = .error error) : error.IsConfigError := by
  induction lines generalizing values with
  | nil => cases h
  | cons line lines ih =>
    rw [List.foldlM_cons] at h
    rcases bind_eq_error.mp h with hline | ⟨values', _, hrest⟩
    · exact parseLine_raises hline
    · exact ih hrest

theorem parseText_raises {allowed : List Text} {requireAll : Bool} {error : LoadError}
    (h : parseText text allowed requireAll = .error error) : error.IsConfigError := by
  unfold parseText at h
  split at h
  · cases h
    exact ⟨_, rfl⟩
  rcases bind_eq_error.mp h with hlines | ⟨values, _, hrest⟩
  · exact parseLines_raises hlines
  · split at hrest
    · cases hrest
      exact ⟨_, rfl⟩
    · cases hrest

theorem readInteger_raises {raw : Text} {error : LoadError} (h : readInteger setting raw = .error error) :
    error.IsConfigError ∨ error = .valueError := by
  simp only [readInteger] at h
  split at h
  · cases h
    exact .inl ⟨_, rfl⟩
  split at h
  · cases h
    exact .inr rfl
  split at h
  · cases h
  · cases h
    exact .inl ⟨_, rfl⟩

theorem settingsFromMapping_raises {defaults : Setting → Int} {error : LoadError} (hdefaults : Textual defaults)
    (h : settingsFromMapping values defaults = .error error) : error.IsConfigError ∨ error = .valueError := by
  simp only [settingsFromMapping, integer_eq hdefaults] at h
  rcases bind_eq_error.mp h with hread | ⟨_, _, h⟩
  · exact readInteger_raises hread
  rcases bind_eq_error.mp h with hread | ⟨_, _, h⟩
  · exact readInteger_raises hread
  split at h
  case isFalse =>
    cases h
    exact .inl ⟨_, rfl⟩
  rcases bind_eq_error.mp h with hread | ⟨_, _, h⟩
  · exact readInteger_raises hread
  rcases bind_eq_error.mp h with hread | ⟨_, _, h⟩
  · exact readInteger_raises hread
  rcases bind_eq_error.mp h with hread | ⟨_, _, h⟩
  · exact readInteger_raises hread
  rcases bind_eq_error.mp h with hread | ⟨_, _, h⟩
  · exact readInteger_raises hread
  · cases h

theorem not_isConfigError_valueError : ¬ LoadError.IsConfigError .valueError := by
  rintro ⟨_, h⟩
  cases h

/-- What is either exception is the first, unless it is the second. -/
theorem onlyRaises_iff {α : Type} {outcome : Loading α}
    (h : ∀ error, outcome = .error error → error.IsConfigError ∨ error = .valueError) :
    OnlyRaises LoadError.IsConfigError outcome ↔ outcome ≠ .error .valueError := by
  constructor
  · exact fun honly hvalue => not_isConfigError_valueError (honly _ hvalue)
  · intro hne error herror
    rcases h error herror with hconfig | rfl
    · exact hconfig
    · exact absurd herror hne

theorem settingsFromMapping_eq_valueError {defaults : Setting → Int} (hdefaults : Textual defaults) :
    settingsFromMapping values defaults = .error .valueError ↔ ∃ setting, Overflows values defaults setting :=
  ⟨overflows_of_valueError hdefaults, fun ⟨_, hover⟩ => valueError_of_overflows hdefaults hover⟩

theorem bind_pure_eq_error {ε α β : Type} {x : Except ε α} {f : α → β} {error : ε} :
    (do return f (← x)) = Except.error error ↔ x = .error error := by
  cases x with
  | error e => exact ⟨fun h => by cases h; rfl, fun h => by cases h; rfl⟩
  | ok a => exact ⟨fun h => (nomatch h), fun h => (nomatch h)⟩

theorem textual_default : Textual ({} : GlobalConfig).setting := fun setting => by
  refine @str_eq_ok setting _ ?_ ?_ <;> cases setting <;> decide

/-! ## Texts that are read -/

theorem parseLine_known {allowed : List Text} {line : Text × Nat} {values' : Values}
    (h : parseLine allowed values line = .ok values') (hknown : ∀ key ∈ values.map (·.1), key ∈ allowed) :
    ∀ key ∈ values'.map (·.1), key ∈ allowed := by
  simp only [parseLine] at h
  split at h
  · cases h
  split at h
  · cases h
  rename_i hallowed
  split at h
  · cases h
  split at h
  · cases h
  · cases h
    intro key hkey
    rw [List.map_append, List.mem_append] at hkey
    rcases hkey with hold | hnew
    · exact hknown key hold
    · rw [List.mem_singleton.mp hnew]
      exact not_not.mp hallowed

theorem parseLines_known {allowed : List Text} {lines : List (Text × Nat)} {values' : Values}
    (h : lines.foldlM (parseLine allowed) values = .ok values')
    (hknown : ∀ key ∈ values.map (·.1), key ∈ allowed) : ∀ key ∈ values'.map (·.1), key ∈ allowed := by
  induction lines generalizing values with
  | nil =>
    cases h
    exact hknown
  | cons line lines ih =>
    rw [List.foldlM_cons] at h
    obtain ⟨values'', hline, hrest⟩ := bind_eq_ok.mp h
    exact ih hrest (parseLine_known hline hknown)

theorem unknownKey_of_parseText {allowed : List Text} {requireAll : Bool}
    (h : parseText text allowed requireAll = .ok values) : unknownKey values allowed = none := by
  unfold parseText at h
  split at h
  · cases h
  obtain ⟨values', hlines, hrest⟩ := bind_eq_ok.mp h
  split at hrest
  · cases hrest
  · cases hrest
    exact unknownKey_eq_none.mpr (parseLines_known hlines fun _ hkey => nomatch hkey)

theorem globalConfigFromMapping_raises {error : LoadError} (h : globalConfigFromMapping values = .error error) :
    error.IsConfigError ∨ error = .valueError := by
  unfold globalConfigFromMapping at h
  split at h
  · cases h
    exact .inl ⟨_, rfl⟩
  split at h
  · cases h
    exact .inl ⟨_, rfl⟩
  · exact settingsFromMapping_raises textual_default (bind_pure_eq_error.mp h)

theorem globalConfigFromMapping_eq_valueError (hknown : unknownKey values globalKeys = none) :
    globalConfigFromMapping values = .error .valueError ↔
      (valueOf values checkModeKey).getD "ping".toList = "ping".toList ∧
        ∃ setting, Overflows values ({} : GlobalConfig).setting setting := by
  rw [globalConfigFromMapping, hknown, ← settingsFromMapping_eq_valueError textual_default]
  by_cases hmode : (valueOf values checkModeKey).getD "ping".toList = "ping".toList
  · rw [and_iff_right hmode]
    simp only [if_neg (not_not.mpr hmode)]
    exact bind_pure_eq_error
  · simp only [ne_eq, hmode, not_false_eq_true, if_true, false_and]
    refine iff_of_false (fun h => ?_) not_false
    cases h

theorem parseGlobalConfig_eq_valueError :
    parseGlobalConfig text = .error .valueError ↔ GlobalOverflows text := by
  constructor
  · intro h
    rcases bind_eq_error.mp h with hparse | ⟨values, hparse, hmapping⟩
    · exact absurd (parseText_raises hparse) not_isConfigError_valueError
    · exact ⟨values, hparse, (globalConfigFromMapping_eq_valueError (unknownKey_of_parseText hparse)).mp hmapping⟩
  · rintro ⟨values, hparse, hover⟩
    exact bind_eq_error.mpr (.inr ⟨values, hparse,
      (globalConfigFromMapping_eq_valueError (unknownKey_of_parseText hparse)).mpr hover⟩)

theorem parseGlobalConfig_onlyRaises :
    OnlyRaises LoadError.IsConfigError (parseGlobalConfig text) ↔ ¬ GlobalOverflows text := by
  rw [← parseGlobalConfig_eq_valueError]
  refine onlyRaises_iff fun error herror => ?_
  rcases bind_eq_error.mp herror with hparse | ⟨values, _, hmapping⟩
  · exact .inl (parseText_raises hparse)
  · exact globalConfigFromMapping_raises hmapping

section Profile

variable {globalConfig : GlobalConfig}

theorem profileConfigFromMapping_raises {error : LoadError} (hvalid : globalConfig.Valid)
    (h : profileConfigFromMapping values globalConfig = .error error) :
    error.IsConfigError ∨ error = .valueError := by
  unfold profileConfigFromMapping at h
  split at h
  · cases h
    exact .inl ⟨_, rfl⟩
  split at h
  · cases h
    exact .inl ⟨_, rfl⟩
  · exact settingsFromMapping_raises (textual_of_valid hvalid) (bind_pure_eq_error.mp h)

theorem profileConfigFromMapping_eq_valueError (hvalid : globalConfig.Valid)
    (hknown : unknownKey values profileKeys = none) :
    profileConfigFromMapping values globalConfig = .error .valueError ↔
      (modeOf ((valueOf values modeKey).getD "disabled".toList)).isSome = true ∧
        ∃ setting, Overflows values globalConfig.setting setting := by
  rw [profileConfigFromMapping, hknown, ← settingsFromMapping_eq_valueError (textual_of_valid hvalid)]
  cases modeOf ((valueOf values modeKey).getD "disabled".toList) with
  | none => simp
  | some mode =>
    rw [and_iff_right Option.isSome_some]
    exact bind_pure_eq_error

theorem parseProfileConfig_eq_valueError (hvalid : globalConfig.Valid) :
    parseProfileConfig text globalConfig = .error .valueError ↔ ProfileOverflows globalConfig text := by
  constructor
  · intro h
    rcases bind_eq_error.mp h with hparse | ⟨values, hparse, hmapping⟩
    · exact absurd (parseText_raises hparse) not_isConfigError_valueError
    · exact ⟨values, hparse,
        (profileConfigFromMapping_eq_valueError hvalid (unknownKey_of_parseText hparse)).mp hmapping⟩
  · rintro ⟨values, hparse, hover⟩
    exact bind_eq_error.mpr (.inr ⟨values, hparse,
      (profileConfigFromMapping_eq_valueError hvalid (unknownKey_of_parseText hparse)).mpr hover⟩)

theorem parseProfileConfig_raises {error : LoadError} (hvalid : globalConfig.Valid)
    (h : parseProfileConfig text globalConfig = .error error) : error.IsConfigError ∨ error = .valueError := by
  rcases bind_eq_error.mp h with hparse | ⟨values, _, hmapping⟩
  · exact .inl (parseText_raises hparse)
  · exact profileConfigFromMapping_raises hvalid hmapping

theorem parseProfileConfig_onlyRaises (hvalid : globalConfig.Valid) :
    OnlyRaises LoadError.IsConfigError (parseProfileConfig text globalConfig) ↔
      ¬ ProfileOverflows globalConfig text := by
  rw [← parseProfileConfig_eq_valueError hvalid]
  exact onlyRaises_iff fun error => parseProfileConfig_raises hvalid

end Profile

theorem loadKharejIp_onlyRaises : OnlyRaises LoadError.IsProfileError (loadKharejIp text) := by
  intro error herror
  unfold loadKharejIp at herror
  split at herror
  · cases herror
  · cases herror
    exact ⟨_, rfl⟩

/-! ## One profile -/

theorem validateManagedFile_raises {uid : Option Nat} {file : Option ManagedFile} {error : LoadError}
    (h : validateManagedFile uid file = .error error) : error.IsProfileError := by
  cases file with
  | none =>
    cases h
    exact ⟨_, rfl⟩
  | some file =>
    simp only [validateManagedFile] at h
    split at h
    · cases h
      exact ⟨_, rfl⟩
    split at h
    · cases h
      exact ⟨_, rfl⟩
    split at h
    · cases h
      exact ⟨_, rfl⟩
    · cases h

theorem validateFileSecurity_raises {file : ManagedFile} {error : LoadError}
    (h : validateFileSecurity policy file = .error error) : error.IsConfigError := by
  unfold validateFileSecurity at h
  split at h
  · cases h
    exact ⟨_, rfl⟩
  split at h
  · cases h
    exact ⟨_, rfl⟩
  split at h
  · cases h
    exact ⟨_, rfl⟩
  split at h
  · cases h
    exact ⟨_, rfl⟩
  · cases h

theorem readText_ne_valueError {read : Except ReadError Text} : readText read ≠ .error .valueError := by
  rcases read with ⟨_ | _⟩ | _
  · rintro ⟨⟩
  · rintro ⟨⟩
  · rintro ⟨⟩

/-- Settings that are left out are not too long. -/
theorem not_overflows {globalConfig : GlobalConfig} (hvalid : globalConfig.Valid)
    (h : valueOf values setting.key = none) : ¬ Overflows values globalConfig.setting setting := by
  intro hover
  have haccepts : Accepts setting (toString (globalConfig.setting setting)).toList :=
    accepts_toString (hvalid.minimum setting) (hvalid.maximum setting)
  have hlong := hover.overlong.long
  rw [rawOf, h, Option.getD_none] at hlong
  exact absurd hlong (Nat.not_lt.mpr haccepts.short)

theorem profileConfigFromMapping_nil (hvalid : policy.globalConfig.Valid) :
    profileConfigFromMapping [] policy.globalConfig ≠ .error .valueError := by
  intro h
  obtain ⟨_, setting, hover⟩ := (profileConfigFromMapping_eq_valueError hvalid rfl).mp h
  exact not_overflows hvalid rfl hover

theorem loadProfileConfig_eq_valueError (hvalid : policy.globalConfig.Valid) {config : Option ManagedFile} :
    loadProfileConfig policy config = .error .valueError ↔
      ∃ file text, config = some file ∧ validateFileSecurity policy file = .ok () ∧ file.ascii = .ok text ∧
        ProfileOverflows policy.globalConfig text := by
  cases config with
  | none =>
    constructor
    · exact fun h => absurd h (profileConfigFromMapping_nil hvalid)
    · rintro ⟨_, _, hconfig, _⟩
      cases hconfig
  | some file =>
    constructor
    · intro h
      rcases bind_eq_error.mp h with hsecurity | ⟨_, hsecurity, hread⟩
      · exact absurd (validateFileSecurity_raises hsecurity) not_isConfigError_valueError
      · cases hascii : file.ascii with
        | error error =>
          rw [hascii] at hread
          cases hread
        | ok text =>
          rw [hascii] at hread
          exact ⟨file, text, rfl, hsecurity, hascii, (parseProfileConfig_eq_valueError hvalid).mp hread⟩
    · rintro ⟨_, text, ⟨rfl⟩, hsecurity, hascii, hover⟩
      refine bind_eq_error.mpr (.inr ⟨(), hsecurity, ?_⟩)
      rw [hascii]
      exact (parseProfileConfig_eq_valueError hvalid).mpr hover

theorem not_isProfileError_valueError : ¬ LoadError.IsProfileError .valueError := by
  rintro ⟨_, h⟩
  cases h

theorem loadKharejIp_eq_ok {kharejIp : Text} :
    loadKharejIp text = .ok kharejIp ↔ parseKharejIpText text = .ok kharejIp := by
  unfold loadKharejIp
  cases parseKharejIpText text with
  | ok kharejIp' => simp
  | error message => simp

/-- When the files of a profile raise what is not caught. -/
theorem discover_eq_valueError (hvalid : policy.globalConfig.Valid) :
    files.discover policy n = .error .valueError ↔ files.Overflow policy n := by
  constructor
  · intro h
    rcases bind_eq_error.mp h with henv | ⟨_, henv, h⟩
    · exact absurd (validateManagedFile_raises henv) not_isProfileError_valueError
    rcases bind_eq_error.mp h with hunit | ⟨_, hunit, h⟩
    · exact absurd (validateManagedFile_raises hunit) not_isProfileError_valueError
    cases hfile : files.env.file n.envName with
    | none =>
      rw [hfile] at henv
      cases henv
    | some file =>
      rw [hfile] at henv h
      rcases bind_eq_error.mp h with hread | ⟨text, hread, h⟩
      · exact absurd hread readText_ne_valueError
      rcases bind_eq_error.mp h with hkharej | ⟨kharejIp, hkharej, h⟩
      · exact absurd (loadKharejIp_onlyRaises _ hkharej) not_isProfileError_valueError
      have hutf8 : file.utf8 = .ok text := by
        cases hutf8 : file.utf8 with
        | error error =>
          rw [hutf8] at hread
          cases hread
        | ok text' =>
          rw [hutf8] at hread
          cases hread
          rfl
      rcases bind_eq_error.mp h with hconfig | ⟨_, _, h⟩
      · exact ⟨⟨file, text, kharejIp, hfile, henv, hutf8, loadKharejIp_eq_ok.mp hkharej⟩, hunit,
          (loadProfileConfig_eq_valueError hvalid).mp hconfig⟩
      · cases h
  · rintro ⟨⟨file, text, kharejIp, hfile, henv, hutf8, hkharej⟩, hunit, hconfig⟩
    rw [Files.discover, hfile]
    refine bind_eq_error.mpr (.inr ⟨(), henv, bind_eq_error.mpr (.inr ⟨(), hunit, ?_⟩)⟩)
    refine bind_eq_error.mpr (.inr ⟨text, ?_, bind_eq_error.mpr (.inr
      ⟨kharejIp, loadKharejIp_eq_ok.mpr hkharej, ?_⟩)⟩)
    · simp only [hutf8]
      rfl
    · exact bind_eq_error.mpr (.inl ((loadProfileConfig_eq_valueError hvalid).mpr hconfig))

/-! ## Names -/

theorem isDigit_of_isNumber {digits : Text} (h : isNumber digits = true) :
    digits ≠ [] ∧ (∀ c ∈ digits, c.isDigit = true) ∧ digits.head? ≠ some '0' := by
  cases digits with
  | nil => cases h
  | cons c cs =>
    simp only [isNumber, Bool.and_eq_true, decide_eq_true_eq, List.all_eq_true] at h
    obtain ⟨⟨hmin, hmax⟩, hrest⟩ := h
    refine ⟨List.cons_ne_nil _ _, ?_, ?_⟩
    · intro d hd
      have hrange : '0' ≤ d ∧ d ≤ '9' := by
        rcases List.mem_cons.mp hd with rfl | hd
        · exact ⟨Char.le_trans (by decide) hmin, hmax⟩
        · exact hrest d hd
      simpa [Char.isDigit, Char.le_def] using hrange
    · rintro ⟨rfl⟩
      exact absurd hmin (by decide)

theorem toNat_of_isNumber {c : Char} (hc : c ∈ n.1) : 48 ≤ c.toNat ∧ c.toNat ≤ 57 := by
  have hdigit := (isDigit_of_isNumber n.2).2.1 c hc
  simpa [Char.isDigit, UInt32.le_iff_toNat_le] using hdigit

/-- The values of the digits of a number. -/
theorem digits_of_isNumber : (∀ d ∈ n.1.map fun c => c.toNat - '0'.toNat, d < 10) ∧
    (n.1.map fun c => c.toNat - '0'.toNat).head? ≠ some 0 ∧
    (n.1.map fun c => c.toNat - '0'.toNat).map (fun d => Char.ofNat (d + '0'.toNat)) = n.1 := by
  have hzero : '0'.toNat = 48 := rfl
  refine ⟨?_, ?_, ?_⟩
  · intro d hd
    obtain ⟨c, hc, rfl⟩ := List.mem_map.mp hd
    have hrange := toNat_of_isNumber hc
    omega
  · rw [List.head?_map]
    intro hnull
    obtain ⟨c, hc, hvalue⟩ := Option.map_eq_some_iff.mp hnull
    have hrange := toNat_of_isNumber (List.mem_of_head? hc)
    have hchar : c = '0' := Char.toNat_inj.mp (by omega)
    exact (isDigit_of_isNumber n.2).2.2 (hchar ▸ hc)
  · rw [List.map_map]
    refine (List.map_congr_left fun c hc => ?_).trans (List.map_id _)
    have hrange := toNat_of_isNumber hc
    have hsum : c.toNat - '0'.toNat + '0'.toNat = c.toNat := by omega
    exact (congrArg Char.ofNat hsum).trans c.ofNat_toNat

/-- Numbers without leading zero are known by their values. -/
theorem value_inj {n' : Number} (h : n.value = n'.value) : n = n' := by
  have hsame := numberOf_inj (by decide) digits_of_isNumber.1 digits_of_isNumber.1 digits_of_isNumber.2.1
    digits_of_isNumber.2.1 h
  have hchars := congrArg (List.map fun d => Char.ofNat (d + '0'.toNat)) hsame
  exact Subtype.ext (digits_of_isNumber.2.2.symm.trans (hchars.trans digits_of_isNumber.2.2))

theorem length_envName : n.envName.length = n.1.length + 9 := by
  have hprefix : "iran-".toList.length = 5 := by decide
  have hsuffix : ".env".toList.length = 4 := by decide
  have hlength : n.envName.length = "iran-".toList.length + n.1.length + ".env".toList.length :=
    List.length_append.trans (congrArg (· + _) List.length_append)
  omega

theorem envName_eq : n.envName = "iran-".toList ++ (n.1 ++ ".env".toList) := List.append_assoc _ _ _

theorem drop_envName : n.envName.drop 5 = n.1 ++ ".env".toList :=
  (congrArg (List.drop 5) envName_eq).trans (List.drop_left' (by decide))

theorem envRe_eq_some : envRe name = some n ↔ name = n.envName := by
  constructor
  · intro h
    simp only [envRe] at h
    split at h
    · split at h
      · rename_i hname
        rw [hname]
        cases h
        rfl
      · cases h
    · cases h
  · rintro rfl
    have hdigits : (n.envName.drop 5).take (n.envName.length - 9) = n.1 := by
      have hlength : n.envName.length - 9 = n.1.length := by
        rw [length_envName]
        omega
      simp only [drop_envName, hlength, List.take_left]
    simp only [envRe, hdigits, n.2, dif_pos, Subtype.coe_eta, if_true]

theorem envName_inj {n' : Number} (h : n.envName = n'.envName) : n = n' := by
  have hsome := envRe_eq_some.mpr h
  rw [envRe_eq_some.mpr rfl] at hsome
  exact Option.some.inj hsome

theorem isGlobbed_envName : isGlobbed n.envName = true := by
  rw [isGlobbed, drop_envName, Bool.and_eq_true, List.isPrefixOf_iff_prefix, List.isSuffixOf_iff_suffix]
  exact ⟨⟨_, envName_eq.symm⟩, List.suffix_append _ _⟩

/-- The key of a name that is not too long. -/
def keyOf (name : Text) : Nat := (envRe name).elim 0 Number.value

theorem candidateKey_eq (h : name.length ≤ 255) : candidateKey name = .ok (keyOf name) := by
  rw [candidateKey, keyOf]
  cases hname : envRe name with
  | none => rfl
  | some n =>
    obtain ⟨hne, hdigits, _⟩ := isDigit_of_isNumber n.2
    have hlength : n.1.length ≤ 255 := by
      rw [envRe_eq_some.mp hname, length_envName] at h
      omega
    simp only [toNat?_ascii hne hdigits, if_neg (show ¬ 4300 < n.1.length by omega)]
    rfl

/-! ## All candidates -/

theorem candidates_eq {envRoot : Directory} : candidates envRoot =
    .ok (((envRoot.files.filter fun file => isGlobbed file.1).map fun file => (keyOf file.1, file)).insertionSort
      fun a b => a.1 ≤ b.1) := by
  rw [candidates, mapM_eq_ok_map]
  · rfl
  · intro file hfile
    rw [candidateKey_eq (envRoot.short file (List.mem_of_mem_filter hfile))]
    rfl

/-- What is tried for a candidate. -/
def attempt (policy : Policy) (files : Files) (candidate : Text × ManagedFile) :
    Option (Number × Loading ManagedProfile) :=
  (envRe candidate.1).map fun n => (n, discoverProfile policy n (some candidate.2) (files.unit.file n.unitName)
    (files.config.file n.configName))

/-- The profile that an attempt gave. -/
def profileOf (attempted : Number × Loading ManagedProfile) : Option (Number × ManagedProfile) :=
  match attempted.2 with
  | .ok profile => some (attempted.1, profile)
  | .error _ => none

/-- The number for which an attempt failed. -/
def errorOf (attempted : Number × Loading ManagedProfile) : Option Number :=
  match attempted.2 with
  | .ok _ => none
  | .error _ => some attempted.1

/-- What a list of attempts adds. -/
def gathered (attempts : List (Number × Loading ManagedProfile)) : Discovered :=
  ((attempts.filterMap profileOf).map (·.2),
    (attempts.filterMap errorOf).map fun n => (some n.profileId, "invalid_profile"))

theorem gathered_ok {profile : ManagedProfile} {attempts : List (Number × Loading ManagedProfile)} :
    gathered ((n, .ok profile) :: attempts) = (profile :: (gathered attempts).1, (gathered attempts).2) := rfl

theorem gathered_error {error : LoadError} {attempts : List (Number × Loading ManagedProfile)} :
    gathered ((n, .error error) :: attempts) =
      ((gathered attempts).1, (some n.profileId, "invalid_profile") :: (gathered attempts).2) := rfl

variable {l : List (Text × ManagedFile)}

/-- The discovery gathers what the attempts gave. -/
theorem discoverCandidates_eq_ok
    (h : ∀ attempted ∈ l.filterMap (attempt policy files),
      attempted.2 ≠ .error .valueError) :
    l.foldlM (discoverCandidate policy files.unit files.config) found =
      .ok (found.1 ++ (gathered (l.filterMap (attempt policy files))).1,
        found.2 ++ (gathered (l.filterMap (attempt policy files))).2) := by
  induction l generalizing found with
  | nil =>
    simp only [List.foldlM_nil, List.filterMap_nil, gathered, List.map_nil, List.append_nil]
    rfl
  | cons candidate l ih =>
    rw [List.foldlM_cons]
    cases hname : envRe candidate.1 with
    | none =>
      have hattempt : attempt policy files candidate = none := by rw [attempt, hname]; rfl
      rw [List.filterMap_cons_none hattempt] at h ⊢
      simp only [discoverCandidate, hname]
      exact ih h
    | some n =>
      have hattempt : attempt policy files candidate = some (n, discoverProfile policy n (some candidate.2)
          (files.unit.file n.unitName) (files.config.file n.configName)) := by rw [attempt, hname]; rfl
      rw [List.filterMap_cons_some hattempt] at h ⊢
      rw [List.forall_mem_cons] at h
      obtain ⟨hfirst, hrest⟩ := h
      simp only [discoverCandidate, hname]
      cases hprofile : discoverProfile policy n (some candidate.2) (files.unit.file n.unitName)
        (files.config.file n.configName) with
      | ok profile =>
        refine (ih hrest).trans ?_
        rw [gathered_ok, List.append_assoc, List.singleton_append]
      | error error =>
        rw [hprofile] at hfirst
        cases error with
        | valueError => exact absurd rfl hfirst
        | osError | unicodeError | configError message | profileError message =>
          refine (ih hrest).trans ?_
          rw [gathered_error, List.append_assoc, List.singleton_append]

theorem discoverCandidates_eq_valueError
    (h : ∃ attempted ∈ l.filterMap (attempt policy files),
      attempted.2 = .error .valueError) :
    l.foldlM (discoverCandidate policy files.unit files.config) found =
      .error .valueError := by
  induction l generalizing found with
  | nil =>
    obtain ⟨_, hmem, _⟩ := h
    cases hmem
  | cons candidate l ih =>
    rw [List.foldlM_cons]
    cases hname : envRe candidate.1 with
    | none =>
      have hattempt : attempt policy files candidate = none := by rw [attempt, hname]; rfl
      rw [List.filterMap_cons_none hattempt] at h
      simp only [discoverCandidate, hname]
      exact ih h
    | some n =>
      have hattempt : attempt policy files candidate = some (n, discoverProfile policy n (some candidate.2)
          (files.unit.file n.unitName) (files.config.file n.configName)) := by rw [attempt, hname]; rfl
      rw [List.filterMap_cons_some hattempt, List.exists_mem_cons_iff] at h
      simp only [discoverCandidate, hname]
      cases hprofile : discoverProfile policy n (some candidate.2) (files.unit.file n.unitName)
        (files.config.file n.configName) with
      | ok profile =>
        rw [hprofile] at h
        exact ih (h.resolve_left fun hfirst => nomatch hfirst)
      | error error =>
        rw [hprofile] at h
        cases error with
        | valueError => rfl
        | osError | unicodeError | configError message | profileError message =>
          exact ih (h.resolve_left fun hfirst => nomatch hfirst)

/-- The candidates in order, without their keys. -/
def sorted (envRoot : Directory) : List (Text × ManagedFile) :=
  (((envRoot.files.filter fun file => isGlobbed file.1).map fun file => (keyOf file.1, file)).insertionSort
    fun a b => a.1 ≤ b.1).map (·.2)

theorem discoverProfiles_eq : discoverProfiles policy (.directory files.env) (.directory files.unit)
    (.directory files.config) =
      (sorted files.env).foldlM (discoverCandidate policy files.unit files.config) ([], []) := by
  simp only [discoverProfiles, candidates_eq, sorted, List.foldlM_map]
  rfl

/-- The candidates are the files that are globbed. -/
theorem perm_sorted {envRoot : Directory} :
    List.Perm (sorted envRoot) (envRoot.files.filter fun file => isGlobbed file.1) := by
  refine ((List.perm_insertionSort _ _).map _).trans (List.Perm.of_eq ?_)
  rw [List.map_map]
  exact List.map_id _

theorem file_eq_some {directory : Directory} {file : ManagedFile} :
    directory.file name = some file ↔ (name, file) ∈ directory.files := by
  rw [Directory.file, Option.map_eq_some_iff]
  constructor
  · rintro ⟨⟨_, _⟩, hfind, rfl⟩
    obtain ⟨hmem, rfl⟩ := (find_eq_some directory.distinct).mp hfind
    exact hmem
  · exact fun hmem => ⟨(name, file), (find_eq_some directory.distinct).mpr ⟨hmem, rfl⟩, rfl⟩

/-- The attempts are about the files of the numbers that are listed. -/
theorem mem_attempts {result : Loading ManagedProfile} :
    (n, result) ∈ (sorted files.env).filterMap (attempt policy files) ↔
      files.Lists n ∧ files.discover policy n = result := by
  rw [List.mem_filterMap]
  constructor
  · rintro ⟨candidate, hcandidate, hattempt⟩
    obtain ⟨m, hname, hresult⟩ := Option.map_eq_some_iff.mp hattempt
    obtain ⟨rfl, rfl⟩ := Prod.mk.inj hresult
    have hmem : candidate ∈ files.env.files := List.mem_of_mem_filter (perm_sorted.mem_iff.mp hcandidate)
    have henv := envRe_eq_some.mp hname
    have hfile : files.env.file m.envName = some candidate.2 := by
      rw [file_eq_some, ← henv]
      exact hmem
    refine ⟨List.mem_map.mpr ⟨candidate, hmem, henv⟩, ?_⟩
    rw [Files.discover, hfile]
  · rintro ⟨hlists, rfl⟩
    obtain ⟨⟨name, file⟩, hmem, hname⟩ := List.mem_map.mp hlists
    have henv : name = n.envName := hname
    subst henv
    refine ⟨(n.envName, file), perm_sorted.mem_iff.mpr (List.mem_filter.mpr ⟨hmem, isGlobbed_envName⟩), ?_⟩
    rw [attempt, envRe_eq_some.mpr rfl, Option.map_some, Files.discover, file_eq_some.mpr hmem]

/-- The attempts come in order of the numbers. -/
theorem attempts_sorted : ((sorted files.env).filterMap (attempt policy files)).Pairwise
    fun a b => a.1.value < b.1.value := by
  have hkeys : (sorted files.env).Pairwise fun a b => keyOf a.1 ≤ keyOf b.1 := by
    rw [sorted, List.pairwise_map]
    refine List.Pairwise.imp_of_mem ?_ (List.pairwise_insertionSort (fun a b : Nat × Text × ManagedFile => a.1 ≤ b.1) _)
    intro a b ha hb hle
    obtain ⟨_, _, rfl⟩ := List.mem_map.mp ((List.mem_insertionSort _).mp ha)
    obtain ⟨_, _, rfl⟩ := List.mem_map.mp ((List.mem_insertionSort _).mp hb)
    exact hle
  have hnames : (sorted files.env).Pairwise fun a b => a.1 ≠ b.1 := by
    have hnodup : ((sorted files.env).map (·.1)).Nodup :=
      (perm_sorted.map _).nodup_iff.mpr (files.env.distinct.sublist (List.filter_sublist.map _))
    exact List.pairwise_map.mp hnodup
  rw [List.pairwise_filterMap]
  refine (hkeys.and hnames).imp fun {a b} h attempted hattempted attempted' hattempted' => ?_
  obtain ⟨m, hm, rfl⟩ := Option.map_eq_some_iff.mp hattempted
  obtain ⟨m', hm', rfl⟩ := Option.map_eq_some_iff.mp hattempted'
  have hle : m.value ≤ m'.value := by
    have hkey := h.1
    rwa [keyOf, keyOf, hm, hm'] at hkey
  refine Nat.lt_of_le_of_ne hle fun heq => h.2 ?_
  rw [envRe_eq_some.mp hm, envRe_eq_some.mp hm']
  exact congrArg Number.envName (value_inj heq)

theorem profileOf_eq_some {attempted : Number × Loading ManagedProfile} {profile : ManagedProfile} :
    profileOf attempted = some (n, profile) ↔ attempted = (n, .ok profile) := by
  obtain ⟨m, result⟩ := attempted
  cases result with
  | ok profile' => simp [profileOf]
  | error error => simp [profileOf]

theorem errorOf_eq_some {attempted : Number × Loading ManagedProfile} :
    errorOf attempted = some n ↔ ∃ error, attempted = (n, .error error) := by
  obtain ⟨m, result⟩ := attempted
  cases result with
  | ok profile' => simp [errorOf]
  | error error => simp [errorOf]

/-- What the attempts gather is in order, and each profile is where its own files say. -/
theorem discovers : Discovers policy files
    (((sorted files.env).filterMap (attempt policy files)).filterMap profileOf)
    (((sorted files.env).filterMap (attempt policy files)).filterMap errorOf) where
  profile n profile := by
    rw [List.mem_filterMap, ← mem_attempts]
    constructor
    · rintro ⟨attempted, hmem, hprofile⟩
      rwa [profileOf_eq_some.mp hprofile] at hmem
    · exact fun hmem => ⟨_, hmem, profileOf_eq_some.mpr rfl⟩
  error n := by
    rw [List.mem_filterMap]
    constructor
    · rintro ⟨attempted, hmem, herror⟩
      obtain ⟨error, rfl⟩ := errorOf_eq_some.mp herror
      exact ⟨(mem_attempts.mp hmem).1, error, (mem_attempts.mp hmem).2⟩
    · rintro ⟨hlists, error, herror⟩
      exact ⟨_, mem_attempts.mpr ⟨hlists, herror⟩, errorOf_eq_some.mpr ⟨error, rfl⟩⟩
  profiles_sorted := by
    rw [List.pairwise_filterMap]
    refine attempts_sorted.imp fun {a b} hlt profile hprofile profile' hprofile' => ?_
    rw [profileOf_eq_some.mp hprofile, profileOf_eq_some.mp hprofile'] at hlt
    exact hlt
  errors_sorted := by
    rw [List.pairwise_filterMap]
    refine attempts_sorted.imp fun {a b} hlt m hm m' hm' => ?_
    obtain ⟨_, rfl⟩ := errorOf_eq_some.mp hm
    obtain ⟨_, rfl⟩ := errorOf_eq_some.mp hm'
    exact hlt

/-- The discovery goes through unless some profile that is listed has a number that is too long. -/
theorem isolates_iff (hvalid : policy.globalConfig.Valid) :
    Isolates policy files ↔ ∀ n, files.Lists n → ¬ files.Overflow policy n := by
  constructor
  · rintro ⟨profiles, errors, hresult, _⟩ n hlists hover
    have hraises : ∃ attempted ∈ (sorted files.env).filterMap (attempt policy files),
        attempted.2 = .error .valueError :=
      ⟨_, mem_attempts.mpr ⟨hlists, rfl⟩, (discover_eq_valueError hvalid).mpr hover⟩
    rw [discoverProfiles_eq, discoverCandidates_eq_valueError hraises] at hresult
    cases hresult
  · intro h
    refine ⟨_, _, ?_, discovers⟩
    rw [discoverProfiles_eq, discoverCandidates_eq_ok]
    · rfl
    · rintro ⟨n, result⟩ hmem hvalue
      obtain ⟨hlists, hresult⟩ := mem_attempts.mp hmem
      exact h n hlists ((discover_eq_valueError hvalid).mp (hresult.trans hvalue))

/-! ## Isolation -/

/-- The parsers raise what they should, and the discovery isolates profiles, unless a number is too long. -/
theorem loading_isolates_iff {policy : Policy} (hvalid : policy.globalConfig.Valid) (files : Files)
    (text : Text) :
    (OnlyRaises LoadError.IsConfigError (parseGlobalConfig text) ↔ ¬ GlobalOverflows text) ∧
    (OnlyRaises LoadError.IsConfigError (parseProfileConfig text policy.globalConfig) ↔
      ¬ ProfileOverflows policy.globalConfig text) ∧
    OnlyRaises LoadError.IsProfileError (loadKharejIp text) ∧
    (Isolates policy files ↔ ∀ n, files.Lists n → ¬ files.Overflow policy n) :=
  ⟨parseGlobalConfig_onlyRaises, parseProfileConfig_onlyRaises hvalid, loadKharejIp_onlyRaises,
    isolates_iff hvalid⟩

theorem default_valid : GlobalConfig.Valid {} where
  checkMode := rfl
  minimum setting := by cases setting <;> decide
  maximum setting := by cases setting <;> decide
  timely := by decide

/-- A directory with one file. -/
def oneFile (name : Text) (file : ManagedFile) (h : name.length ≤ 255) : Directory where
  files := [(name, file)]
  distinct := List.nodup_singleton _
  short := by simpa using h

/-- The number of the first profile. -/
def firstNumber : Number := ⟨['1'], by decide⟩

/-- The files of the first profile, of which the last holds the text. -/
def firstFiles (text : Text) : Files where
  env := oneFile firstNumber.envName
    { ascii := .ok "KHAREJ_IP=192.0.2.1\n".toList
      utf8 := .ok "KHAREJ_IP=192.0.2.1\n".toList } (by decide)
  unit := oneFile firstNumber.unitName
    { ascii := .ok []
      utf8 := .ok [] } (by decide)
  config := oneFile firstNumber.configName
    { ascii := .ok text
      utf8 := .ok text } (by decide)

theorem lists_firstFiles (h : (firstFiles text).Lists n) : n = firstNumber :=
  envName_inj (List.mem_singleton.mp h)

/-- A file that sets the interval. -/
def intervalText (digits : Text) : Text :=
  (([(Setting.key .checkIntervalSeconds, digits)].map entryLine).map (· ++ ['\n'])).flatten

theorem profileOverflows_intervalText {digits : Text} (h : Overlong digits) :
    ProfileOverflows {} (intervalText digits) := by
  have hassign : ∀ entry ∈ [(Setting.key .checkIntervalSeconds, digits)], CanAssign profileKeys entry := by
    intro entry hentry
    rw [List.mem_singleton.mp hentry]
    refine ⟨mem_profileKeys.mpr (.inr ⟨.checkIntervalSeconds, rfl⟩), ?_, isSafe_of_isNumeral h.numeral⟩
    exact fun c hc => @isPlain_key .checkIntervalSeconds c hc
  have hnodup : ([(Setting.key .checkIntervalSeconds, digits)].map (·.1)).Nodup := List.nodup_singleton _
  have hparse : parseProfileValues (intervalText digits) = .ok [(Setting.key .checkIntervalSeconds, digits)] :=
    parseText_flatten (List.cons_ne_nil _ _) hassign hnodup fun h => nomatch h
  have hraw : rawOf [(Setting.key .checkIntervalSeconds, digits)] ({} : GlobalConfig).setting
      .checkIntervalSeconds = digits := by
    rw [rawOf, valueOf_singleton, if_pos rfl, Option.getD_some]
  refine ⟨_, hparse, ?_, .checkIntervalSeconds, ?_, ?_, ?_⟩
  · rw [valueOf_singleton, if_neg modeKey_ne_key.symm]
    decide
  · rw [hraw]
    exact h
  · exact fun _ hlt => absurd hlt (Nat.not_lt_zero _)
  · exact fun hlt => absurd hlt (by decide)

theorem overlong_replicate : Overlong (List.replicate 4301 '1') where
  numeral := isNumeral_iff.mpr ⟨List.replicate_succ_ne_nil, fun c hc => List.eq_of_mem_replicate hc ▸ rfl⟩
  long := by
    rw [List.length_replicate]
    decide

theorem overflow_firstFiles (h : ProfileOverflows {} text) : (firstFiles text).Overflow ⟨{}, none, true⟩ firstNumber where
  env := ⟨_, _, "192.0.2.1".toList, file_eq_some.mpr List.mem_cons_self, rfl, rfl, by decide +kernel⟩
  unit := by
    have hunit : (firstFiles text).unit.file firstNumber.unitName = some _ :=
      file_eq_some.mpr List.mem_cons_self
    rw [hunit]
    rfl
  config := by
    have hconfig : (firstFiles text).config.file firstNumber.configName = some _ :=
      file_eq_some.mpr List.mem_cons_self
    exact ⟨_, text, hconfig, by simp [validateFileSecurity], rfl, h⟩

/-- The parsers and the discovery with good files. -/
theorem loading_isolates_monitor :
    OnlyRaises LoadError.IsConfigError (parseProfileConfig "MODE=monitor\n".toList {}) ∧
      Isolates ⟨{}, none, true⟩ (firstFiles "MODE=monitor\n".toList) := by
  have hgood : ¬ ProfileOverflows {} "MODE=monitor\n".toList := by
    have hparse : parseProfileValues "MODE=monitor\n".toList = .ok [(modeKey, "monitor".toList)] := by
      decide +kernel
    rintro ⟨values, hvalues, _, setting, hover⟩
    cases hparse.symm.trans hvalues
    refine not_overflows default_valid ?_ hover
    rw [valueOf_singleton, if_neg modeKey_ne_key]
  have hiff := @loading_isolates_iff ⟨{}, none, true⟩ default_valid
    (firstFiles "MODE=monitor\n".toList) "MODE=monitor\n".toList
  refine ⟨hiff.2.1.mpr hgood, hiff.2.2.2.mpr fun n hlists hover => ?_⟩
  obtain ⟨file, text, hfile, _, htext, hoverflows⟩ := hover.config
  rw [lists_firstFiles hlists] at hfile
  have hsame := List.mem_singleton.mp (file_eq_some.mp hfile)
  cases hsame
  cases htext
  exact hgood hoverflows

theorem not_isolates_firstFiles (h : ProfileOverflows {} text) :
    ¬ Isolates ⟨{}, none, true⟩ (firstFiles text) :=
  fun hisolates => (isolates_iff default_valid).mp hisolates firstNumber List.mem_cons_self
    (overflow_firstFiles h)

/-- One profile with a number that is too long hides all others. -/
theorem not_loading_isolates : ¬ ∀ policy files, policy.globalConfig.Valid → Isolates policy files := by
  intro h
  have hover := profileOverflows_intervalText overlong_replicate
  exact not_isolates_firstFiles hover (h _ _ default_valid)

end Watchdog
