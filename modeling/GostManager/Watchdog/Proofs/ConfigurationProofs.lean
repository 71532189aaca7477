import GostManager.Effects.Proofs.ExceptProofs
import GostManager.Lists.Proofs.DictionaryProofs
import GostManager.Profiles.Proofs.EnvironmentProofs
import GostManager.Watchdog.Configuration

/-!
# Proofs: configuration

What each parser does with a text: the numbers that `_integer` takes are within their bounds, a configuration
is read back from its rendering, and the only exception that is no `ConfigError` comes from a number that is
too long.
-/

namespace Watchdog

open Effects Lists Profiles Texts

variable {values values' : Values} {key value text : Text} {keys : List Text} {setting : Setting} {n : Int}

/-! ## Numbers -/

theorem toList_toString (h : 0 ≤ n) : (toString n).toList = Nat.toDigits 10 n.toNat := by
  rw [Int.toString_eq_repr, Int.repr_eq_if, if_pos h, Nat.toList_repr]

theorem length_toDigits_le {k : Nat} (h : k ≤ 3600) : (Nat.toDigits 10 k).length ≤ 4 :=
  (Nat.length_toDigits_le_iff (by decide) (by decide)).mpr (by omega)

theorem bounds_le : setting.bounds.2 ≤ 3600 := by
  cases setting <;> decide

/-- A default within the bounds has a text, and that is taken. -/
theorem str_eq_ok (hmin : (setting.bounds.1 : Int) ≤ n) (hmax : n ≤ setting.bounds.2) :
    str n = .ok (toString n).toList := by
  have hbound := @bounds_le setting
  have hlength : (Nat.toDigits 10 n.natAbs).length ≤ 4 := length_toDigits_le (by omega)
  exact if_neg (Nat.not_lt.mpr (Nat.le_trans hlength (by decide)))

theorem accepts_toString (hmin : (setting.bounds.1 : Int) ≤ n) (hmax : n ≤ setting.bounds.2) :
    Accepts setting (toString n).toList := by
  have hbound := @bounds_le setting
  rw [toList_toString (by omega)]
  have hlength : (Nat.toDigits 10 n.toNat).length ≤ 4 := length_toDigits_le (by omega)
  refine ⟨isNumeral_toDigits, Nat.le_trans hlength (by decide), ?_, ?_⟩
  · rw [number_toDigits]
    omega
  · rw [number_toDigits]
    omega

/-! ## `_integer` -/

section Integer

variable {default : Int} {parsed : setting.Value}

theorem readInteger_eq_ok {raw : Text} :
    readInteger setting raw = .ok parsed ↔ Accepts setting raw ∧ parsed.1 = number raw := by
  unfold readInteger
  by_cases hnumeral : isNumeral raw = true
  · rw [hnumeral, Bool.not_true, if_neg Bool.false_ne_true, int_of_isNumeral hnumeral]
    by_cases hlong : 4300 < raw.length
    · rw [if_pos hlong]
      simp only [reduceCtorEq, false_iff, not_and]
      exact fun haccepts => absurd haccepts.short (Nat.not_le.mpr hlong)
    · rw [if_neg hlong]
      by_cases hbounds : setting.bounds.1 ≤ number raw ∧ number raw ≤ setting.bounds.2
      · simp only [hbounds, and_self, dif_pos]
        constructor
        · rintro ⟨rfl⟩
          exact ⟨⟨hnumeral, Nat.not_lt.mp hlong, hbounds.1, hbounds.2⟩, rfl⟩
        · rintro ⟨_, hparsed⟩
          exact congrArg Except.ok (Subtype.ext hparsed.symm)
      · simp only [dif_neg hbounds, reduceCtorEq, false_iff, not_and]
        exact fun haccepts => absurd ⟨haccepts.minimum, haccepts.maximum⟩ hbounds
  · simp only [hnumeral, Bool.not_false, if_true, reduceCtorEq, false_iff, not_and]
    exact fun haccepts => absurd haccepts.numeral hnumeral

theorem readInteger_eq_valueError {raw : Text} :
    readInteger setting raw = .error .valueError ↔ Overlong raw := by
  unfold readInteger
  by_cases hnumeral : isNumeral raw = true
  · rw [hnumeral, Bool.not_true, if_neg Bool.false_ne_true, int_of_isNumeral hnumeral]
    by_cases hlong : 4300 < raw.length
    · rw [if_pos hlong]
      exact ⟨fun _ => ⟨hnumeral, hlong⟩, fun _ => rfl⟩
    · rw [if_neg hlong]
      have hnot : ¬ Overlong raw := fun hoverlong => hlong hoverlong.long
      by_cases hbounds : setting.bounds.1 ≤ number raw ∧ number raw ≤ setting.bounds.2
      · simp [hbounds, hnot]
      · simp [hbounds, hnot]
  · have hnot : ¬ Overlong raw := fun hoverlong => hnumeral hoverlong.numeral
    simp [hnumeral, hnot]

end Integer

/-! ## The numbers of a mapping -/

section Settings

variable {defaults : Setting → Int} {settings : Settings}

/-- The defaults have texts. -/
def Textual (defaults : Setting → Int) : Prop :=
  ∀ setting, str (defaults setting) = .ok (toString (defaults setting)).toList

theorem integer_eq (h : Textual defaults) :
    integer values setting (defaults setting) = readInteger setting (rawOf values defaults setting) := by
  rw [integer, h setting]
  rfl

/-- The numbers are those of the texts, when all are accepted and the timeout is not longer than the
interval. -/
theorem settingsFromMapping_eq_ok (h : Textual defaults) (haccepts : ∀ setting, Accepts setting (rawOf values defaults setting))
    (htimely : number (rawOf values defaults .pingTimeoutSeconds) ≤
      number (rawOf values defaults .checkIntervalSeconds)) :
    ∃ settings : Settings, settingsFromMapping values defaults = .ok settings ∧
      settings.checkIntervalSeconds.1 = number (rawOf values defaults .checkIntervalSeconds) ∧
      settings.pingTimeoutSeconds.1 = number (rawOf values defaults .pingTimeoutSeconds) ∧
      settings.failureThreshold.1 = number (rawOf values defaults .failureThreshold) ∧
      settings.successThreshold.1 = number (rawOf values defaults .successThreshold) ∧
      settings.recoveryHoldSeconds.1 = number (rawOf values defaults .recoveryHoldSeconds) ∧
      settings.recoveryJitterMaxSeconds.1 = number (rawOf values defaults .recoveryJitterMaxSeconds) := by
  have hread : ∀ setting, ∃ parsed : setting.Value,
      readInteger setting (rawOf values defaults setting) = .ok parsed ∧
        parsed.1 = number (rawOf values defaults setting) := by
    intro setting
    have haccept := haccepts setting
    exact ⟨⟨_, haccept.minimum, haccept.maximum⟩, readInteger_eq_ok.mpr ⟨haccept, rfl⟩, rfl⟩
  obtain ⟨interval, hinterval, hintervalNumber⟩ := hread .checkIntervalSeconds
  obtain ⟨timeout, htimeout, htimeoutNumber⟩ := hread .pingTimeoutSeconds
  obtain ⟨failure, hfailure, hfailureNumber⟩ := hread .failureThreshold
  obtain ⟨success, hsuccess, hsuccessNumber⟩ := hread .successThreshold
  obtain ⟨hold, hhold, hholdNumber⟩ := hread .recoveryHoldSeconds
  obtain ⟨jitter, hjitter, hjitterNumber⟩ := hread .recoveryJitterMaxSeconds
  have htime : timeout.1 ≤ interval.1 := by
    rw [hintervalNumber, htimeoutNumber]
    exact htimely
  refine ⟨⟨interval, timeout, failure, success, hold, jitter, htime⟩, ?_, hintervalNumber, htimeoutNumber,
    hfailureNumber, hsuccessNumber, hholdNumber, hjitterNumber⟩
  simp only [settingsFromMapping, integer_eq h, hinterval, htimeout, hfailure, hsuccess, hhold, hjitter]
  exact dif_pos htime

theorem index_inj {earlier : Setting} (h : earlier.index = setting.index) : earlier = setting := by
  cases earlier <;> cases setting <;> first | rfl | cases h

/-- With a setting that is accepted, those up to it are. -/
theorem accepts_next (next : Setting) (hnext : next.index = setting.index + 1)
    (h : ∀ earlier : Setting, earlier.index < setting.index → Accepts earlier (rawOf values defaults earlier))
    (hsetting : Accepts setting (rawOf values defaults setting)) :
    ∀ earlier : Setting, earlier.index < next.index → Accepts earlier (rawOf values defaults earlier) := by
  intro earlier hlt
  rcases Nat.lt_or_eq_of_le (Nat.le_of_lt_succ (hnext ▸ hlt)) with hbefore | heq
  · exact h earlier hbefore
  · rw [index_inj heq]
    exact hsetting

/-- Where a `ValueError` comes from. -/
theorem overflows_of_valueError (h : Textual defaults)
    (hresult : settingsFromMapping values defaults = .error .valueError) :
    ∃ setting, Overflows values defaults setting := by
  simp only [settingsFromMapping, integer_eq h] at hresult
  have hzero : ∀ earlier : Setting, earlier.index < Setting.index .checkIntervalSeconds →
      Accepts earlier (rawOf values defaults earlier) := fun _ hlt => absurd hlt (Nat.not_lt_zero _)
  rcases bind_eq_error.mp hresult with hread | ⟨interval, hinterval, hresult⟩
  · exact ⟨.checkIntervalSeconds, readInteger_eq_valueError.mp hread, hzero,
      fun hlt => absurd hlt (Nat.not_lt_zero _)⟩
  obtain ⟨hinterval, hintervalNumber⟩ := readInteger_eq_ok.mp hinterval
  have hone := accepts_next .pingTimeoutSeconds rfl hzero hinterval
  rcases bind_eq_error.mp hresult with hread | ⟨timeout, htimeout, hresult⟩
  · exact ⟨.pingTimeoutSeconds, readInteger_eq_valueError.mp hread, hone,
      fun hlt => absurd hlt (Nat.lt_irrefl _)⟩
  obtain ⟨htimeout, htimeoutNumber⟩ := readInteger_eq_ok.mp htimeout
  have htwo := accepts_next .failureThreshold rfl hone htimeout
  split at hresult
  case isFalse => cases hresult
  rename_i htimely
  rw [hintervalNumber, htimeoutNumber] at htimely
  rcases bind_eq_error.mp hresult with hread | ⟨failure, hfailure, hresult⟩
  · exact ⟨.failureThreshold, readInteger_eq_valueError.mp hread, htwo, fun _ => htimely⟩
  have hthree := accepts_next .successThreshold rfl htwo (readInteger_eq_ok.mp hfailure).1
  rcases bind_eq_error.mp hresult with hread | ⟨success, hsuccess, hresult⟩
  · exact ⟨.successThreshold, readInteger_eq_valueError.mp hread, hthree, fun _ => htimely⟩
  have hfour := accepts_next .recoveryHoldSeconds rfl hthree (readInteger_eq_ok.mp hsuccess).1
  rcases bind_eq_error.mp hresult with hread | ⟨hold, hhold, hresult⟩
  · exact ⟨.recoveryHoldSeconds, readInteger_eq_valueError.mp hread, hfour, fun _ => htimely⟩
  have hfive := accepts_next .recoveryJitterMaxSeconds rfl hfour (readInteger_eq_ok.mp hhold).1
  rcases bind_eq_error.mp hresult with hread | ⟨jitter, hjitter, hresult⟩
  · exact ⟨.recoveryJitterMaxSeconds, readInteger_eq_valueError.mp hread, hfive, fun _ => htimely⟩
  · cases hresult

theorem valueError_of_overflows (h : Textual defaults) (hoverflows : Overflows values defaults setting) :
    settingsFromMapping values defaults = .error .valueError := by
  have hraises : readInteger setting (rawOf values defaults setting) = .error .valueError :=
    readInteger_eq_valueError.mpr hoverflows.overlong
  have hread : ∀ earlier : Setting, earlier.index < setting.index → ∃ parsed : earlier.Value,
      readInteger earlier (rawOf values defaults earlier) = .ok parsed ∧
        parsed.1 = number (rawOf values defaults earlier) := by
    intro earlier hlt
    have haccept := hoverflows.accepted earlier hlt
    exact ⟨⟨_, haccept.minimum, haccept.maximum⟩, readInteger_eq_ok.mpr ⟨haccept, rfl⟩, rfl⟩
  simp only [settingsFromMapping, integer_eq h]
  cases setting with
  | checkIntervalSeconds =>
    rw [hraises]
    rfl
  | pingTimeoutSeconds =>
    obtain ⟨interval, hinterval, _⟩ := hread .checkIntervalSeconds (by decide)
    simp only [hinterval, hraises]
    rfl
  | failureThreshold =>
    obtain ⟨interval, hinterval, hintervalNumber⟩ := hread .checkIntervalSeconds (by decide)
    obtain ⟨timeout, htimeout, htimeoutNumber⟩ := hread .pingTimeoutSeconds (by decide)
    have htime : timeout.1 ≤ interval.1 := by
      rw [hintervalNumber, htimeoutNumber]
      exact hoverflows.timely (by decide)
    simp only [hinterval, htimeout, hraises]
    exact dif_pos htime
  | successThreshold =>
    obtain ⟨interval, hinterval, hintervalNumber⟩ := hread .checkIntervalSeconds (by decide)
    obtain ⟨timeout, htimeout, htimeoutNumber⟩ := hread .pingTimeoutSeconds (by decide)
    obtain ⟨failure, hfailure, _⟩ := hread .failureThreshold (by decide)
    have htime : timeout.1 ≤ interval.1 := by
      rw [hintervalNumber, htimeoutNumber]
      exact hoverflows.timely (by decide)
    simp only [hinterval, htimeout, hfailure, hraises]
    exact dif_pos htime
  | recoveryHoldSeconds =>
    obtain ⟨interval, hinterval, hintervalNumber⟩ := hread .checkIntervalSeconds (by decide)
    obtain ⟨timeout, htimeout, htimeoutNumber⟩ := hread .pingTimeoutSeconds (by decide)
    obtain ⟨failure, hfailure, _⟩ := hread .failureThreshold (by decide)
    obtain ⟨success, hsuccess, _⟩ := hread .successThreshold (by decide)
    have htime : timeout.1 ≤ interval.1 := by
      rw [hintervalNumber, htimeoutNumber]
      exact hoverflows.timely (by decide)
    simp only [hinterval, htimeout, hfailure, hsuccess, hraises]
    exact dif_pos htime
  | recoveryJitterMaxSeconds =>
    obtain ⟨interval, hinterval, hintervalNumber⟩ := hread .checkIntervalSeconds (by decide)
    obtain ⟨timeout, htimeout, htimeoutNumber⟩ := hread .pingTimeoutSeconds (by decide)
    obtain ⟨failure, hfailure, _⟩ := hread .failureThreshold (by decide)
    obtain ⟨success, hsuccess, _⟩ := hread .successThreshold (by decide)
    obtain ⟨hold, hhold, _⟩ := hread .recoveryHoldSeconds (by decide)
    have htime : timeout.1 ≤ interval.1 := by
      rw [hintervalNumber, htimeoutNumber]
      exact hoverflows.timely (by decide)
    simp only [hinterval, htimeout, hfailure, hsuccess, hhold, hraises]
    exact dif_pos htime

end Settings

/-! ## Lines -/

section Lines

variable {allowed : List Text} {number : Nat}

/-- The line of an entry. -/
def entryLine (entry : Text × Text) : Text := entry.1 ++ '=' :: entry.2

/-- The entries of the keys that have values, in the order of the keys. -/
def ordered (keys : List Text) (values : Values) : Values :=
  keys.filterMap fun key => (valueOf values key).map fun value => (key, value)

theorem renderValues_eq :
    renderValues keys values = (((ordered keys values).map entryLine).map (· ++ ['\n'])).flatten := by
  rw [renderValues, ordered, List.map_filterMap, List.map_filterMap]
  congr 2
  funext key
  cases valueOf values key <;> simp [entryLine]

/-- A character that does not end a line, a key or a value. -/
structure IsPlain (c : Char) : Prop where
  ne_equals : c ≠ '='
  ne_null : c ≠ '\x00'
  not_space : isspace c = false

theorem IsPlain.not_boundary {c : Char} (h : IsPlain c) : isLineBoundary c = false := by
  have hspace := h.not_space
  simp only [isspace, isLineBoundary, Bool.or_eq_false_iff, Bool.and_eq_false_iff, decide_eq_false_iff_not,
    List.contains_eq_mem, List.mem_cons, List.not_mem_nil, or_false] at hspace ⊢
  omega

/-- A value that a line can have. -/
structure IsSafe (value : Text) : Prop where
  nonempty : value ≠ []
  ascii : ∀ c ∈ value, c.toNat < 128
  plain : ∀ c ∈ value, IsPlain c

/-- An entry that is not refused. -/
structure CanAssign (allowed : List Text) (entry : Text × Text) : Prop where
  allowed : entry.1 ∈ allowed
  key : ∀ c ∈ entry.1, IsPlain c
  value : IsSafe entry.2

theorem parseLine_entryLine {entry : Text × Text} (h : CanAssign allowed entry)
    (hnew : entry.1 ∉ values.map (·.1)) :
    parseLine allowed values (entryLine entry, number) = .ok (values ++ [entry]) := by
  obtain ⟨key, value⟩ := entry
  have hkey : ∀ c ∈ key, c ≠ '=' := fun c hc => (h.key c hc).ne_equals
  have hvalue : ∀ c ∈ value, c ≠ '=' := fun c hc => (h.value.plain c hc).ne_equals
  have htake : (entryLine (key, value)).takeWhile (· ≠ '=') = key := by
    rw [entryLine, List.takeWhile_append_of_pos (by simpa using hkey)]
    simp
  have hdrop : ((entryLine (key, value)).dropWhile (· ≠ '=')).tail = value := by
    rw [entryLine, List.dropWhile_append_of_pos (by simpa using hkey)]
    simp
  have hcount : (entryLine (key, value)).count '=' = 1 := by
    rw [entryLine, List.count_append, List.count_cons_self,
      List.count_eq_zero_of_not_mem fun hmem => hkey _ hmem rfl,
      List.count_eq_zero_of_not_mem fun hmem => hvalue _ hmem rfl]
  have hline : ¬ (entryLine (key, value) = [] ∨ (entryLine (key, value)).count '=' ≠ 1) := by
    rintro (hempty | hne)
    · simp [entryLine] at hempty
    · exact hne hcount
  have hsafe : ¬ (value = [] ∨ value.any (fun c => 128 ≤ c.toNat) = true ∨ value.any isspace = true) := by
    rintro (hempty | hwide | hspace)
    · exact h.value.nonempty hempty
    · obtain ⟨c, hc, hle⟩ := List.any_eq_true.mp hwide
      exact absurd (h.value.ascii c hc) (Nat.not_lt.mpr (by simpa using hle))
    · obtain ⟨c, hc, hspace⟩ := List.any_eq_true.mp hspace
      rw [(h.value.plain c hc).not_space] at hspace
      cases hspace
  simp only [parseLine, if_neg hline, htake, hdrop, if_neg (not_not_intro h.allowed), if_neg hnew,
    if_neg hsafe]

/-- Entries are read one after the other. -/
theorem parseLines_entryLines {entries : Values} (h : ∀ entry ∈ entries, CanAssign allowed entry)
    (hnodup : ((values ++ entries).map (·.1)).Nodup) :
    ((entries.map entryLine).zipIdx number).foldlM (parseLine allowed) values = .ok (values ++ entries) := by
  induction entries generalizing values number with
  | nil => simp [pure, Except.pure]
  | cons entry entries ih =>
    rw [List.forall_mem_cons] at h
    have hnew : entry.1 ∉ values.map (·.1) := by
      rw [List.map_append, List.nodup_append] at hnodup
      exact fun hmem => hnodup.2.2 _ hmem _ List.mem_cons_self rfl
    rw [List.append_cons] at hnodup ⊢
    rw [List.map_cons, List.zipIdx_cons, List.foldlM_cons, parseLine_entryLine h.1 hnew]
    exact ih h.2 hnodup

/-- A rendering is read back. -/
theorem parseText_flatten {entries : Values} {requireAll : Bool} (hne : entries ≠ [])
    (h : ∀ entry ∈ entries, CanAssign allowed entry) (hnodup : (entries.map (·.1)).Nodup)
    (hall : requireAll = true → ∀ key ∈ allowed, key ∈ entries.map (·.1)) :
    parseText ((entries.map entryLine).map (· ++ ['\n'])).flatten allowed requireAll = .ok entries := by
  have hplain : ∀ line ∈ entries.map entryLine, ∀ c ∈ line, c = '=' ∨ IsPlain c := by
    rintro line hline c hc
    obtain ⟨entry, hentry, rfl⟩ := List.mem_map.mp hline
    rcases List.mem_append.mp hc with hkey | hvalue
    · exact .inr ((h entry hentry).key c hkey)
    · rcases List.mem_cons.mp hvalue with heq | hvalue
      · exact .inl heq
      · exact .inr ((h entry hentry).value.plain c hvalue)
  have hlines : splitlines ((entries.map entryLine).map (· ++ ['\n'])).flatten = entries.map entryLine := by
    refine splitlines_flatten fun line hline c hc => ?_
    rcases hplain line hline c hc with rfl | hc
    · rfl
    · exact hc.not_boundary
  have hmem : ∀ c ∈ ((entries.map entryLine).map (· ++ ['\n'])).flatten, c = '=' ∨ c = '\n' ∨ IsPlain c := by
    intro c hc
    obtain ⟨_, hended, hc⟩ := List.mem_flatten.mp hc
    obtain ⟨line, hline, rfl⟩ := List.mem_map.mp hended
    rcases List.mem_append.mp hc with hc | hc
    · exact (hplain line hline c hc).imp_right .inr
    · exact .inr (.inl (List.mem_singleton.mp hc))
  have hcontrol : ¬ (((entries.map entryLine).map (· ++ ['\n'])).flatten = [] ∨
      '\x00' ∈ ((entries.map entryLine).map (· ++ ['\n'])).flatten ∨
      '\r' ∈ ((entries.map entryLine).map (· ++ ['\n'])).flatten) := by
    rintro (hempty | hnull | hreturn)
    · rw [hempty] at hlines
      exact hne (List.map_eq_nil_iff.mp hlines.symm)
    · rcases hmem _ hnull with heq | heq | hc
      · cases heq
      · cases heq
      · exact hc.ne_null rfl
    · rcases hmem _ hreturn with heq | heq | hc
      · cases heq
      · cases heq
      · exact absurd hc.not_space (by decide)
  have hmissing : (if requireAll = true then allowed.find? (· ∉ entries.map (·.1)) else none) = none := by
    split
    · rename_i hrequire
      rw [List.find?_eq_none]
      intro key hkey
      simpa using hall hrequire key hkey
    · rfl
  have hread := @parseLines_entryLines [] allowed 1 entries h hnodup
  rw [parseText, if_neg hcontrol, hlines, hread]
  simp only [bind, Except.bind, List.nil_append]
  rw [hmissing]
  rfl

end Lines

/-! ## Dictionaries -/

theorem valueOf_isSome : (valueOf values key).isSome = true ↔ key ∈ values.map (·.1) := by
  rw [valueOf, Option.isSome_map, find, List.find?_isSome]
  simp

theorem mem_ordered {entry : Text × Text} :
    entry ∈ ordered keys values ↔ entry.1 ∈ keys ∧ valueOf values entry.1 = some entry.2 := by
  obtain ⟨key, value⟩ := entry
  simp only [ordered, List.mem_filterMap, Option.map_eq_some_iff, Prod.mk.injEq]
  constructor
  · rintro ⟨_, hkey, _, hvalue, rfl, rfl⟩
    exact ⟨hkey, hvalue⟩
  · rintro ⟨hkey, hvalue⟩
    exact ⟨key, hkey, value, hvalue, rfl, rfl⟩

theorem map_fst_ordered : (ordered keys values).map (·.1) =
    keys.filter fun key => (valueOf values key).isSome := by
  rw [ordered, List.map_filterMap, ← List.filterMap_eq_filter]
  congr 1
  funext key
  cases hvalue : valueOf values key <;> simp [Option.guard, hvalue]

theorem nodup_ordered (h : keys.Nodup) : ((ordered keys values).map (·.1)).Nodup := by
  rw [map_fst_ordered]
  exact h.filter _

theorem valueOf_eq_some (h : (values.map (·.1)).Nodup) :
    valueOf values key = some value ↔ (key, value) ∈ values := by
  rw [valueOf, Option.map_eq_some_iff]
  constructor
  · rintro ⟨⟨_, _⟩, hfind, rfl⟩
    obtain ⟨hmem, rfl⟩ := (find_eq_some h).mp hfind
    exact hmem
  · exact fun hmem => ⟨(key, value), (find_eq_some h).mpr ⟨hmem, rfl⟩, rfl⟩

theorem valueOf_singleton {entry : Text × Text} :
    valueOf [entry] key = if entry.1 = key then some entry.2 else none := by
  by_cases hkey : entry.1 = key
  · simp [valueOf, find, hkey]
  · simp [valueOf, find, hkey]

/-- Putting the entries in order changes no value. -/
theorem valueOf_ordered (hkeys : keys.Nodup) (hknown : ∀ key ∈ values.map (·.1), key ∈ keys) :
    valueOf (ordered keys values) key = valueOf values key := by
  refine Option.ext fun value => ?_
  rw [valueOf_eq_some (nodup_ordered hkeys), mem_ordered]
  constructor
  · exact And.right
  · intro hvalue
    exact ⟨hknown key (valueOf_isSome.mp (Option.isSome_of_mem hvalue)), hvalue⟩

theorem ordered_ne_nil (hne : values ≠ []) (hknown : ∀ key ∈ values.map (·.1), key ∈ keys) :
    ordered keys values ≠ [] := by
  obtain ⟨entry, hentry⟩ := List.exists_mem_of_ne_nil values hne
  have hkey : entry.1 ∈ values.map (·.1) := List.mem_map_of_mem hentry
  obtain ⟨value, hvalue⟩ := Option.isSome_iff_exists.mp (valueOf_isSome.mpr hkey)
  exact List.ne_nil_of_mem (mem_ordered.mpr ⟨hknown _ hkey, hvalue⟩ : (entry.1, value) ∈ ordered keys values)

theorem unknownKey_eq_none : unknownKey values keys = none ↔ ∀ key ∈ values.map (·.1), key ∈ keys := by
  rw [unknownKey, List.head?_eq_none_iff, ← List.length_eq_zero_iff, List.length_insertionSort,
    List.length_eq_zero_iff, List.filter_eq_nil_iff]
  simp

/-! ## Mappings that are accepted -/

section Accepted

variable {globalConfig : GlobalConfig} {config : ProfileConfig} {defaults : Setting → Int}

theorem isNumeral_of_integer {default : Int} {parsed : setting.Value}
    (h : integer values setting default = .ok parsed) (hvalue : valueOf values setting.key = some value) :
    isNumeral value = true := by
  rw [integer, hvalue] at h
  obtain ⟨_, _, hread⟩ := bind_eq_ok.mp h
  exact (readInteger_eq_ok.mp hread).1.numeral

/-- The values of settings are numerals. -/
theorem isNumeral_of_settings {settings : Settings} (h : settingsFromMapping values defaults = .ok settings)
    (hvalue : valueOf values setting.key = some value) : isNumeral value = true := by
  obtain ⟨interval, hinterval, h⟩ := bind_eq_ok.mp h
  obtain ⟨timeout, htimeout, h⟩ := bind_eq_ok.mp h
  split at h
  case isFalse => cases h
  obtain ⟨failure, hfailure, h⟩ := bind_eq_ok.mp h
  obtain ⟨success, hsuccess, h⟩ := bind_eq_ok.mp h
  obtain ⟨hold, hhold, h⟩ := bind_eq_ok.mp h
  obtain ⟨jitter, hjitter, _⟩ := bind_eq_ok.mp h
  cases setting with
  | checkIntervalSeconds => exact isNumeral_of_integer hinterval hvalue
  | pingTimeoutSeconds => exact isNumeral_of_integer htimeout hvalue
  | failureThreshold => exact isNumeral_of_integer hfailure hvalue
  | successThreshold => exact isNumeral_of_integer hsuccess hvalue
  | recoveryHoldSeconds => exact isNumeral_of_integer hhold hvalue
  | recoveryJitterMaxSeconds => exact isNumeral_of_integer hjitter hvalue

/-- What is accepted has known keys, one of the modes and numbers. -/
theorem profileConfigFromMapping_eq_ok : profileConfigFromMapping values globalConfig = .ok config ↔
    (∀ key ∈ values.map (·.1), key ∈ profileKeys) ∧
    ∃ mode, modeOf ((valueOf values modeKey).getD "disabled".toList) = some mode ∧
    ∃ settings, settingsFromMapping values globalConfig.setting = .ok settings ∧
      settings.profileConfig mode = config := by
  rw [← unknownKey_eq_none, profileConfigFromMapping]
  cases unknownKey values profileKeys with
  | some key => simp
  | none =>
    cases modeOf ((valueOf values modeKey).getD "disabled".toList) with
    | none => simp
    | some mode =>
      simp only [true_and, Option.some.injEq, exists_eq_left']
      constructor
      · intro h
        obtain ⟨settings, hsettings, hconfig⟩ := bind_eq_ok.mp h
        exact ⟨settings, hsettings, Except.ok.inj hconfig⟩
      · rintro ⟨settings, hsettings, rfl⟩
        exact bind_eq_ok.mpr ⟨settings, hsettings, rfl⟩

theorem settingsFromMapping_congr (h : ∀ key, valueOf values key = valueOf values' key) :
    settingsFromMapping values defaults = settingsFromMapping values' defaults := by
  simp only [settingsFromMapping, integer, h]

/-- Only the values count. -/
theorem profileConfigFromMapping_congr (h : ∀ key, valueOf values key = valueOf values' key)
    (hok : profileConfigFromMapping values globalConfig = .ok config) :
    profileConfigFromMapping values' globalConfig = .ok config := by
  rw [profileConfigFromMapping_eq_ok] at hok ⊢
  rw [← settingsFromMapping_congr h, ← h]
  refine ⟨fun key hkey => hok.1 key ?_, hok.2⟩
  rwa [← valueOf_isSome, h, valueOf_isSome]

end Accepted

/-! ## Safe values -/

theorem isPlain_of_isDigit {c : Char} (h : c.isDigit = true) : IsPlain c ∧ c.toNat < 128 := by
  have hrange : 48 ≤ c.toNat ∧ c.toNat ≤ 57 := by
    simpa [Char.isDigit, UInt32.le_iff_toNat_le] using h
  refine ⟨⟨?_, ?_, ?_⟩, by omega⟩
  · rintro rfl
    cases h
  · rintro rfl
    cases h
  · simp only [isspace, Bool.or_eq_false_iff, Bool.and_eq_false_iff, decide_eq_false_iff_not,
      List.contains_eq_mem, List.mem_cons, List.not_mem_nil, or_false]
    omega

theorem isSafe_of_isNumeral (h : isNumeral value = true) : IsSafe value := by
  obtain ⟨hne, hdigits⟩ := isNumeral_iff.mp h
  exact ⟨hne, fun c hc => (isPlain_of_isDigit (hdigits c hc)).2,
    fun c hc => (isPlain_of_isDigit (hdigits c hc)).1⟩

/-- A text whose characters can all be checked is plain. -/
theorem isPlain_of_all (h : text.all (fun c => c != '=' && c != '\x00' && !isspace c) = true) :
    ∀ c ∈ text, IsPlain c := by
  intro c hc
  have hplain := List.all_eq_true.mp h c hc
  simp only [Bool.and_eq_true, bne_iff_ne, Bool.not_eq_true'] at hplain
  exact ⟨hplain.1.1, hplain.1.2, hplain.2⟩

theorem isAscii_of_all (h : text.all (fun c => c.toNat < 128) = true) : ∀ c ∈ text, c.toNat < 128 :=
  fun c hc => of_decide_eq_true (List.all_eq_true.mp h c hc)

theorem isSafe_text {mode : Mode} : IsSafe mode.text := by
  cases mode
  · exact ⟨by decide, isAscii_of_all (by decide +kernel), isPlain_of_all (by decide +kernel)⟩
  · exact ⟨by decide, isAscii_of_all (by decide +kernel), isPlain_of_all (by decide +kernel)⟩
  · exact ⟨by decide, isAscii_of_all (by decide +kernel), isPlain_of_all (by decide +kernel)⟩

theorem modeOf_eq_some {mode : Mode} (h : modeOf text = some mode) : mode.text = text := by
  simpa using List.find?_some h

theorem isPlain_key {c : Char} (h : c ∈ setting.key) : IsPlain c := by
  refine isPlain_of_all ?_ c h
  cases setting <;> decide

theorem modeKey_ne_key : modeKey ≠ setting.key := by
  cases setting <;> decide

theorem mem_profileKeys : key ∈ profileKeys ↔ key = modeKey ∨ ∃ setting : Setting, setting.key = key := by
  simp only [profileKeys, List.mem_cons, List.mem_map]
  refine or_congr_right (exists_congr fun setting => and_iff_right ?_)
  cases setting <;> decide

theorem mem_globalKeys : key ∈ globalKeys ↔ key = checkModeKey ∨ ∃ setting : Setting, setting.key = key := by
  simp only [globalKeys, List.mem_cons, List.mem_map]
  refine or_congr_right (exists_congr fun setting => and_iff_right ?_)
  cases setting <;> decide

theorem nodup_profileKeys : profileKeys.Nodup := by decide +kernel

theorem nodup_globalKeys : globalKeys.Nodup := by decide +kernel

/-! ## Round trips of profiles -/

section Profiles

variable {globalConfig : GlobalConfig} {config : ProfileConfig}

/-- What is accepted can be written on lines. -/
theorem canAssign_of_eq_ok (h : profileConfigFromMapping values globalConfig = .ok config) :
    ∀ entry ∈ ordered profileKeys values, CanAssign profileKeys entry := by
  intro entry hentry
  obtain ⟨hallowed, hvalue⟩ := mem_ordered.mp hentry
  obtain ⟨_, mode, hmode, settings, hsettings, _⟩ := profileConfigFromMapping_eq_ok.mp h
  rcases mem_profileKeys.mp hallowed with hkey | ⟨setting, hkey⟩
  · refine ⟨hallowed, ?_, ?_⟩
    · rw [hkey]
      exact isPlain_of_all (by decide +kernel)
    · rw [hkey] at hvalue
      rw [hvalue] at hmode
      have htext : mode.text = entry.2 := modeOf_eq_some hmode
      rw [← htext]
      exact isSafe_text
  · rw [← hkey] at hvalue
    refine ⟨hallowed, ?_, isSafe_of_isNumeral (isNumeral_of_settings hsettings hvalue)⟩
    rw [← hkey]
    exact fun c hc => isPlain_key hc

/-- A mapping that is accepted is read back from its rendering, and so is its configuration. -/
theorem renderProfileValues_roundTrip (hne : values ≠ [])
    (h : profileConfigFromMapping values globalConfig = .ok config) :
    ∃ text values', renderProfileValues values globalConfig = .ok text ∧ parseProfileValues text = .ok values' ∧
      (∀ key, valueOf values' key = valueOf values key) ∧ parseProfileConfig text globalConfig = .ok config := by
  have hknown := (profileConfigFromMapping_eq_ok.mp h).1
  have hrender : renderProfileValues values globalConfig = .ok (renderValues profileKeys values) :=
    bind_eq_ok.mpr ⟨config, h, rfl⟩
  have hparse : parseProfileValues (renderValues profileKeys values) = .ok (ordered profileKeys values) := by
    rw [renderValues_eq]
    exact parseText_flatten (ordered_ne_nil hne hknown) (canAssign_of_eq_ok h)
      (nodup_ordered nodup_profileKeys) (fun h => nomatch h)
  have hvalues : ∀ key, valueOf (ordered profileKeys values) key = valueOf values key := fun _ =>
    valueOf_ordered nodup_profileKeys hknown
  refine ⟨_, _, hrender, hparse, hvalues, bind_eq_ok.mpr ⟨_, hparse, ?_⟩⟩
  exact profileConfigFromMapping_congr (fun key => (hvalues key).symm) h

end Profiles

/-! ## Round trips of the global configuration -/

section Global

variable {config : GlobalConfig}

theorem globalConfig_valid {settings : Settings} : settings.globalConfig.Valid where
  checkMode := rfl
  minimum setting := by
    cases setting with
    | checkIntervalSeconds => exact Int.ofNat_le.mpr settings.checkIntervalSeconds.2.1
    | pingTimeoutSeconds => exact Int.ofNat_le.mpr settings.pingTimeoutSeconds.2.1
    | failureThreshold => exact Int.ofNat_le.mpr settings.failureThreshold.2.1
    | successThreshold => exact Int.ofNat_le.mpr settings.successThreshold.2.1
    | recoveryHoldSeconds => exact Int.ofNat_le.mpr settings.recoveryHoldSeconds.2.1
    | recoveryJitterMaxSeconds => exact Int.ofNat_le.mpr settings.recoveryJitterMaxSeconds.2.1
  maximum setting := by
    cases setting with
    | checkIntervalSeconds => exact Int.ofNat_le.mpr settings.checkIntervalSeconds.2.2
    | pingTimeoutSeconds => exact Int.ofNat_le.mpr settings.pingTimeoutSeconds.2.2
    | failureThreshold => exact Int.ofNat_le.mpr settings.failureThreshold.2.2
    | successThreshold => exact Int.ofNat_le.mpr settings.successThreshold.2.2
    | recoveryHoldSeconds => exact Int.ofNat_le.mpr settings.recoveryHoldSeconds.2.2
    | recoveryJitterMaxSeconds => exact Int.ofNat_le.mpr settings.recoveryJitterMaxSeconds.2.2
  timely := Int.ofNat_le.mpr settings.timely

/-- What is read from a text is within the bounds. -/
theorem valid_of_parseGlobalConfig (h : parseGlobalConfig text = .ok config) : config.Valid := by
  obtain ⟨values, _, h⟩ := bind_eq_ok.mp h
  unfold globalConfigFromMapping at h
  split at h
  · cases h
  · split at h
    · cases h
    · obtain ⟨settings, _, h⟩ := bind_eq_ok.mp h
      cases h
      exact globalConfig_valid

theorem textual_of_valid (h : config.Valid) : Textual config.setting := fun setting =>
  str_eq_ok (h.minimum setting) (h.maximum setting)

/-- The entries of a rendering. -/
def globalEntries (config : GlobalConfig) : Values :=
  (checkModeKey, config.checkMode) ::
    Setting.all.map fun setting => (setting.key, (toString (config.setting setting)).toList)

theorem renderGlobalConfig_eq (h : config.Valid) :
    renderGlobalConfig config = .ok (renderValues globalKeys (globalEntries config)) := by
  have hnumbers : (Setting.all.mapM fun setting => do
      return (setting.key, ← str (config.setting setting)) : Loading Values) =
        .ok (Setting.all.map fun setting => (setting.key, (toString (config.setting setting)).toList)) := by
    simp only [textual_of_valid h _]
    rfl
  rw [renderGlobalConfig, hnumbers]
  rfl

theorem map_fst_globalEntries : (globalEntries config).map (·.1) = globalKeys := rfl

theorem valueOf_globalEntries : valueOf (globalEntries config) setting.key =
    some (toString (config.setting setting)).toList := by
  rw [valueOf_eq_some (map_fst_globalEntries ▸ nodup_globalKeys)]
  refine List.mem_cons_of_mem _ (List.mem_map.mpr ⟨setting, ?_, rfl⟩)
  cases setting <;> decide

theorem valueOf_checkModeKey : valueOf (globalEntries config) checkModeKey = some config.checkMode :=
  (valueOf_eq_some (map_fst_globalEntries ▸ nodup_globalKeys)).mpr List.mem_cons_self

theorem ordered_globalEntries {entry : Text × Text} (h : entry ∈ ordered globalKeys (globalEntries config)) :
    entry = (checkModeKey, config.checkMode) ∨
      ∃ setting : Setting, entry = (setting.key, (toString (config.setting setting)).toList) := by
  have hmem : entry ∈ globalEntries config :=
    (valueOf_eq_some (map_fst_globalEntries ▸ nodup_globalKeys)).mp (mem_ordered.mp h).2
  rcases List.mem_cons.mp hmem with hmode | hnumber
  · exact .inl hmode
  · obtain ⟨setting, _, rfl⟩ := List.mem_map.mp hnumber
    exact .inr ⟨setting, rfl⟩

/-- A configuration within the bounds can be written on lines. -/
theorem canAssign_of_valid (h : config.Valid) :
    ∀ entry ∈ ordered globalKeys (globalEntries config), CanAssign globalKeys entry := by
  intro entry hentry
  have hallowed := (mem_ordered.mp hentry).1
  rcases ordered_globalEntries hentry with rfl | ⟨setting, rfl⟩
  · have hkey : ∀ c ∈ checkModeKey, IsPlain c := isPlain_of_all (by decide +kernel)
    refine ⟨hallowed, hkey, ?_⟩
    rw [h.checkMode]
    exact ⟨by decide, isAscii_of_all (by decide +kernel), isPlain_of_all (by decide +kernel)⟩
  · exact ⟨hallowed, fun c hc => isPlain_key hc,
      isSafe_of_isNumeral (accepts_toString (h.minimum setting) (h.maximum setting)).numeral⟩

theorem number_toString (h : config.Valid) :
    (number (toString (config.setting setting)).toList : Int) = config.setting setting := by
  have hmin := h.minimum setting
  have hnonneg : 0 ≤ config.setting setting := by omega
  rw [toList_toString hnonneg, number_toDigits]
  exact Int.toNat_of_nonneg hnonneg

/-- The entries of a rendering give the configuration back. -/
theorem globalConfigFromMapping_ordered (h : config.Valid) :
    globalConfigFromMapping (ordered globalKeys (globalEntries config)) = .ok config := by
  have hvalues : ∀ key, valueOf (ordered globalKeys (globalEntries config)) key =
      valueOf (globalEntries config) key := fun _ =>
    valueOf_ordered nodup_globalKeys fun key hkey => map_fst_globalEntries ▸ hkey
  have hunknown : unknownKey (ordered globalKeys (globalEntries config)) globalKeys = none := by
    rw [unknownKey_eq_none]
    intro key hkey
    obtain ⟨entry, hentry, rfl⟩ := List.mem_map.mp hkey
    exact (mem_ordered.mp hentry).1
  have hraw : ∀ setting, rawOf (ordered globalKeys (globalEntries config)) ({} : GlobalConfig).setting setting =
      (toString (config.setting setting)).toList := by
    intro setting
    rw [rawOf, hvalues, valueOf_globalEntries]
    rfl
  have hdefaults : Textual ({} : GlobalConfig).setting := fun setting => by
    refine @str_eq_ok setting _ ?_ ?_ <;> cases setting <;> decide
  have htimely : number (toString config.pingTimeoutSeconds).toList ≤
      number (toString config.checkIntervalSeconds).toList := by
    have hinterval := @number_toString .checkIntervalSeconds config h
    have htimeout := @number_toString .pingTimeoutSeconds config h
    have htimely := h.timely
    simp only [GlobalConfig.setting] at hinterval htimeout
    omega
  obtain ⟨settings, hsettings, hinterval, htimeout, hfailure, hsuccess, hhold, hjitter⟩ :=
    settingsFromMapping_eq_ok hdefaults
      (fun setting => hraw setting ▸ accepts_toString (h.minimum setting) (h.maximum setting))
      (by rw [hraw, hraw]; exact htimely)
  rw [hraw] at hinterval htimeout hfailure hsuccess hhold hjitter
  have hconfig : settings.globalConfig = config := by
    have hmode := h.checkMode
    rw [Settings.globalConfig, hinterval, htimeout, hfailure, hsuccess, hhold, hjitter, number_toString h,
      number_toString h, number_toString h, number_toString h, number_toString h, number_toString h, ← hmode]
    rfl
  rw [globalConfigFromMapping, hunknown, hvalues, valueOf_checkModeKey, h.checkMode]
  exact bind_eq_ok.mpr ⟨settings, hsettings, congrArg Except.ok hconfig⟩

/-- A configuration that was read is read back from its rendering. -/
theorem renderGlobalConfig_roundTrip (h : parseGlobalConfig text = .ok config) :
    ∃ rendered, renderGlobalConfig config = .ok rendered ∧ parseGlobalConfig rendered = .ok config := by
  have hvalid := valid_of_parseGlobalConfig h
  refine ⟨_, renderGlobalConfig_eq hvalid, bind_eq_ok.mpr
    ⟨ordered globalKeys (globalEntries config), ?_, globalConfigFromMapping_ordered hvalid⟩⟩
  have hkeys : ∀ key ∈ globalKeys, key ∈ (ordered globalKeys (globalEntries config)).map (·.1) := by
    intro key hkey
    rw [map_fst_ordered, List.mem_filter, valueOf_isSome, map_fst_globalEntries]
    exact ⟨hkey, hkey⟩
  rw [renderValues_eq]
  exact parseText_flatten (List.ne_nil_of_mem (List.mem_map.mp (hkeys checkModeKey List.mem_cons_self)).choose_spec.1)
    (canAssign_of_valid hvalid) (nodup_ordered nodup_globalKeys) fun _ => hkeys

end Global

end Watchdog
