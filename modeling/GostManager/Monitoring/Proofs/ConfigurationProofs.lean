import GostManager.Lists.Proofs.DictionaryProofs
import GostManager.Monitoring.Configuration
import GostManager.Profiles.Proofs.EnvironmentProofs

/-!
# Proofs: the configuration of the monitoring

Which texts are accepted: those with one line for each key, in any order. Whatever a loader returns is valid, and is
read back from the lines of its mapping.
-/

namespace Monitoring.Configuration

open Effects (bind_eq_ok check_eq_ok)
open Lists Profiles Texts

variable {value label raw path text : Text} {values values' : List (Text × Text)} {entry : Text × Text}
  {interval : Interval} {n : Nat} {config : MonitoringConfig} {lines : List Text}

/-! ## Values -/

theorem head?_of_safePathRe (h : safePathRe value = true) : value.head? = some '/' := by
  unfold safePathRe at h
  split at h
  · rfl
  · cases h

theorem validatePath_eq_ok : validatePath value label = .ok path ↔ path = value ∧ IsSafePath value := by
  unfold validatePath
  by_cases hharmful : value = [] ∨ value.any isUnsafe = true ∨ safePathRe value = false
  · rw [if_pos hharmful]
    refine iff_of_false (fun h => by cases h) ?_
    rintro ⟨-, hvalid⟩
    rcases hharmful with hempty | hunsafe | hsafe
    · have hsafe := hvalid.safe
      rw [hempty] at hsafe
      cases hsafe
    · obtain ⟨c, hc, hunsafe⟩ := List.any_eq_true.1 hunsafe
      rw [hvalid.harmless c hc] at hunsafe
      cases hunsafe
    · rw [hvalid.safe] at hsafe
      cases hsafe
  · rw [if_neg hharmful]
    rw [not_or, not_or, Bool.not_eq_true, Bool.not_eq_false] at hharmful
    obtain ⟨-, hharmless, hsafe⟩ := hharmful
    by_cases hnormal : value.head? ≠ some '/' ∨ normpath value ≠ value
    · rw [if_pos hnormal]
      refine iff_of_false (fun h => by cases h) ?_
      rintro ⟨-, hvalid⟩
      rcases hnormal with hrelative | hnormal
      · exact hrelative (head?_of_safePathRe hsafe)
      · exact hnormal hvalid.normal
    · rw [if_neg hnormal]
      rw [not_or] at hnormal
      refine ⟨fun h => ⟨(Except.ok.inj h).symm, fun c hc => ?_, hsafe, not_not.1 hnormal.2⟩, fun h => by rw [h.1]⟩
      exact Bool.eq_false_iff.2 fun hunsafe => by
        rw [List.any_eq_true.2 ⟨c, hc, hunsafe⟩] at hharmless
        cases hharmless

theorem validateInterval_eq_ok : validateInterval interval raw = .ok n ↔
    Denotes raw n ∧ interval.bounds.1 ≤ n ∧ n ≤ interval.bounds.2 := by
  unfold validateInterval
  by_cases hnumeral : isNumeral raw = true
  · rw [hnumeral, Bool.not_true, if_neg Bool.false_ne_true, int_of_isNumeral hnumeral]
    by_cases hlong : 4300 < raw.length
    · rw [if_pos hlong]
      refine iff_of_false (fun h => by cases h) ?_
      exact fun h => absurd h.1.short (Nat.not_le_of_lt hlong)
    · rw [if_neg hlong]
      dsimp only
      by_cases hbounds : number raw < interval.bounds.1 ∨ interval.bounds.2 < number raw
      · rw [if_pos hbounds]
        refine iff_of_false (fun h => by cases h) ?_
        rintro ⟨hdenotes, hmin, hmax⟩
        rw [hdenotes.number_eq] at hbounds
        omega
      · rw [if_neg hbounds]
        constructor
        · intro h
          obtain rfl := Except.ok.inj h
          exact ⟨⟨hnumeral, Nat.not_lt.1 hlong, rfl⟩, by omega, by omega⟩
        · exact fun h => congrArg Except.ok h.1.number_eq
  · rw [Bool.not_eq_true] at hnumeral
    rw [hnumeral, Bool.not_false, if_pos rfl]
    refine iff_of_false (fun h => by cases h) ?_
    intro h
    rw [h.1.numeral] at hnumeral
    cases hnumeral

/-! ## Mappings -/

/-- What `config_from_mapping` asks of the intervals. -/
theorem validate_eq_ok {config : Monitoring.MonitoringConfig} : config.validate = .ok () ↔
    (5 ≤ config.sampleInterval ∧ config.sampleInterval ≤ 60) ∧ (10 ≤ config.tcpInterval ∧ config.tcpInterval ≤ 300) ∧
      (30 ≤ config.slowInterval ∧ config.slowInterval ≤ 900) ∧
      (300 ≤ config.maintenanceInterval ∧ config.maintenanceInterval ≤ 86400) ∧
      config.sampleInterval ≤ config.tcpInterval ∧ config.sampleInterval ≤ config.slowInterval ∧
      config.slowInterval ≤ config.maintenanceInterval := by
  unfold Monitoring.MonitoringConfig.validate
  simp only [check_eq_ok, Monitoring.validateInterval_eq_ok]
  refine and_congr_right fun _ => and_congr_right fun _ => and_congr_right fun _ => and_congr_right fun _ => ?_
  by_cases htcp : config.tcpInterval < config.sampleInterval
  · rw [if_pos htcp]
    exact iff_of_false (fun h => by cases h) fun h => absurd h.1 (Nat.not_le_of_lt htcp)
  rw [if_neg htcp]
  by_cases hslow : config.slowInterval < config.sampleInterval
  · rw [if_pos hslow]
    exact iff_of_false (fun h => by cases h) fun h => absurd h.2.1 (Nat.not_le_of_lt hslow)
  rw [if_neg hslow]
  by_cases hmaintenance : config.maintenanceInterval < config.slowInterval
  · rw [if_pos hmaintenance]
    exact iff_of_false (fun h => by cases h) fun h => absurd h.2.2 (Nat.not_le_of_lt hmaintenance)
  rw [if_neg hmaintenance]
  exact iff_of_true rfl ⟨Nat.not_lt.1 htcp, Nat.not_lt.1 hslow, Nat.not_lt.1 hmaintenance⟩

/-- What a configuration takes from a mapping. -/
structure Takes (values : List (Text × Text)) (config : MonitoringConfig) : Prop where
  dbPath : merged values keyDb = config.dbPath
  envDir : merged values keyEnvDir = config.envDir
  interval : ∀ interval : Interval, Denotes (merged values interval.key) (config.interval interval)

theorem head?_insertionSort_eq_none {l : List Text} : (l.insertionSort (· ≤ ·)).head? = none ↔ l = [] := by
  rw [List.head?_eq_none_iff, ← List.length_eq_zero_iff, List.length_insertionSort, List.length_eq_zero_iff]

/-- The mappings that `config_from_mapping` looks into. -/
structure Complete (values : List (Text × Text)) (requireAll : Bool) : Prop where
  allowed : ∀ entry ∈ values, entry.1 ∈ allowedKeys
  nonempty : ∀ entry ∈ values, entry.2 ≠ []
  all : requireAll = true → ∀ key ∈ allowedKeys, key ∈ values.map (·.1)

theorem Complete.checks {requireAll : Bool} : Complete values requireAll ↔
    (((values.map (·.1)).filter (· ∉ allowedKeys)).insertionSort (· ≤ ·)).head? = none ∧
      values.find? (·.2 = []) = none ∧
        (if requireAll then allowedKeys.find? (· ∉ values.map (·.1)) else none) = none := by
  rw [head?_insertionSort_eq_none, List.filter_eq_nil_iff, List.find?_eq_none]
  have hall : (if requireAll then allowedKeys.find? (· ∉ values.map (·.1)) else none) = none ↔
      (requireAll = true → ∀ key ∈ allowedKeys, key ∈ values.map (·.1)) := by
    cases requireAll with
    | false => simp
    | true =>
      rw [if_pos rfl, List.find?_eq_none]
      simp only [decide_eq_true_eq, not_not, true_imp_iff]
  rw [hall]
  simp only [List.forall_mem_map, decide_eq_true_eq, not_not]
  exact ⟨fun h => ⟨h.allowed, h.nonempty, h.all⟩, fun h => ⟨h.1, h.2.1, h.2.2⟩⟩

theorem configFromMapping_eq_ok {requireAll : Bool} : configFromMapping values requireAll = .ok config ↔
    Complete values requireAll ∧ config.Valid ∧ Takes values config := by
  unfold configFromMapping
  by_cases hcomplete : Complete values requireAll
  case neg =>
    refine iff_of_false (fun h => hcomplete (Complete.checks.2 ?_)) fun h => hcomplete h.1
    split at h
    · cases h
    · next hunknown =>
      split at h
      · cases h
      · next hempty =>
        split at h
        · cases h
        · next hmissing => exact ⟨hunknown, hempty, hmissing⟩
  obtain ⟨hunknown, hempty, hmissing⟩ := Complete.checks.1 hcomplete
  rw [hunknown, hempty, hmissing]
  simp only [hcomplete, true_and, bind_eq_ok, validatePath_eq_ok, validateInterval_eq_ok]
  constructor
  · rintro ⟨dbPath, ⟨hdb, hdbSafe⟩, envDir, ⟨henv, henvSafe⟩, sample, ⟨hsample, hsampleBounds⟩, tcp, ⟨htcp, htcpBounds⟩,
      slow, ⟨hslow, hslowBounds⟩, maintenance, ⟨hmaintenance, hmaintenanceBounds⟩, h⟩
    by_cases hfast : tcp < sample
    · rw [if_pos hfast] at h
      cases h
    by_cases hrare : slow < sample
    · rw [if_neg hfast, if_pos hrare] at h
      cases h
    by_cases hlate : maintenance < slow
    · rw [if_neg hfast, if_neg hrare, if_pos hlate] at h
      cases h
    rw [if_neg hfast, if_neg hrare, if_neg hlate] at h
    obtain rfl := Except.ok.inj h
    refine ⟨⟨hdb ▸ hdbSafe, henv ▸ henvSafe, validate_eq_ok.2 ?_⟩, hdb.symm, henv.symm, fun interval => ?_⟩
    · exact ⟨hsampleBounds, htcpBounds, hslowBounds, hmaintenanceBounds, Nat.not_lt.1 hfast, Nat.not_lt.1 hrare,
        Nat.not_lt.1 hlate⟩
    · cases interval with
      | sample => exact hsample
      | tcp => exact htcp
      | slow => exact hslow
      | maintenance => exact hmaintenance
  · rintro ⟨⟨hdbSafe, henvSafe, hintervals⟩, hdb, henv, hinterval⟩
    obtain ⟨hsample, htcp, hslow, hmaintenance, hfast, hrare, hlate⟩ := validate_eq_ok.1 hintervals
    refine ⟨config.dbPath, ⟨hdb.symm, hdb ▸ hdbSafe⟩, config.envDir, ⟨henv.symm, henv ▸ henvSafe⟩,
        config.sampleInterval,
      ⟨hinterval .sample, hsample⟩, config.tcpInterval, ⟨hinterval .tcp, htcp⟩, config.slowInterval,
      ⟨hinterval .slow, hslow⟩, config.maintenanceInterval, ⟨hinterval .maintenance, hmaintenance⟩, ?_⟩
    rw [if_neg (Nat.not_lt.2 hfast), if_neg (Nat.not_lt.2 hrare), if_neg (Nat.not_lt.2 hlate)]

/-! ## Lines -/

/-- An entry whose line is not refused. -/
structure CanAssign (entry : Text × Text) : Prop where
  allowed : entry.1 ∈ allowedKeys
  nonempty : entry.2 ≠ []
  unsplit : '=' ∉ entry.2
  harmless : entry.2.any isUnsafe = false

theorem equals_not_mem_allowedKeys : ∀ key ∈ allowedKeys, '=' ∉ key := by decide

theorem takeWhile_entryLine (h : '=' ∉ entry.1) : (entryLine entry).takeWhile (· ≠ '=') = entry.1 := by
  have hkey : ∀ c ∈ entry.1, decide (c ≠ '=') = true := fun c hc => decide_eq_true fun heq => h (heq ▸ hc)
  unfold entryLine
  rw [List.takeWhile_append_of_pos hkey]
  exact List.append_nil _

theorem dropWhile_entryLine (h : '=' ∉ entry.1) : ((entryLine entry).dropWhile (· ≠ '=')).tail = entry.2 := by
  have hkey : ∀ c ∈ entry.1, decide (c ≠ '=') = true := fun c hc => decide_eq_true fun heq => h (heq ▸ hc)
  unfold entryLine
  rw [List.dropWhile_append_of_pos hkey]
  rfl

theorem count_entryLine : (entryLine entry).count '=' = entry.1.count '=' + (entry.2.count '=' + 1) := by
  unfold entryLine
  rw [List.count_append, List.count_cons_self]

/-- A line with one equals sign is that of its parts. -/
theorem entryLine_split {line : Text} (h : line.count '=' = 1) :
    entryLine (line.takeWhile (· ≠ '='), (line.dropWhile (· ≠ '=')).tail) = line := by
  have hmem : '=' ∈ line := List.count_pos_iff.1 (by omega)
  have hdrop : line.dropWhile (· ≠ '=') ≠ [] := by
    intro hempty
    have hall := List.dropWhile_eq_nil_iff.1 hempty '=' hmem
    simp at hall
  have hhead : (line.dropWhile (· ≠ '=')).head hdrop = '=' := by
    have hnot := List.head_dropWhile_not (· ≠ '=') hdrop
    simpa using hnot
  unfold entryLine
  dsimp only
  conv_rhs => rw [← List.takeWhile_append_dropWhile (p := (· ≠ '=')) (l := line), ← List.cons_head_tail hdrop, hhead]

theorem parseLine_eq_ok {line : Text} {number : Nat} : parseLine values (line, number) = .ok values' ↔
    ∃ entry, line = entryLine entry ∧ CanAssign entry ∧ entry.1 ∉ values.map (·.1) ∧ values' = values ++ [entry] := by
  unfold parseLine
  constructor
  · intro h
    dsimp only at h
    split at h
    · cases h
    next hformed =>
      rw [not_or, not_not] at hformed
      split at h
      · cases h
      next hallowed =>
        split at h
        · cases h
        next hnew =>
          split at h
          · cases h
          next hnonempty =>
            split at h
            · cases h
            next hharmless =>
              have hsplit := entryLine_split hformed.2
              refine ⟨_, hsplit.symm, ⟨not_not.1 hallowed, hnonempty, ?_, Bool.eq_false_iff.2 hharmless⟩, hnew,
                (Except.ok.inj h).symm⟩
              have hcount := hformed.2
              rw [← hsplit, count_entryLine] at hcount
              exact List.count_eq_zero.1 (by omega)
  · rintro ⟨entry, rfl, hassign, hnew, rfl⟩
    have hkey : '=' ∉ entry.1 := equals_not_mem_allowedKeys entry.1 hassign.allowed
    have hcount : (entryLine entry).count '=' = 1 := by
      rw [count_entryLine, List.count_eq_zero.2 hkey, List.count_eq_zero.2 hassign.unsplit]
    have hne : entryLine entry ≠ [] := by
      intro hempty
      rw [hempty] at hcount
      cases hcount
    dsimp only
    rw [if_neg (not_or.2 ⟨hne, not_not.2 hcount⟩), takeWhile_entryLine hkey, dropWhile_entryLine hkey,
      if_neg (not_not.2 hassign.allowed), if_neg hnew, if_neg hassign.nonempty, hassign.harmless,
      if_neg Bool.false_ne_true]

/-- The values are those of the lines, each key once. -/
theorem parseLines_eq_ok {number : Nat} (hnodup : (values.map (·.1)).Nodup) :
    (lines.zipIdx number).foldlM parseLine values = .ok values' ↔ ∃ entries, lines = entries.map entryLine ∧
      (∀ entry ∈ entries, CanAssign entry) ∧ ((values ++ entries).map (·.1)).Nodup ∧ values' = values ++ entries := by
  induction lines generalizing number values with
  | nil =>
    rw [List.zipIdx_nil, List.foldlM_nil]
    constructor
    · intro h
      obtain rfl := Except.ok.inj h
      exact ⟨[], rfl, nofun, by rwa [List.append_nil], (List.append_nil values).symm⟩
    · rintro ⟨entries, hlines, -, -, rfl⟩
      rw [List.map_eq_nil_iff.1 hlines.symm, List.append_nil]
      rfl
  | cons line lines ih =>
    rw [List.zipIdx_cons, List.foldlM_cons, bind_eq_ok]
    constructor
    · rintro ⟨next, hline, h⟩
      obtain ⟨entry, rfl, hassign, hnew, rfl⟩ := parseLine_eq_ok.1 hline
      have hnext : ((values ++ [entry]).map (·.1)).Nodup := by
        rw [List.map_append, List.nodup_append]
        refine ⟨hnodup, List.nodup_singleton _, fun key hkey key' hkey' heq => ?_⟩
        rw [List.map_singleton, List.mem_singleton] at hkey'
        exact hnew (hkey' ▸ heq ▸ hkey)
      obtain ⟨entries, rfl, hentries, hall, rfl⟩ := (ih hnext).1 h
      rw [List.append_assoc] at hall
      exact ⟨entry :: entries, rfl, List.forall_mem_cons.2 ⟨hassign, hentries⟩, hall, List.append_assoc _ _ _⟩
    · rintro ⟨entries, hlines, hentries, hall, rfl⟩
      cases entries with
      | nil => cases hlines
      | cons entry entries =>
        obtain ⟨rfl, rfl⟩ := List.cons.inj hlines
        rw [List.forall_mem_cons] at hentries
        rw [List.append_cons] at hall
        have hnext : ((values ++ [entry]).map (·.1)).Nodup := by
          rw [List.map_append] at hall
          exact (List.nodup_append.1 hall).1
        have hnew : entry.1 ∉ values.map (·.1) := by
          rw [List.map_append, List.nodup_append] at hnext
          exact fun hmem => hnext.2.2 _ hmem _ List.mem_cons_self rfl
        refine ⟨values ++ [entry], parseLine_eq_ok.2 ⟨entry, rfl, hentries.1, hnew, rfl⟩, ?_⟩
        exact (ih hnext).2 ⟨entries, rfl, hentries.2, hall, List.append_cons values entry entries⟩

/-! ## Texts -/

/-- The entry of a line. -/
def lineEntry (line : Text) : Text × Text := (line.takeWhile (· ≠ '='), (line.dropWhile (· ≠ '=')).tail)

theorem lineEntry_entryLine (h : entry.1 ∈ allowedKeys) : lineEntry (entryLine entry) = entry := by
  have hkey := equals_not_mem_allowedKeys entry.1 h
  exact Prod.ext (takeWhile_entryLine hkey) (dropWhile_entryLine hkey)

/-- The lines of these entries are those of a configuration. -/
structure Assigns (entries : List (Text × Text)) (config : MonitoringConfig) : Prop where
  assignable : ∀ entry ∈ entries, CanAssign entry
  nodup : (entries.map (·.1)).Nodup
  all : ∀ key ∈ allowedKeys, key ∈ entries.map (·.1)
  takes : Takes entries config

theorem parseConfigText_eq_entries : parseConfigText text = .ok config ↔
    '\x00' ∉ text ∧ config.Valid ∧ ∃ entries, splitlines text = entries.map entryLine ∧ Assigns entries config := by
  unfold parseConfigText
  by_cases hnul : '\x00' ∈ text
  · rw [if_pos hnul]
    exact iff_of_false (fun h => by cases h) fun h => h.1 hnul
  rw [if_neg hnul]
  by_cases hlines : splitlines text = []
  · rw [if_pos hlines]
    refine iff_of_false (fun h => by cases h) ?_
    rintro ⟨-, -, entries, hentries, hassigns⟩
    rw [hlines, eq_comm, List.map_eq_nil_iff] at hentries
    have hkey := hassigns.all keyDb List.mem_cons_self
    rw [hentries] at hkey
    cases hkey
  rw [if_neg hlines]
  have hnodup : (([] : List (Text × Text)).map (·.1)).Nodup := List.nodup_nil
  simp only [bind_eq_ok, parseLines_eq_ok hnodup, configFromMapping_eq_ok, List.nil_append]
  constructor
  · rintro ⟨values, ⟨_, hentries, hassign, hnodup, rfl⟩, hcomplete, hvalid, htakes⟩
    exact ⟨hnul, hvalid, values, hentries, hassign, hnodup, hcomplete.all rfl, htakes⟩
  · rintro ⟨-, hvalid, entries, hentries, hassigns⟩
    refine ⟨entries, ⟨entries, hentries, hassigns.assignable, hassigns.nodup, rfl⟩, ?_, hvalid, hassigns.takes⟩
    exact {
      allowed := fun entry hentry => (hassigns.assignable entry hentry).allowed
      nonempty := fun entry hentry => (hassigns.assignable entry hentry).nonempty
      all := fun _ => hassigns.all
    }

/-! ## Descriptions -/

theorem merged_of_mem (hnodup : (values.map (·.1)).Nodup) (hmem : entry ∈ values) :
    merged values entry.1 = entry.2 := by
  unfold merged valueOf
  rw [(find_eq_some hnodup).2 ⟨hmem, rfl⟩]
  rfl

theorem Assigns.line_mem (h : Assigns values config) {key : Text} (hkey : key ∈ allowedKeys) :
    entryLine (key, merged values key) ∈ values.map entryLine := by
  obtain ⟨entry, hentry, rfl⟩ := List.mem_map.1 (h.all key hkey)
  rw [merged_of_mem h.nodup hentry]
  exact List.mem_map_of_mem hentry

theorem key_mem_allowedKeys : interval.key ∈ allowedKeys := by
  cases interval <;> decide

theorem nodup_allowedKeys : allowedKeys.Nodup := by decide

theorem Assigns.isDescribedBy (h : Assigns values config) : config.IsDescribedBy (values.map entryLine) := by
  have hkeys : (values.map (·.1)).Perm allowedKeys := by
    refine (List.perm_ext_iff_of_nodup h.nodup nodup_allowedKeys).2 fun key => ⟨fun hkey => ?_, h.all key⟩
    obtain ⟨entry, hentry, rfl⟩ := List.mem_map.1 hkey
    exact (h.assignable entry hentry).allowed
  refine ⟨?_, ?_, ?_, fun interval => ⟨_, h.line_mem key_mem_allowedKeys, h.takes.interval interval⟩⟩
  · rw [List.length_map, ← hkeys.length_eq, List.length_map]
  · rw [← h.takes.dbPath]
    exact h.line_mem List.mem_cons_self
  · rw [← h.takes.envDir]
    exact h.line_mem (List.mem_cons_of_mem _ List.mem_cons_self)

/-- The entries of a configuration, for these numerals. -/
def describingEntries (config : MonitoringConfig) (raws : Interval → Text) : List (Text × Text) :=
  [(keyDb, config.dbPath), (keyEnvDir, config.envDir)] ++ Interval.all.map fun interval => (interval.key, raws interval)

variable {raws : Interval → Text}

theorem keys_describingEntries : (describingEntries config raws).map (·.1) = allowedKeys := rfl

theorem mem_describingEntries : entry ∈ describingEntries config raws ↔
    entry = (keyDb, config.dbPath) ∨ entry = (keyEnvDir, config.envDir) ∨
      ∃ interval : Interval, entry = (interval.key, raws interval) := by
  have hall : ∀ interval, interval ∈ Interval.all := fun interval => by cases interval <;> decide
  unfold describingEntries
  rw [List.mem_append, List.mem_cons, List.mem_singleton, List.mem_map, or_assoc]
  simp only [hall, true_and, eq_comm]

theorem IsSafePath.not_mem_equals (h : IsSafePath value) : '=' ∉ value := by
  have hsafe := h.safe
  unfold safePathRe at hsafe
  split at hsafe
  next rest =>
    rw [Bool.and_eq_true, List.all_eq_true] at hsafe
    intro hmem
    rcases List.mem_cons.1 hmem with hmem | hmem
    · cases hmem
    · exact absurd (hsafe.2 _ hmem) (by decide)
  next => cases hsafe

theorem IsSafePath.canAssign (h : IsSafePath entry.2) (hkey : entry.1 ∈ allowedKeys) : CanAssign entry where
  allowed := hkey
  nonempty := by
    intro hempty
    have hsafe := h.safe
    rw [hempty] at hsafe
    cases hsafe
  unsplit := h.not_mem_equals
  harmless := by
    rw [List.any_eq_false]
    exact fun c hc => Bool.eq_false_iff.1 (h.harmless c hc)

theorem isUnsafe_of_isDigit {c : Char} (h : c.isDigit = true) : isUnsafe c = false := by
  unfold isUnsafe
  rw [isspace_of_isValueChar (isValueChar_of_isDigit h), Bool.false_or, Bool.eq_false_iff, Ne, List.contains_iff_mem]
  intro hmem
  have hnot : ['\x00', '\r', '\n', '\'', '"', '\x60', '$', ';', '&', '|', '<', '>', '\\', '(', ')', '\x7b', '\x7d',
      '[', ']'].all (fun d => !d.isDigit) = true := rfl
  have hdigit := List.all_eq_true.1 hnot c hmem
  rw [h] at hdigit
  cases hdigit

theorem Denotes.canAssign (h : Denotes entry.2 n) (hkey : entry.1 ∈ allowedKeys) : CanAssign entry := by
  obtain ⟨hne, hdigits⟩ := isNumeral_iff.1 h.numeral
  refine ⟨hkey, hne, fun hmem => absurd (hdigits _ hmem) (by decide), ?_⟩
  rw [List.any_eq_false]
  exact fun c hc => Bool.eq_false_iff.1 (isUnsafe_of_isDigit (hdigits c hc))

theorem assigns_of_perm (hvalid : config.Valid) (hraws : ∀ interval, Denotes (raws interval) (config.interval interval))
    (h : values.Perm (describingEntries config raws)) : Assigns values config := by
  have hkeys : (values.map (·.1)).Perm allowedKeys := keys_describingEntries ▸ h.map (·.1)
  have hnodup : (values.map (·.1)).Nodup := hkeys.nodup_iff.2 nodup_allowedKeys
  refine ⟨fun entry hentry => ?_, hnodup, fun key => hkeys.mem_iff.2, ?_, ?_, fun interval => ?_⟩
  · have hkey : entry.1 ∈ allowedKeys := hkeys.mem_iff.1 (List.mem_map_of_mem hentry)
    rcases mem_describingEntries.1 (h.mem_iff.1 hentry) with rfl | rfl | ⟨interval, rfl⟩
    · exact hvalid.dbPath.canAssign hkey
    · exact hvalid.envDir.canAssign hkey
    · exact (hraws interval).canAssign hkey
  · exact merged_of_mem hnodup (h.mem_iff.2 (mem_describingEntries.2 (.inl rfl)))
  · exact merged_of_mem hnodup (h.mem_iff.2 (mem_describingEntries.2 (.inr (.inl rfl))))
  · have hmem : (interval.key, raws interval) ∈ values :=
      h.mem_iff.2 (mem_describingEntries.2 (.inr (.inr ⟨interval, rfl⟩)))
    rw [merged_of_mem hnodup hmem]
    exact hraws interval

/-- As many lines as there are keys leave no room for others. -/
theorem MonitoringConfig.IsDescribedBy.assigns (h : config.IsDescribedBy lines) (hvalid : config.Valid) :
    ∃ entries, lines = entries.map entryLine ∧ Assigns entries config := by
  choose raws hraws hdenotes using h.interval
  set described := describingEntries config raws with hdescribed
  have hsplit : (described.map entryLine).map lineEntry = described := by
    rw [List.map_map]
    refine (List.map_congr_left fun entry hentry => ?_).trans (List.map_id _)
    exact lineEntry_entryLine (keys_describingEntries ▸ List.mem_map_of_mem hentry)
  have hnodup : (described.map entryLine).Nodup := by
    refine List.Nodup.of_map lineEntry ?_
    rw [hsplit]
    exact List.Nodup.of_map (·.1) (keys_describingEntries ▸ nodup_allowedKeys : (described.map (·.1)).Nodup)
  have hsubset : described.map entryLine ⊆ lines := by
    intro line hline
    obtain ⟨entry, hentry, rfl⟩ := List.mem_map.1 hline
    rcases mem_describingEntries.1 hentry with rfl | rfl | ⟨interval, rfl⟩
    · exact h.dbPath
    · exact h.envDir
    · exact hraws interval
  have hperm : (described.map entryLine).Perm lines :=
    (List.subperm_of_subset hnodup hsubset).perm_of_length_le (Nat.le_of_eq h.length)
  have hentries : (lines.map lineEntry).Perm described := hsplit ▸ (hperm.map lineEntry).symm
  refine ⟨lines.map lineEntry, ?_, assigns_of_perm hvalid hdenotes hentries⟩
  rw [List.map_map]
  refine ((List.map_congr_left fun line hline => ?_).trans (List.map_id _)).symm
  obtain ⟨entry, hentry, rfl⟩ := List.mem_map.1 (hperm.mem_iff.2 hline)
  exact congrArg entryLine (lineEntry_entryLine (keys_describingEntries ▸ List.mem_map_of_mem hentry))

/-- A text is accepted as a configuration if and only if its lines are those of the keys, in whatever order, and what
they say is valid. -/
theorem parseConfigText_eq_ok : parseConfigText text = .ok config ↔
    '\x00' ∉ text ∧ config.Valid ∧ config.IsDescribedBy (splitlines text) := by
  rw [parseConfigText_eq_entries]
  refine and_congr_right fun _ => and_congr_right fun hvalid => ?_
  constructor
  · rintro ⟨entries, hentries, hassigns⟩
    rw [hentries]
    exact hassigns.isDescribedBy
  · exact fun h => h.assigns hvalid

/-! ## Round trip -/

theorem interval_le (h : config.Valid) : config.interval interval ≤ 86400 := by
  obtain ⟨hsample, htcp, hslow, hmaintenance, -⟩ := validate_eq_ok.1 h.intervals
  cases interval with
  | sample => exact Nat.le_trans hsample.2 (by decide)
  | tcp => exact Nat.le_trans htcp.2 (by decide)
  | slow => exact Nat.le_trans hslow.2 (by decide)
  | maintenance => exact hmaintenance.2

/-- A number is read back from its numeral. -/
theorem denotes_toDigits (h : config.Valid) :
    Denotes (Nat.toDigits 10 (config.interval interval)) (config.interval interval) := by
  have hinterval : config.interval interval ≤ 86400 := interval_le h
  have hlength : (Nat.toDigits 10 (config.interval interval)).length ≤ 5 :=
    (Nat.length_toDigits_le_iff (by decide) (by decide)).2 (by omega)
  exact ⟨isNumeral_toDigits, Nat.le_trans hlength (by decide), number_toDigits⟩

theorem assigns_asMapping (h : config.Valid) : Assigns config.asMapping config :=
  assigns_of_perm h (fun _ => denotes_toDigits h) (List.Perm.refl _)

theorem plain_allowedKeys : ∀ key ∈ allowedKeys, ∀ c ∈ key, isLineBoundary c = false ∧ c ≠ '\x00' := by
  have hplain : allowedKeys.all (fun key => key.all fun c => !isLineBoundary c && c != '\x00') = true := rfl
  intro key hkey c hc
  have hchar := List.all_eq_true.1 (List.all_eq_true.1 hplain key hkey) c hc
  rw [Bool.and_eq_true, Bool.not_eq_true', bne_iff_ne] at hchar
  exact hchar

theorem isLineBoundary_of_isUnsafe {c : Char} (h : isUnsafe c = false) : isLineBoundary c = false ∧ c ≠ '\x00' := by
  unfold isUnsafe at h
  rw [Bool.or_eq_false_iff] at h
  obtain ⟨hspace, hlist⟩ := h
  constructor
  · simp [isspace] at hspace
    simp [isLineBoundary]
    omega
  · rintro rfl
    cases hlist

theorem CanAssign.plain (h : CanAssign entry) : ∀ c ∈ entryLine entry, isLineBoundary c = false ∧ c ≠ '\x00' := by
  intro c hc
  rcases List.mem_append.1 hc with hc | hc
  · exact plain_allowedKeys _ h.allowed c hc
  · rcases List.mem_cons.1 hc with rfl | hc
    · decide
    · have hharmless := h.harmless
      rw [List.any_eq_false] at hharmless
      exact isLineBoundary_of_isUnsafe (Bool.eq_false_iff.2 (hharmless c hc))

theorem text_eq : config.text = ((config.asMapping.map entryLine).map (· ++ ['\n'])).flatten := by
  rw [List.map_map]
  rfl

theorem splitlines_text (h : config.Valid) : splitlines config.text = config.asMapping.map entryLine := by
  rw [text_eq]
  refine splitlines_flatten fun line hline c hc => ?_
  obtain ⟨entry, hentry, rfl⟩ := List.mem_map.1 hline
  exact (((assigns_asMapping h).assignable entry hentry).plain c hc).1

theorem nul_not_mem_text (h : config.Valid) : '\x00' ∉ config.text := by
  rw [text_eq, List.mem_flatten]
  rintro ⟨line, hline, hnul⟩
  obtain ⟨_, hmem, rfl⟩ := List.mem_map.1 hline
  obtain ⟨entry, hentry, rfl⟩ := List.mem_map.1 hmem
  rcases List.mem_append.1 hnul with hnul | hnul
  · exact (((assigns_asMapping h).assignable entry hentry).plain _ hnul).2 rfl
  · cases List.mem_singleton.1 hnul

theorem configFromMapping_asMapping (h : config.Valid) : configFromMapping config.asMapping true = .ok config := by
  have hassigns := assigns_asMapping h
  rw [configFromMapping_eq_ok]
  refine ⟨⟨fun entry hentry => ?_, fun entry hentry => ?_, fun _ => hassigns.all⟩, h, hassigns.takes⟩
  · exact (hassigns.assignable entry hentry).allowed
  · exact (hassigns.assignable entry hentry).nonempty

/-- A configuration that was accepted is read back from its text, and from its mapping. -/
theorem parseConfigText_text {requireAll : Bool} (h : configFromMapping values requireAll = .ok config) :
    parseConfigText config.text = .ok config ∧ configFromMapping config.asMapping true = .ok config := by
  obtain ⟨-, hvalid, -⟩ := configFromMapping_eq_ok.1 h
  refine ⟨?_, configFromMapping_asMapping hvalid⟩
  rw [parseConfigText_eq_entries]
  exact ⟨nul_not_mem_text hvalid, hvalid, config.asMapping, splitlines_text hvalid, assigns_asMapping hvalid⟩

theorem parseConfigText_text_default : parseConfigText defaultConfigText = .ok {} ∧
    configFromMapping (MonitoringConfig.asMapping {}) true = .ok {} :=
  parseConfigText_text (show configFromMapping [] = .ok {} from rfl)

end Monitoring.Configuration
