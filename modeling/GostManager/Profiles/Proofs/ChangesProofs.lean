import GostManager.Profiles.Changes
import GostManager.Profiles.Proofs.PortsProofs
import GostManager.Texts.Proofs.ShellProofs

/-!
# Proofs: changes

A profile that is written and loaded again has the values that the last calls gave it, its other values, and the
lines that the manager does not know in their order; unless the file has become too long to load.
-/

namespace Profiles

open Texts

variable {side : Side} {env env' : ProfileEnv} {lines : List Text} {line key key' value data text : Text}
  {call : Change} {calls : List Change} {c : Char}

/-! ## What can be stored -/

/-- A profile that a file can hold: known keys once each, values and other lines on one line. -/
structure Storable (side : Side) (env : ProfileEnv) : Prop where
  keys : (env.entries.map (·.1)).Nodup
  known : ∀ entry ∈ env.entries, entry.1 ∈ knownKeys side
  values : ∀ entry ∈ env.entries, IsOneLine entry.2
  others : ∀ line ∈ env.preserved, assignsOther side line = true
  lines : ∀ line ∈ env.preserved, IsOneLine line

theorem isOneLine_of_mem_readLines (h : isPlain data = true) (hline : line ∈ readLines data) : IsOneLine line := by
  obtain ⟨hzero, hreturn⟩ := not_mem_of_isPlain h
  have hpart := mem_readLines hline
  exact ⟨not_mem_of_mem_splitOn hpart, fun hmem => hreturn (mem_of_mem_splitOn hpart hmem),
    fun hmem => hzero (mem_of_mem_splitOn hpart hmem)⟩

theorem isOneLine_of_assign (h : IsOneLine (assign key value)) : IsOneLine value :=
  ⟨fun hmem => h.1 (List.mem_append_right _ (List.mem_cons_of_mem _ hmem)),
    fun hmem => h.2.1 (List.mem_append_right _ (List.mem_cons_of_mem _ hmem)),
    fun hmem => h.2.2 (List.mem_append_right _ (List.mem_cons_of_mem _ hmem))⟩

/-- What is loaded can be stored. -/
theorem storable_of_profileEnvLoad (h : profileEnvLoad data side = some env) : Storable side env := by
  obtain ⟨hplain, hloaded⟩ := loaded_of_profileEnvLoad h
  have hentries : ∀ entry ∈ env.entries, ∃ line ∈ readLines data,
      assignment line = some entry ∧ entry.1 ∈ knownKeys side := by
    intro entry hentry
    rw [hloaded.entries] at hentry
    obtain ⟨hassigned, hknown⟩ := List.mem_filter.1 ((List.mem_append.1 hentry).resolve_left List.not_mem_nil)
    obtain ⟨line, hline, hassignment⟩ := List.mem_filterMap.1 hassigned
    exact ⟨line, hline, hassignment, of_decide_eq_true hknown⟩
  have hpreserved : ∀ line ∈ env.preserved, line ∈ readLines data ∧ assignsOther side line = true := by
    intro line hline
    rw [hloaded.preserved] at hline
    exact List.mem_filter.1 ((List.mem_append.1 hline).resolve_left List.not_mem_nil)
  refine ⟨hloaded.keys, fun entry hentry => ?_, fun entry hentry => ?_, fun line hline => (hpreserved line hline).2,
    fun line hline => isOneLine_of_mem_readLines hplain (hpreserved line hline).1⟩
  · obtain ⟨line, -, -, hknown⟩ := hentries entry hentry
    exact hknown
  · obtain ⟨line, hline, hassignment, -⟩ := hentries entry hentry
    obtain ⟨rfl, -⟩ := assignment_eq_some hassignment
    exact isOneLine_of_assign (isOneLine_of_mem_readLines hplain hline)

/-! ## Calls -/

theorem keys_set (h : key ∈ env.entries.map (·.1)) : (env.set key value).entries.map (·.1) = env.entries.map (·.1) := by
  unfold ProfileEnv.set
  rw [if_pos h, List.map_map]
  refine List.map_congr_left fun entry _ => ?_
  by_cases heq : entry.1 = key
  · simp [heq]
  · simp [heq]

theorem value?_set : (env.set key value).value? key' = if key' = key then some value else env.value? key' := by
  unfold ProfileEnv.set ProfileEnv.value?
  split
  · next hmem =>
    have hkeys : (fun entry : Text × Text => decide (entry.1 = key')) ∘
        (fun entry => if entry.1 = key then (key, value) else entry) = fun entry => decide (entry.1 = key') := by
      funext entry
      by_cases heq : entry.1 = key
      · simp [heq]
      · simp [heq]
    rw [List.find?_map, hkeys, Option.map_map]
    cases hfind : env.entries.find? fun entry => decide (entry.1 = key') with
    | none =>
      rw [if_neg]
      · rfl
      · rintro rfl
        obtain ⟨entry, hentry, heq⟩ := List.mem_map.1 hmem
        exact absurd heq (by simpa using List.find?_eq_none.1 hfind entry hentry)
    | some entry =>
      have hkey : entry.1 = key' := by simpa using List.find?_some hfind
      by_cases heq : key' = key
      · simp [heq, hkey]
      · simp [heq, hkey]
  · next hmem =>
    rw [List.find?_append, Option.map_or]
    by_cases heq : key' = key
    · have hnone : env.entries.find? (fun entry => decide (entry.1 = key')) = none := by
        refine List.find?_eq_none.2 fun entry hentry hkey => hmem ?_
        rw [← heq]
        exact List.mem_map.2 ⟨entry, hentry, of_decide_eq_true hkey⟩
      rw [hnone, if_pos heq]
      simp [heq]
    · rw [if_neg heq, List.find?_cons_of_neg (by simpa using Ne.symm heq)]
      simp

theorem value?_unset : (env.unset key).value? key' = if key' = key then none else env.value? key' := by
  unfold ProfileEnv.unset ProfileEnv.value?
  rw [List.find?_filter]
  by_cases heq : key' = key
  · rw [if_pos heq, Option.map_eq_none_iff, List.find?_eq_none]
    intro entry _
    simp [heq]
  · rw [if_neg heq]
    congr 2
    funext entry
    by_cases hkey : entry.1 = key'
    · simp [hkey, heq]
    · simp [hkey]

theorem preserved_set : (env.set key value).preserved = env.preserved := by
  unfold ProfileEnv.set
  split <;> rfl

theorem preserved_change : (env.change call).preserved = env.preserved := by
  cases call with
  | set key value => exact preserved_set
  | unset key => rfl

theorem value?_change : (env.change call).value? key =
    if key = call.key then call.value? else env.value? key := by
  cases call with
  | set key' value => exact value?_set
  | unset key' => exact value?_unset

theorem mem_entries_set {entry : Text × Text} (h : entry ∈ (env.set key value).entries) :
    entry ∈ env.entries ∨ entry = (key, value) := by
  unfold ProfileEnv.set at h
  split at h
  · obtain ⟨old, hold, rfl⟩ := List.mem_map.1 h
    split
    · exact .inr rfl
    · exact .inl hold
  · rcases List.mem_append.1 h with h | h
    · exact .inl h
    · exact .inr (List.mem_singleton.1 h)

theorem nodup_keys_set (h : (env.entries.map (·.1)).Nodup) : ((env.set key value).entries.map (·.1)).Nodup := by
  by_cases hmem : key ∈ env.entries.map (·.1)
  · rwa [keys_set hmem]
  · unfold ProfileEnv.set
    rw [if_neg hmem, List.map_append, List.nodup_append]
    refine ⟨h, List.nodup_singleton _, fun a ha b hb => ?_⟩
    obtain rfl := List.mem_singleton.1 hb
    rintro rfl
    exact hmem ha

theorem Storable.set (h : Storable side env) (hknown : key ∈ knownKeys side) (hvalue : IsOneLine value) :
    Storable side (env.set key value) := by
  refine ⟨nodup_keys_set h.keys, fun entry hentry => ?_, fun entry hentry => ?_, ?_, ?_⟩
  · rcases mem_entries_set hentry with hentry | rfl
    · exact h.known entry hentry
    · exact hknown
  · rcases mem_entries_set hentry with hentry | rfl
    · exact h.values entry hentry
    · exact hvalue
  · rw [preserved_set]
    exact h.others
  · rw [preserved_set]
    exact h.lines

theorem Storable.unset (h : Storable side env) : Storable side (env.unset key) :=
  { keys := h.keys.sublist (List.filter_sublist.map _)
    known := fun entry hentry => h.known entry (List.mem_filter.1 hentry).1
    values := fun entry hentry => h.values entry (List.mem_filter.1 hentry).1
    others := h.others
    lines := h.lines }

/-- A call leaves a profile that can be stored. -/
theorem Storable.change (h : Storable side env) (hcall : call.IsProper side) : Storable side (env.change call) := by
  cases call with
  | set key value => exact h.set hcall.known (hcall.value value rfl)
  | unset key => exact h.unset

theorem changes_concat : env.changes (calls ++ [call]) = (env.changes calls).change call := List.foldl_concat _ _ _ _

/-- Calls leave a profile that can be stored. -/
theorem Storable.changes (h : Storable side env) (hcalls : ∀ call ∈ calls, call.IsProper side) :
    Storable side (env.changes calls) := by
  induction calls using List.reverseRecOn with
  | nil => exact h
  | append_singleton calls call ih =>
    rw [List.forall_mem_append, List.forall_mem_singleton] at hcalls
    rw [changes_concat]
    exact (ih hcalls.1).change hcalls.2

theorem preserved_changes : (env.changes calls).preserved = env.preserved := by
  induction calls using List.reverseRecOn with
  | nil => rfl
  | append_singleton calls call ih => rw [changes_concat, preserved_change, ih]

/-- After calls a key has the value of the last call that is about it, or else the value that it had. -/
theorem value?_changes : (env.changes calls).value? key = lastValue calls key (env.value? key) := by
  induction calls using List.reverseRecOn with
  | nil => rfl
  | append_singleton calls call ih =>
    rw [changes_concat, value?_change, ih]
    unfold lastValue
    rw [List.reverse_concat, List.find?_cons]
    by_cases hkey : key = call.key
    · simp [hkey]
    · simp [hkey, Ne.symm hkey]

/-! ## Lines that are written and read -/

theorem splitOn_flatten (h : ∀ line ∈ lines, '\n' ∉ line) :
    splitOn '\n' (lines.map (· ++ ['\n'])).flatten = lines ++ [[]] := by
  induction lines with
  | nil => rfl
  | cons line lines ih =>
    rw [List.forall_mem_cons] at h
    rw [List.map_cons, List.flatten_cons, List.append_assoc, List.singleton_append, splitOn, splitOnFrom_append,
      splitOnFrom_of_not_mem h.1, ih h.2]
    rfl

/-- Lines are read as they were written. -/
theorem readLines_flatten (h : ∀ line ∈ lines, '\n' ∉ line) :
    readLines (lines.map (· ++ ['\n'])).flatten = lines := by
  unfold readLines
  rw [splitOn_flatten h]
  simp

theorem isIgnored_of_assignment (h : (assignment line).isSome = true) : isIgnored line = false := by
  refine Bool.eq_false_iff.2 fun hignored => ?_
  rw [assignment_of_isIgnored hignored] at h
  cases h

/-- A line of a known key that is new. -/
theorem loadLine_assign (hknown : key ∈ knownKeys side) (hvalue : IsOneLine value)
    (hnew : key ∉ env.entries.map (·.1)) :
    loadLine side env (assign key value) = some { env with entries := env.entries ++ [(key, value)] } := by
  have hassignment : assignment (assign key value) = some (key, value) :=
    assignment_assign (isKey_of_known hknown).1 (isKey_of_known hknown).2
  have hclean : ¬ ('\n' ∈ value ∨ '\r' ∈ value) := not_or.2 ⟨hvalue.1, hvalue.2.1⟩
  have hignored : isIgnored (assign key value) = false := isIgnored_of_assignment (by rw [hassignment]; rfl)
  unfold loadLine
  rw [hignored, hassignment, if_neg Bool.false_ne_true]
  dsimp only
  rw [if_neg hclean, if_pos hknown, if_neg hnew]

/-- A line of a key that the manager does not know. -/
theorem loadLine_other (hother : assignsOther side line = true) (hline : IsOneLine line) :
    loadLine side env line = some { env with preserved := env.preserved ++ [line] } := by
  unfold assignsOther at hother
  cases hassignment : assignment line with
  | none =>
    rw [hassignment] at hother
    cases hother
  | some entry =>
    obtain ⟨key, value⟩ := entry
    rw [hassignment] at hother
    have hunknown : key ∉ knownKeys side := of_decide_eq_true hother
    obtain ⟨rfl, -⟩ := assignment_eq_some hassignment
    have hvalue := isOneLine_of_assign hline
    have hclean : ¬ ('\n' ∈ value ∨ '\r' ∈ value) := not_or.2 ⟨hvalue.1, hvalue.2.1⟩
    have hignored : isIgnored (assign key value) = false := isIgnored_of_assignment (by rw [hassignment]; rfl)
    unfold loadLine
    rw [hignored, hassignment, if_neg Bool.false_ne_true]
    dsimp only
    rw [if_neg hclean, if_neg hunknown]

/-- What `profile_env_write_lines` writes of the entries, in its order. -/
def writtenEntries (side : Side) (env : ProfileEnv) : List (Text × Text) :=
  (knownKeys side).filterMap fun key => (env.value? key).map (key, ·)

theorem profileEnvWriteLines_eq_flatten (h : Storable side env) : profileEnvWriteLines side env =
    ((((writtenEntries side env).map fun entry => assign entry.1 entry.2) ++ env.preserved).map
      (· ++ ['\n'])).flatten := by
  have hpreserved : env.preserved.filter (· ≠ []) = env.preserved := by
    refine List.filter_eq_self.2 fun line hline => decide_eq_true ?_
    rintro rfl
    cases h.others [] hline
  have hknown : (knownKeys side).filterMap (fun key => (env.value? key).map (assign key)) =
      (writtenEntries side env).map fun entry => assign entry.1 entry.2 := by
    unfold writtenEntries
    rw [List.map_filterMap]
    refine List.filterMap_congr fun key _ => ?_
    cases env.value? key <;> rfl
  unfold profileEnvWriteLines
  dsimp only
  rw [hpreserved, hknown]

theorem mem_writtenEntries (h : Storable side env) :
    (key, value) ∈ writtenEntries side env ↔ (key, value) ∈ env.entries := by
  have hvalue : env.value? key = some value ↔ (key, value) ∈ env.entries := lookup_eq_some h.keys
  rw [← hvalue]
  unfold writtenEntries
  rw [List.mem_filterMap]
  constructor
  · rintro ⟨key', -, hentry⟩
    obtain ⟨value', hvalue', hpair⟩ := Option.map_eq_some_iff.1 hentry
    obtain ⟨rfl, rfl⟩ := Prod.mk.inj hpair
    exact hvalue'
  · intro hentry
    exact ⟨key, h.known _ (hvalue.1 hentry), by rw [hentry]; rfl⟩

theorem nodup_keys_written : ((writtenEntries side env).map (·.1)).Nodup := by
  have hkeys : ∀ keys : List Text, ((keys.filterMap fun key => (env.value? key).map (key, ·)).map (·.1)).Sublist keys := by
    intro keys
    induction keys with
    | nil => exact .slnil
    | cons key keys ih =>
      cases hvalue : env.value? key with
      | none =>
        rw [List.filterMap_cons_none (by rw [hvalue]; rfl)]
        exact ih.cons key
      | some value =>
        rw [List.filterMap_cons_some (by rw [hvalue]; rfl), List.map_cons]
        exact ih.cons_cons key
  have hnodup : (knownKeys side).Nodup := by cases side <;> decide
  exact hnodup.sublist (hkeys _)

theorem perm_writtenEntries (h : Storable side env) : (writtenEntries side env).Perm env.entries :=
  (List.perm_ext_iff_of_nodup nodup_keys_written.of_map h.keys.of_map).2 fun ⟨_, _⟩ => mem_writtenEntries h

/-- The loop over lines of known keys. -/
theorem foldlM_assign {entries : List (Text × Text)} (hknown : ∀ entry ∈ entries, entry.1 ∈ knownKeys side)
    (hvalues : ∀ entry ∈ entries, IsOneLine entry.2) (hkeys : ((env.entries ++ entries).map (·.1)).Nodup) :
    (entries.map fun entry => assign entry.1 entry.2).foldlM (loadLine side) env =
      some { env with entries := env.entries ++ entries } := by
  induction entries generalizing env with
  | nil => simp
  | cons entry entries ih =>
    rw [List.forall_mem_cons] at hknown hvalues
    have hnew : entry.1 ∉ env.entries.map (·.1) := by
      rw [List.map_append, List.nodup_append] at hkeys
      exact fun hmem => hkeys.2.2 _ hmem _ (List.mem_map_of_mem List.mem_cons_self) rfl
    rw [List.map_cons, List.foldlM_cons, loadLine_assign hknown.1 hvalues.1 hnew]
    have hrest := @ih { env with entries := env.entries ++ [entry] } hknown.2 hvalues.2 (by simpa using hkeys)
    simpa using hrest

/-- The loop over the other lines. -/
theorem foldlM_other (hothers : ∀ line ∈ lines, assignsOther side line = true)
    (hlines : ∀ line ∈ lines, IsOneLine line) :
    lines.foldlM (loadLine side) env = some { env with preserved := env.preserved ++ lines } := by
  induction lines generalizing env with
  | nil => simp
  | cons line lines ih =>
    rw [List.forall_mem_cons] at hothers hlines
    rw [List.foldlM_cons, loadLine_other hothers.1 hlines.1]
    have hrest := @ih { env with preserved := env.preserved ++ [line] } hothers.2 hlines.2
    simpa using hrest

/-! ## Bytes -/

theorem bytes_append : bytes (text ++ value) = bytes text + bytes value := by
  unfold bytes
  rw [List.map_append, List.sum_append]

/-- The bytes of a line with the line feed after it. -/
def cost (line : Text) : Nat := bytes line + 1

theorem bytes_flatten : bytes (lines.map (· ++ ['\n'])).flatten = (lines.map cost).sum := by
  induction lines with
  | nil => rfl
  | cons line lines ih =>
    rw [List.map_cons, List.flatten_cons, bytes_append, bytes_append, ih, List.map_cons, List.sum_cons]
    rfl

theorem sum_cost_splitOnFrom {part : Text} :
    ((splitOnFrom '\n' part text).map cost).sum = bytes part + bytes text + 1 := by
  induction text generalizing part with
  | nil => simp [cost, bytes]
  | cons c text ih =>
    have hcons : bytes (c :: text) = c.utf8Size + bytes text := by simp [bytes]
    by_cases hc : c = '\n'
    · have hfeed : Char.utf8Size '\n' = 1 := rfl
      have hnil : bytes [] = 0 := rfl
      rw [hcons, hc, splitOnFrom_cons_self, List.map_cons, List.sum_cons, ih, cost, hfeed, hnil]
      omega
    · have hone : bytes [c] = c.utf8Size := by simp [bytes]
      rw [hcons, splitOnFrom_cons_of_ne hc, ih, bytes_append, hone]
      omega

/-- The lines that the shell reads are no longer than the file, with a line feed at its end. -/
theorem sum_cost_readLines : ((readLines data).map cost).sum ≤ bytes data + 1 ∧
    (data.getLast? = some '\n' → ((readLines data).map cost).sum = bytes data) := by
  have hsum : ((splitOn '\n' data).map cost).sum = bytes data + 1 := by
    unfold splitOn
    rw [sum_cost_splitOnFrom]
    simp [bytes]
  by_cases hlast : (splitOn '\n' data).getLast? = some []
  · have hlines : readLines data = (splitOn '\n' data).dropLast := if_pos hlast
    have hcost : cost [] = 1 := rfl
    rw [← List.dropLast_append_getLast? [] hlast, List.map_append, List.sum_append, List.map_singleton,
      List.sum_singleton, hcost, ← hlines] at hsum
    exact ⟨by omega, fun _ => by omega⟩
  · have hlines : readLines data = splitOn '\n' data := if_neg hlast
    rw [hlines, hsum]
    exact ⟨Nat.le_refl _, fun hfeed => absurd (getLast?_splitOn.2 (.inr hfeed)) hlast⟩

/-- What is loaded of lines is no longer than the lines. -/
theorem sum_cost_loaded : ((knownAssignments side lines).map fun entry => cost (assign entry.1 entry.2)).sum +
    ((lines.filter (assignsOther side)).map cost).sum ≤ (lines.map cost).sum := by
  induction lines with
  | nil => exact Nat.le_refl 0
  | cons line lines ih =>
    rw [List.map_cons, List.sum_cons]
    unfold knownAssignments at ih ⊢
    rw [assignments_cons, List.filter_append]
    cases hassignment : assignment line with
    | none =>
      rw [List.filter_cons_of_neg (by simp [assignsOther, hassignment])]
      simpa using Nat.le_add_left_of_le ih
    | some entry =>
      obtain ⟨key, value⟩ := entry
      obtain ⟨hline, -⟩ := assignment_eq_some hassignment
      by_cases hknown : key ∈ knownKeys side
      · rw [List.filter_cons_of_neg (by simp [assignsOther, hassignment, hknown])]
        simp only [Option.toList_some, List.filter_cons, List.filter_nil, hknown, decide_true, if_true,
          List.singleton_append, List.map_cons, List.sum_cons, ← hline]
        omega
      · rw [List.filter_cons_of_pos (by simp [assignsOther, hassignment, hknown])]
        simp only [Option.toList_some, List.filter_cons, List.filter_nil, hknown, decide_false, if_false,
          List.nil_append, List.map_cons, List.sum_cons, Bool.false_eq_true]
        omega

/-! ## Writing and loading -/

/-- What is written has only characters of the profile. -/
theorem isOneLine_of_written (h : Storable side env)
    (hline : line ∈ ((writtenEntries side env).map fun entry => assign entry.1 entry.2) ++ env.preserved) :
    IsOneLine line := by
  rcases List.mem_append.1 hline with hline | hline
  · obtain ⟨⟨key, value⟩, hentry, rfl⟩ := List.mem_map.1 hline
    have hmem := (mem_writtenEntries h).1 hentry
    have hkey := (isKey_of_known (h.known _ hmem)).1
    obtain ⟨hfeed, hreturn, hzero⟩ := h.values _ hmem
    have hclean : ∀ c : Char, isKeyChar c = false → c ≠ '=' → c ∉ value → c ∉ assign key value := by
      intro c hc hequals hvalue hmem
      rcases List.mem_append.1 hmem with hmem | hmem
      · rw [hkey c hmem] at hc
        cases hc
      · rcases List.mem_cons.1 hmem with hmem | hmem
        · exact hequals hmem
        · exact hvalue hmem
    exact ⟨hclean '\n' (by decide) (by decide) hfeed, hclean '\r' (by decide) (by decide) hreturn,
      hclean '\x00' (by decide) (by decide) hzero⟩
  · exact h.lines line hline

/-- A profile that is written is loaded again, if the file is short enough. -/
theorem profileEnvLoad_written (h : Storable side env) :
    profileEnvLoad (profileEnvWriteLines side env) side =
      if bytes (profileEnvWriteLines side env) ≤ 131072 then
        some { entries := writtenEntries side env, preserved := env.preserved }
      else none := by
  have hclean : ∀ c : Char, c ≠ '\n' → (∀ line, IsOneLine line → c ∉ line) → c ∉ profileEnvWriteLines side env := by
    intro c hfeed hlines hmem
    rw [profileEnvWriteLines_eq_flatten h] at hmem
    obtain ⟨written, hwritten, hc⟩ := List.mem_flatten.1 hmem
    obtain ⟨line, hline, rfl⟩ := List.mem_map.1 hwritten
    rcases List.mem_append.1 hc with hc | hc
    · exact hlines line (isOneLine_of_written h hline) hc
    · exact hfeed (List.mem_singleton.1 hc)
  have hzero := hclean '\x00' (by decide) fun line hline => hline.2.2
  have hreturn := hclean '\r' (by decide) fun line hline => hline.2.1
  have hplain : isPlain (profileEnvWriteLines side env) = decide (bytes (profileEnvWriteLines side env) ≤ 131072) := by
    have hzero' : (profileEnvWriteLines side env).contains '\x00' = false := by simpa using hzero
    have hreturn' : (profileEnvWriteLines side env).contains '\r' = false := by simpa using hreturn
    unfold isPlain bytes
    rw [hzero', hreturn', Bool.not_false, Bool.and_true, Bool.and_true]
  have hread : readLines (profileEnvWriteLines side env) =
      ((writtenEntries side env).map fun entry => assign entry.1 entry.2) ++ env.preserved := by
    rw [profileEnvWriteLines_eq_flatten h, readLines_flatten fun line hline => (isOneLine_of_written h hline).1]
  have hentries : ∀ entry ∈ writtenEntries side env, entry.1 ∈ knownKeys side ∧ IsOneLine entry.2 := by
    intro entry hentry
    have hmem := (mem_writtenEntries h).1 hentry
    exact ⟨h.known entry hmem, h.values entry hmem⟩
  have hloop : (readLines (profileEnvWriteLines side env)).foldlM (loadLine side) {} =
      some { entries := writtenEntries side env, preserved := env.preserved } := by
    have hassign : ((writtenEntries side env).map fun entry => assign entry.1 entry.2).foldlM (loadLine side) {} =
        some { entries := [] ++ writtenEntries side env, preserved := [] } :=
      foldlM_assign (fun entry hentry => (hentries entry hentry).1) (fun entry hentry => (hentries entry hentry).2)
        nodup_keys_written
    rw [hread, List.foldlM_append, hassign]
    exact foldlM_other h.others h.lines
  unfold profileEnvLoad
  rw [hplain, hloop]
  by_cases hshort : bytes (profileEnvWriteLines side env) ≤ 131072
  · simp [hshort]
  · simp [hshort]

theorem value?_eq (h : Storable side env) (hkeys : (env'.entries.map (·.1)).Nodup)
    (hentries : ∀ key value, (key, value) ∈ env'.entries ↔ (key, value) ∈ env.entries) :
    env'.value? key = env.value? key := by
  refine Option.ext fun value => ?_
  have hvalue' : env'.value? key = some value ↔ (key, value) ∈ env'.entries := lookup_eq_some hkeys
  have hvalue : env.value? key = some value ↔ (key, value) ∈ env.entries := lookup_eq_some h.keys
  rw [hvalue', hvalue]
  exact hentries key value

/-- A file of a profile that was not changed is no longer than the file that it was loaded from, with a line feed
at its end. -/
theorem bytes_written (h : profileEnvLoad data side = some env) :
    bytes (profileEnvWriteLines side env) ≤ bytes data + 1 ∧
      (data.getLast? = some '\n' → bytes (profileEnvWriteLines side env) ≤ bytes data) := by
  obtain ⟨-, hloaded⟩ := loaded_of_profileEnvLoad h
  have hstorable := storable_of_profileEnvLoad h
  have hentries : env.entries = knownAssignments side (readLines data) := hloaded.entries
  have hpreserved : env.preserved = (readLines data).filter (assignsOther side) := hloaded.preserved
  have hperm : ((writtenEntries side env).map fun entry => cost (assign entry.1 entry.2)).sum =
      (env.entries.map fun entry => cost (assign entry.1 entry.2)).sum :=
    ((perm_writtenEntries hstorable).map _).sum_nat
  have hwritten : bytes (profileEnvWriteLines side env) ≤ ((readLines data).map cost).sum := by
    rw [profileEnvWriteLines_eq_flatten hstorable, bytes_flatten, List.map_append, List.sum_append, List.map_map]
    have hcosts : ((writtenEntries side env).map (cost ∘ fun entry => assign entry.1 entry.2)).sum =
        (env.entries.map fun entry => cost (assign entry.1 entry.2)).sum := hperm
    rw [hcosts, hentries, hpreserved]
    exact sum_cost_loaded
  obtain ⟨hle, heq⟩ : ((readLines data).map cost).sum ≤ bytes data + 1 ∧
      (data.getLast? = some '\n' → ((readLines data).map cost).sum = bytes data) := sum_cost_readLines
  refine ⟨by omega, fun hfeed => ?_⟩
  rw [← heq hfeed]
  exact hwritten

/-- A profile that was changed, written and loaded again differs in the keys of the calls, by the last of them. It
is not loaded only if the file has become too long, which happens without calls only to a file that is as long as
it may be and has no line feed at its end. -/
theorem reload_changes (h : profileEnvLoad data side = some env) (hcalls : ∀ call ∈ calls, call.IsProper side) :
    ((profileEnvLoad (profileEnvWriteLines side (env.changes calls)) side).isSome = true ↔
        bytes (profileEnvWriteLines side (env.changes calls)) ≤ 131072) ∧
      (∀ env', profileEnvLoad (profileEnvWriteLines side (env.changes calls)) side = some env' →
        env'.preserved = env.preserved ∧ (env'.entries.map (·.1)).Nodup ∧
          ∀ key, env'.value? key = lastValue calls key (env.value? key)) ∧
      (bytes data < 131072 ∨ data.getLast? = some '\n' →
        ∃ env', profileEnvLoad (profileEnvWriteLines side env) side = some env' ∧
          env'.entries.Perm env.entries ∧ env'.preserved = env.preserved) := by
  have hstorable := storable_of_profileEnvLoad h
  have hchanged := hstorable.changes hcalls
  refine ⟨?_, fun env' hload => ?_, fun hshort => ?_⟩
  · rw [profileEnvLoad_written hchanged]
    by_cases hshort : bytes (profileEnvWriteLines side (env.changes calls)) ≤ 131072
    · simp [hshort]
    · simp [hshort]
  · rw [profileEnvLoad_written hchanged] at hload
    split at hload
    · obtain rfl := Option.some.inj hload
      refine ⟨preserved_changes, nodup_keys_written, fun key => ?_⟩
      rw [← value?_changes]
      exact value?_eq hchanged nodup_keys_written fun key value => mem_writtenEntries hchanged
    · cases hload
  · have hplain := (loaded_of_profileEnvLoad h).1
    have hdata : bytes data ≤ 131072 := by
      simp only [isPlain, Bool.and_eq_true, decide_eq_true_eq] at hplain
      exact hplain.1.1
    obtain ⟨hle, hfeed⟩ := bytes_written h
    have hwritten : bytes (profileEnvWriteLines side env) ≤ 131072 := by
      rcases hshort with hshort | hlast
      · omega
      · exact Nat.le_trans (hfeed hlast) hdata
    refine ⟨{ entries := writtenEntries side env, preserved := env.preserved }, ?_, perm_writtenEntries hstorable, rfl⟩
    rw [profileEnvLoad_written hstorable]
    exact if_pos hwritten

theorem reload_changes_label :
    (profileEnvLoad (profileEnvWriteLines .iran (ProfileEnv.changes
        { entries := [(Key.gostUser, "user".toList)], preserved := ["X= #1=2".toList] }
        [.set Key.profileLabel "a=b \\".toList, .unset Key.gostUser])) .iran).isSome = true ↔
      bytes (profileEnvWriteLines .iran (ProfileEnv.changes
        { entries := [(Key.gostUser, "user".toList)], preserved := ["X= #1=2".toList] }
        [.set Key.profileLabel "a=b \\".toList, .unset Key.gostUser])) ≤ 131072 := by
  have hload : profileEnvLoad "X= #1=2\n#\n\nGOST_USER=user".toList .iran =
      some { entries := [(Key.gostUser, "user".toList)], preserved := ["X= #1=2".toList] } := by
    decide +kernel
  refine (reload_changes hload fun call hcall => ?_).1
  rcases List.mem_cons.1 hcall with rfl | hcall
  · refine ⟨by decide, ?_⟩
    rintro _ ⟨⟩
    exact ⟨by decide, by decide, by decide⟩
  · obtain rfl := List.mem_singleton.1 hcall
    exact ⟨by decide, nofun⟩

/-- A file of one unknown line, without line feed. -/
def longLine (n : Nat) : Text := 'A' :: '=' :: List.replicate n 'a'

theorem assignment_longLine {n : Nat} : assignment (longLine n) = some (['A'], List.replicate n 'a') := by
  have hkey : isKeyChar 'A' = true := by decide
  have hequals : isKeyChar '=' = false := by decide
  have hstart : isKeyStart 'A' = true := by decide
  simp [assignment, longLine, hkey, hequals, hstart]

theorem assignsOther_longLine {n : Nat} : assignsOther .iran (longLine n) = true := by
  have hunknown : ['A'] ∉ knownKeys .iran := by decide
  simp only [assignsOther, assignment_longLine, Option.any_some, hunknown, not_false_eq_true, decide_true]

theorem isOneLine_longLine {n : Nat} : IsOneLine (longLine n) := by
  simp [IsOneLine, longLine, List.mem_replicate]

theorem storable_longLine {n : Nat} : Storable .iran { preserved := [longLine n] } := by
  refine ⟨.nil, nofun, nofun, fun line hline => ?_, fun line hline => ?_⟩
  · obtain rfl := List.mem_singleton.1 hline
    exact assignsOther_longLine
  · obtain rfl := List.mem_singleton.1 hline
    exact isOneLine_longLine

theorem bytes_longLine {n : Nat} : bytes (longLine n) = n + 2 := by
  have hsize : Char.utf8Size 'a' = 1 ∧ Char.utf8Size 'A' = 1 ∧ Char.utf8Size '=' = 1 := by decide
  simp [bytes, longLine, List.map_replicate, List.sum_replicate, hsize]
  omega

theorem profileEnvLoad_longLine {n : Nat} (h : n + 2 ≤ 131072) :
    profileEnvLoad (longLine n) .iran = some { preserved := [longLine n] } := by
  obtain ⟨hfeed, hreturn, hzero⟩ : IsOneLine (longLine n) := isOneLine_longLine
  have hplain : isPlain (longLine n) = true := by
    have hbytes : ((longLine n).map Char.utf8Size).sum = n + 2 := bytes_longLine
    simp [isPlain, hbytes, h, hreturn, hzero]
  have hread : readLines (longLine n) = [longLine n] := by
    have hsplit : splitOn '\n' (longLine n) = [longLine n] := by
      unfold splitOn
      rw [splitOnFrom_of_not_mem hfeed, List.nil_append]
    unfold readLines
    rw [hsplit]
    exact if_neg (by simp [longLine])
  unfold profileEnvLoad
  rw [hplain, hread, List.foldlM_cons, loadLine_other assignsOther_longLine isOneLine_longLine]
  rfl

theorem bytes_written_longLine {n : Nat} :
    bytes (profileEnvWriteLines .iran { preserved := [longLine n] }) = n + 3 := by
  have hentries : writtenEntries .iran { preserved := [longLine n] } = [] := rfl
  rw [profileEnvWriteLines_eq_flatten storable_longLine, bytes_flatten, hentries]
  have hcost : cost (longLine n) = n + 3 := by
    unfold cost
    rw [bytes_longLine]
  simp [hcost]

/-- A file that is as long as it may be and has no line feed at its end is written with one more byte. -/
theorem not_reload : ¬ ∀ data side env, profileEnvLoad data side = some env →
    (profileEnvLoad (profileEnvWriteLines side env) side).isSome = true := by
  intro h
  have hreload := h (longLine 131070) .iran _ (profileEnvLoad_longLine (by decide))
  rw [profileEnvLoad_written storable_longLine, bytes_written_longLine, if_neg (by decide)] at hreload
  cases hreload

end Profiles
