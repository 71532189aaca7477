import GostManager.Profiles.Readers
import GostManager.Lists.Proofs.DictionaryProofs
import GostManager.Texts.Proofs.LinesProofs

/-!
# Proofs: loading and checking a profile

A loaded profile holds the assignments of known keys, in the order of the file and each key once, and the
lines that assign unknown keys. What has been checked has no character that could end a line.
-/

namespace Profiles

open Texts

variable {side : Side} {env env' : ProfileEnv} {lines : List Text} {line key value data text : Text} {c : Char}

/-! ## Numerals -/

theorem isNumeral_iff : isNumeral text = true ↔ text ≠ [] ∧ ∀ c ∈ text, c.isDigit = true := by
  simp [isNumeral]

theorem int_of_isNumeral (h : isNumeral text = true) :
    toNat? Digits.ascii text = if 4300 < text.length then none else some (number text) := by
  obtain ⟨hne, hdigits⟩ := isNumeral_iff.mp h
  exact toNat?_ascii hne hdigits

theorem isNumeral_toDigits {k : Nat} : isNumeral (Nat.toDigits 10 k) = true :=
  isNumeral_iff.mpr ⟨Nat.toDigits_ne_nil, fun _ hc => Nat.isDigit_of_mem_toDigits (by decide) (by decide) hc⟩

theorem number_toDigits {k : Nat} : number (Nat.toDigits 10 k) = k := by
  have hnumber : number (Nat.toDigits 10 k) = Nat.ofDigitChars 10 (Nat.toDigits 10 k) 0 := by
    rw [number, numberOf, List.foldl_map, Nat.ofDigitChars_eq_foldl]
  rw [hnumber, Nat.ofDigitChars_ten_toDigits]

/-! ## Assignments -/

theorem assignment_eq_some (h : assignment line = some (key, value)) :
    line = assign key value ∧ (∀ c ∈ key, isKeyChar c = true) ∧ key ≠ [] := by
  unfold assignment at h
  split at h
  · next rest hrest =>
    split at h
    · next hstart =>
      obtain ⟨rfl, rfl⟩ := Prod.mk.inj (Option.some.inj h)
      refine ⟨?_, fun c hc => List.mem_takeWhile_imp hc, fun hnil => ?_⟩
      · unfold assign
        rw [← hrest, List.takeWhile_append_dropWhile]
      · rw [hnil] at hstart
        cases hstart
    · cases h
  · cases h

/-- A key and a value are read back. -/
theorem assignment_assign (hkey : ∀ c ∈ key, isKeyChar c = true) (hstart : key.head?.any isKeyStart = true) :
    assignment (assign key value) = some (key, value) := by
  have hequals : isKeyChar '=' = false := by decide
  have htake : (assign key value).takeWhile isKeyChar = key := by
    unfold assign
    rw [List.takeWhile_append_of_pos hkey, List.takeWhile_cons_of_neg (by simp [hequals]), List.append_nil]
  have hdrop : (assign key value).dropWhile isKeyChar = '=' :: value := by
    unfold assign
    rw [List.dropWhile_append_of_pos hkey, List.dropWhile_cons_of_neg (by simp [hequals])]
  unfold assignment
  rw [hdrop, htake]
  exact if_pos hstart

theorem assignment_of_isIgnored (h : isIgnored line = true) : assignment line = none := by
  unfold isIgnored at h
  cases line with
  | nil => rfl
  | cons c line =>
    have hc : c = '#' := by simpa using h
    subst hc
    rfl

theorem assignments_append {lines' : List Text} :
    assignments (lines ++ lines') = assignments lines ++ assignments lines' := List.filterMap_append

theorem assignments_cons : assignments (line :: lines) = (assignment line).toList ++ assignments lines := by
  unfold assignments
  cases h : assignment line with
  | none => rw [List.filterMap_cons_none h]; rfl
  | some entry => rw [List.filterMap_cons_some h]; rfl

/-- A line assigns a key that the manager does not know. -/
def assignsOther (side : Side) (line : Text) : Bool :=
  (assignment line).any fun entry => entry.1 ∉ knownKeys side

/-- The assignments of known keys. -/
def knownAssignments (side : Side) (lines : List Text) : List (Text × Text) :=
  (assignments lines).filter fun entry => entry.1 ∈ knownKeys side

/-- What a line can do to the profile. -/
theorem loadLine_cases (h : loadLine side env line = some env') :
    (isIgnored line = true ∧ env' = env) ∨
    (∃ key value, assignment line = some (key, value) ∧ key ∈ knownKeys side ∧
      key ∉ env.entries.map (·.1) ∧ env' = { env with entries := env.entries ++ [(key, value)] }) ∨
    (∃ key value, assignment line = some (key, value) ∧ key ∉ knownKeys side ∧
      env' = { env with preserved := env.preserved ++ [line] }) := by
  unfold loadLine at h
  split at h
  · next hignored => exact .inl ⟨hignored, (Option.some.inj h).symm⟩
  · split at h
    · cases h
    · next key value hassignment =>
      split at h
      · cases h
      · split at h
        · next hknown =>
          split at h
          · cases h
          · next hnew => exact .inr (.inl ⟨key, value, hassignment, hknown, hnew, (Option.some.inj h).symm⟩)
        · next hother => exact .inr (.inr ⟨key, value, hassignment, hother, (Option.some.inj h).symm⟩)

/-- What `profile_env_load` keeps of the lines, after a profile. -/
structure Loaded (side : Side) (env : ProfileEnv) (lines : List Text) (env' : ProfileEnv) : Prop where
  each : ∀ line ∈ lines, isIgnored line = true ∨ (assignment line).isSome = true
  entries : env'.entries = env.entries ++ knownAssignments side lines
  preserved : env'.preserved = env.preserved ++ lines.filter (assignsOther side)
  keys : (env'.entries.map (·.1)).Nodup

theorem loaded_of_foldlM (hkeys : (env.entries.map (·.1)).Nodup)
    (h : lines.foldlM (loadLine side) env = some env') : Loaded side env lines env' := by
  induction lines generalizing env with
  | nil =>
    obtain rfl := Option.some.inj h
    exact ⟨nofun, (List.append_nil _).symm, (List.append_nil _).symm, hkeys⟩
  | cons line lines ih =>
    rw [List.foldlM_cons] at h
    obtain ⟨next, hline, hlines⟩ := Option.bind_eq_some_iff.1 h
    have heach : (isIgnored line = true ∨ (assignment line).isSome = true) → ∀ rest, Loaded side next lines rest →
        ∀ l ∈ line :: lines, isIgnored l = true ∨ (assignment l).isSome = true := by
      intro hgood rest hrest l hl
      rcases List.mem_cons.1 hl with rfl | hl
      · exact hgood
      · exact hrest.each l hl
    rcases loadLine_cases hline with ⟨hignored, rfl⟩ | ⟨key, value, hassigned, hknown, hnew, rfl⟩ |
      ⟨key, value, hassigned, hother, rfl⟩
    · have hrest := ih hkeys hlines
      have hnone := assignment_of_isIgnored hignored
      refine ⟨heach (.inl hignored) _ hrest, ?_, ?_, hrest.keys⟩
      · rw [hrest.entries]
        simp [knownAssignments, assignments, List.filterMap_cons_none hnone]
      · rw [hrest.preserved, List.filter_cons_of_neg (by simp [assignsOther, hnone])]
    · have hnodup : ((env.entries ++ [(key, value)]).map (·.1)).Nodup := by
        rw [List.map_append, List.nodup_append]
        refine ⟨hkeys, List.nodup_singleton _, fun a ha b hb => ?_⟩
        obtain rfl := List.mem_singleton.1 hb
        rintro rfl
        exact hnew ha
      have hrest := ih hnodup hlines
      refine ⟨heach (.inr (by rw [hassigned]; rfl)) _ hrest, ?_, ?_, hrest.keys⟩
      · rw [hrest.entries]
        simp [knownAssignments, assignments, List.filterMap_cons_some hassigned, hknown]
      · rw [hrest.preserved, List.filter_cons_of_neg (by simp [assignsOther, hassigned, hknown])]
    · have hsame : (({ env with preserved := env.preserved ++ [line] } : ProfileEnv).entries.map (·.1)).Nodup :=
        hkeys
      have hrest := ih hsame hlines
      refine ⟨heach (.inr (by rw [hassigned]; rfl)) _ hrest, ?_, ?_, hrest.keys⟩
      · rw [hrest.entries]
        simp [knownAssignments, assignments, List.filterMap_cons_some hassigned, hother]
      · rw [hrest.preserved, List.filter_cons_of_pos (by simp [assignsOther, hassigned, hother])]
        simp

/-- A file that is loaded. -/
theorem loaded_of_profileEnvLoad (h : profileEnvLoad data side = some env) :
    isPlain data = true ∧ Loaded side {} (readLines data) env := by
  unfold profileEnvLoad at h
  split at h
  · cases h
  · next hplain =>
    refine ⟨by simpa using hplain, loaded_of_foldlM .nil h⟩

/-! ## Lines -/

theorem not_mem_of_isPlain (h : isPlain data = true) : '\x00' ∉ data ∧ '\r' ∉ data := by
  simp only [isPlain, Bool.and_eq_true, Bool.not_eq_true', List.contains_eq_mem, decide_eq_false_iff_not] at h
  exact ⟨h.1.2, h.2⟩

theorem readLines_eq (data : Text) : readLines data = splitOn '\n' data ∨ splitOn '\n' data = readLines data ++ [[]] := by
  unfold readLines
  dsimp only
  split
  · next hlast => exact .inr (List.dropLast_append_getLast? _ hlast).symm
  · exact .inl rfl

theorem mem_readLines (h : line ∈ readLines data) : line ∈ splitOn '\n' data := by
  rcases readLines_eq data with heq | heq
  · rwa [← heq]
  · rw [heq]
    exact List.mem_append_left _ h

/-- What Python sees assigned by one line of the shell. -/
def seen (line : Text) : List (Text × Text) := assignments (inkedLines line)

section Lookup

variable {values : List (Text × Text)}

theorem lookup_eq_some (h : (values.map (·.1)).Nodup) :
    (values.find? fun entry => entry.1 = key).map (·.2) = some value ↔ (key, value) ∈ values := by
  rw [Option.map_eq_some_iff]
  constructor
  · rintro ⟨entry, hfind, rfl⟩
    obtain ⟨hentry, rfl⟩ := (Lists.find_eq_some h).1 hfind
    exact hentry
  · intro hentry
    exact ⟨_, (Lists.find_eq_some h).2 ⟨hentry, rfl⟩, rfl⟩

theorem get_eq (h : (values.map (·.1)).Nodup) (hentry : (key, value) ∈ values) : get values key = value := by
  unfold get
  rw [(lookup_eq_some h).2 hentry, Option.getD_some]

end Lookup

/-- The steps of a computation that does not fail. -/
theorem ok_bind {α β : Type} {x : Except String α} {f : α → Except String β} {b : β} :
    (x >>= f) = .ok b ↔ ∃ a, x = .ok a ∧ f a = .ok b := by
  cases x with
  | error message => exact ⟨nofun, fun ⟨_, h, _⟩ => nomatch h⟩
  | ok a => exact ⟨fun h => ⟨a, rfl, h⟩, fun ⟨_, ha, h⟩ => Except.ok.inj ha ▸ h⟩

theorem orDie_eq_ok {holds : Bool} {message : String} : orDie holds message = .ok () ↔ holds = true := by
  cases holds with
  | false => exact ⟨nofun, nofun⟩
  | true => exact ⟨fun _ => rfl, fun _ => rfl⟩

/-- What `validate_loaded_profile` asks of an Iran profile. -/
structure ValidIran (env : ProfileEnv) : Prop where
  user : isToken (env.value Key.gostUser) = true
  pass : isToken (env.value Key.gostPass) = true
  label : env.value Key.profileLabel = [] ∨ isLabel (env.value Key.profileLabel) = true
  port : isValidPort (env.value Key.tunnelPort) = true
  host : isHost (env.value Key.kharejIp) = true
  mappings : ∃ listens, validateMappings (env.value Key.mappings) = .ok listens

theorem validIran_of_validate {sources : ProfileEnv → Option Text}
    (h : validateLoadedProfile sources .iran env = .ok ()) : ValidIran env := by
  unfold validateLoadedProfile at h
  obtain ⟨⟨⟩, huser, h⟩ := ok_bind.1 h
  obtain ⟨⟨⟩, hpass, h⟩ := ok_bind.1 h
  obtain ⟨⟨⟩, hlabel, h⟩ := ok_bind.1 h
  obtain ⟨⟨⟩, hport, h⟩ := ok_bind.1 h
  obtain ⟨⟨⟩, hhost, h⟩ := ok_bind.1 h
  obtain ⟨listens, hmappings, h⟩ := ok_bind.1 h
  exact ⟨orDie_eq_ok.1 huser, orDie_eq_ok.1 hpass, by simpa using orDie_eq_ok.1 hlabel,
    orDie_eq_ok.1 hport, orDie_eq_ok.1 hhost, listens, hmappings⟩

/-- One pair that `validate_mappings` accepts. -/
theorem validatePair_eq_ok {seen seen' : List Text} : validatePair seen line = .ok seen' ↔
    ∃ listen target, mapping line = some (listen, target) ∧ isValidPort listen = true ∧
      isValidPort target = true ∧ listen ∉ seen ∧ seen' = seen ++ [listen] := by
  unfold validatePair
  cases mapping line with
  | none => exact ⟨nofun, fun ⟨_, _, h, _⟩ => nomatch h⟩
  | some ports =>
    obtain ⟨listen, target⟩ := ports
    dsimp only
    constructor
    · intro h
      split at h
      · cases h
      · next hlisten =>
        split at h
        · cases h
        · next htarget =>
          split at h
          · cases h
          · next hnew =>
            exact ⟨listen, target, rfl, by simpa using hlisten, by simpa using htarget, hnew,
              (Except.ok.inj h).symm⟩
    · rintro ⟨_, _, h, hlisten, htarget, hnew, rfl⟩
      obtain ⟨rfl, rfl⟩ := Prod.mk.inj (Option.some.inj h)
      rw [if_neg (by simpa using hlisten), if_neg (by simpa using htarget), if_neg hnew]

/-! ## Characters -/

/-- The characters of keys and checked values. -/
def isValueChar (c : Char) : Bool := c.isAlphanum || ['.', '_', '~', '-', ':', ',', '='].contains c

theorem toNat_of_isAlphanum (h : c.isAlphanum = true) : 48 ≤ c.toNat ∧ c.toNat ≤ 122 := by
  have hranges : (65 ≤ c.toNat ∧ c.toNat ≤ 90 ∨ 97 ≤ c.toNat ∧ c.toNat ≤ 122) ∨
      48 ≤ c.toNat ∧ c.toNat ≤ 57 := by
    have hletters : ((decide (c.val ≥ 'A'.val ∧ c.val ≤ 'Z'.val) || (c.val ≥ 'a'.val && c.val ≤ 'z'.val)) ||
      (c.val ≥ '0'.val && c.val ≤ '9'.val)) = true := h
    simpa [UInt32.le_iff_toNat_le] using hletters
  omega

theorem toNat_of_isValueChar (h : isValueChar c = true) : 44 ≤ c.toNat ∧ c.toNat ≤ 126 := by
  simp only [isValueChar, Bool.or_eq_true, List.contains_eq_mem, decide_eq_true_eq, List.mem_cons,
    List.not_mem_nil, or_false] at h
  rcases h with h | h
  · have hrange := toNat_of_isAlphanum h
    omega
  · rcases h with rfl | rfl | rfl | rfl | rfl | rfl | rfl <;> decide

theorem isspace_of_isValueChar (h : isValueChar c = true) : isspace c = false := by
  have hrange := toNat_of_isValueChar h
  simp [isspace]
  omega

theorem isValueChar_of_isKeyChar (h : isKeyChar c = true) : isValueChar c = true := by
  simp only [isKeyChar, Bool.or_eq_true, beq_iff_eq] at h
  rcases h with h | rfl
  · simp [isValueChar, h]
  · decide

theorem isValueChar_of_isDigit (h : c.isDigit = true) : isValueChar c = true := by
  simp [isValueChar, Char.isAlphanum, h]

theorem isValueChar_of_isNumeral (h : isNumeral text = true) (hc : c ∈ text) : isValueChar c = true := by
  simp only [isNumeral, Bool.and_eq_true, List.all_eq_true] at h
  exact isValueChar_of_isDigit (h.2 c hc)

/-- A mapping is two numerals. -/
theorem mapping_eq_some {listen target : Text} (h : mapping text = some (listen, target)) :
    text = listen ++ ':' :: target ∧ isNumeral listen = true ∧ isNumeral target = true := by
  unfold mapping at h
  obtain ⟨honce, hnumerals⟩ := Option.filter_eq_some_iff.1 h
  simp only [Bool.and_eq_true] at hnumerals
  refine ⟨?_, hnumerals⟩
  unfold splitOnce at honce
  split at honce
  · next hmem =>
    obtain ⟨rfl, rfl⟩ := Prod.mk.inj (Option.some.inj honce)
    have hne : text.dropWhile (· ≠ ':') ≠ [] := by
      intro hnil
      have hall := List.dropWhile_eq_nil_iff.1 hnil _ hmem
      simp at hall
    have hhead : (text.dropWhile (· ≠ ':')).head hne = ':' := by
      simpa using List.head_dropWhile_not (· ≠ ':') hne
    have hcons : ':' :: (text.dropWhile (· ≠ ':')).tail = text.dropWhile (· ≠ ':') := by
      conv => lhs; arg 1; rw [← hhead]
      exact List.cons_head_tail hne
    rw [hcons, List.takeWhile_append_dropWhile]
  · cases honce

theorem isValueChar_of_mapping (h : (mapping text).isSome = true) (hc : c ∈ text) :
    isValueChar c = true := by
  obtain ⟨⟨listen, target⟩, hports⟩ := Option.isSome_iff_exists.1 h
  obtain ⟨rfl, hlisten, htarget⟩ := mapping_eq_some hports
  rcases List.mem_append.1 hc with hc | hc
  · exact isValueChar_of_isNumeral hlisten hc
  · rcases List.mem_cons.1 hc with rfl | hc
    · decide
    · exact isValueChar_of_isNumeral htarget hc

/-- The pairs that `validate_mappings` accepts are mappings. -/
theorem isSome_of_validatePairs {seen seen' : List Text} (h : lines.foldlM validatePair seen = .ok seen')
    (hline : line ∈ lines) : (mapping line).isSome = true := by
  induction lines generalizing seen with
  | nil => cases hline
  | cons pair lines ih =>
    rw [List.foldlM_cons] at h
    obtain ⟨next, hpair, hrest⟩ := ok_bind.1 h
    rcases List.mem_cons.1 hline with rfl | hline
    · obtain ⟨listen, target, hports, -⟩ := validatePair_eq_ok.1 hpair
      rw [hports]
      rfl
    · exact ih hrest hline

theorem isValueChar_of_validateMappings {listens : List Text} (h : validateMappings text = .ok listens)
    (hc : c ∈ text) : isValueChar c = true := by
  unfold validateMappings at h
  split at h
  · cases h
  · by_cases hcomma : c = ','
    · subst hcomma
      decide
    · obtain ⟨pair, hpair, hc⟩ := exists_mem_splitOn hc hcomma
      exact isValueChar_of_mapping (isSome_of_validatePairs h hpair) hc

end Profiles
