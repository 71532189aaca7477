import GostManager.Effects.Proofs.ExceptProofs
import GostManager.Profiles.Mappings
import GostManager.Profiles.Proofs.PortsProofs
import GostManager.Profiles.Proofs.ReadersProofs
import GostManager.Texts.Proofs.ShellProofs
import GostManager.Texts.Proofs.StringsProofs

/-!
# Proofs: the validators of mappings

The runner accepts the mappings that the manager accepts. The collector accepts them too, with space around
each of them, if their numerals are within the integers of the shell.
-/

namespace Profiles

open Texts

variable {text part listen target : Text} {lines seen listens : List Text}
  {mappings mappings' : List (Nat × Nat)} {c : Char} {n : Nat}

/-! ## Numerals -/

theorem digitChar_digit (h : c.isDigit = true) : Nat.digitChar (c.toNat - '0'.toNat) = c := by
  have hdigits : ∀ d < 10, (Nat.digitChar d).isDigit = true ∧ (Nat.digitChar d).toNat - '0'.toNat = d := by
    decide
  obtain ⟨hdigit, hvalue⟩ := hdigits _ (digit_lt h)
  exact digit_inj hdigit h hvalue

theorem isPositiveInteger_iff : isPositiveInteger text = true ↔
    text ≠ [] ∧ (∀ c ∈ text, c.isDigit = true) ∧ text.head? ≠ some '0' := by
  simp [isPositiveInteger, isNumeral, and_assoc]

theorem number_concat : number (text ++ [c]) = 10 * number text + (c.toNat - '0'.toNat) := by
  unfold number
  rw [List.map_append, List.map_singleton, numberOf_concat]

theorem number_pos (h : isPositiveInteger text = true) : 0 < number text := by
  rcases Nat.eq_zero_or_pos (number text) with hzero | hpos
  · have hne := (isPositiveInteger_iff.1 h).1
    have hnil : (text.map fun c => c.toNat - '0'.toNat) = [] :=
      numberOf_inj (by decide) (digits_lt (isNumeral_of_isPositiveInteger h)) nofun (head?_digits h) nofun hzero
    exact absurd (List.map_eq_nil_iff.1 hnil) hne
  · exact hpos

/-- A numeral without leading zeros is what its number is printed as. -/
theorem toDigits_number (h : isPositiveInteger text = true) : Nat.toDigits 10 (number text) = text := by
  induction text using List.reverseRecOn with
  | nil => cases h
  | append_singleton text c ih =>
    obtain ⟨-, hdigits, hhead⟩ := isPositiveInteger_iff.1 h
    have hc : c.isDigit = true := hdigits c (by simp)
    rw [number_concat]
    by_cases hnil : text = []
    · have hnumber : number text = 0 := hnil ▸ rfl
      rw [hnumber, Nat.mul_zero, Nat.zero_add, Nat.toDigits_of_lt_base (digit_lt hc), digitChar_digit hc, hnil,
        List.nil_append]
    · have htext : isPositiveInteger text = true := by
        refine isPositiveInteger_iff.2 ⟨hnil, fun c hc => hdigits c (List.mem_append_left _ hc), ?_⟩
        rwa [List.head?_append_of_ne_nil _ hnil] at hhead
      rw [← Nat.toDigits_append_toDigits (by decide) (number_pos htext) (digit_lt hc), ih htext,
        Nat.toDigits_of_lt_base (digit_lt hc), digitChar_digit hc]

theorem length_le_iff {k : Nat} (h : isPositiveInteger text = true) (hk : 0 < k) :
    text.length ≤ k ↔ number text < 10 ^ k := by
  have hlength := Nat.length_toDigits_le_iff (b := 10) (n := number text) (by decide) hk
  rwa [toDigits_number h] at hlength

/-! ## Ports -/

theorem arithmetic_eq (h : number text < 2 ^ 63) : arithmetic text = number text := by
  unfold arithmetic
  rw [BitVec.toInt_ofNat', Int.bmod_eq_of_le] <;> omega

/-- In range, a port is valid if its number is. -/
theorem isValidPort_iff (h : number text < 2 ^ 63) : isValidPort text = true ↔
    isPositiveInteger text = true ∧ number text ≤ 65535 := by
  unfold isValidPort
  rw [arithmetic_eq h]
  simp only [Bool.and_eq_true, decide_eq_true_eq, and_assoc]
  refine and_congr_right fun hpositive => ?_
  have hpos := number_pos hpositive
  omega

/-- What the collector takes for a port. -/
theorem parsePort_eq_ok_iff : parsePort text = .ok n ↔
    isValidPort text = true ∧ text.length ≤ 5 ∧ n = number text := by
  refine ⟨fun h => ?_, fun ⟨hvalid, h⟩ => (parsePort_eq_ok hvalid).2 h⟩
  unfold parsePort at h
  split at h
  · next hcheck =>
    obtain ⟨hnumeral, hhead, hlength, hmax⟩ := hcheck
    have hpositive : isPositiveInteger text = true := by simp [isPositiveInteger, hnumeral, hhead]
    exact ⟨(isValidPort_iff (by omega)).2 ⟨hpositive, hmax⟩, hlength, (Except.ok.inj h).symm⟩
  · cases h

/-- A port that is in range and valid has five digits at most. -/
theorem length_of_isValidPort (h : number text < 2 ^ 63) (hvalid : isValidPort text = true) :
    text.length ≤ 5 := by
  obtain ⟨hpositive, hmax⟩ := (isValidPort_iff h).1 hvalid
  exact (length_le_iff hpositive (by decide)).2 (by omega)

theorem parsePort_iff (h : number text < 2 ^ 63) :
    parsePort text = .ok n ↔ isValidPort text = true ∧ n = number text := by
  rw [parsePort_eq_ok_iff]
  exact ⟨fun ⟨hvalid, _, hn⟩ => ⟨hvalid, hn⟩, fun ⟨hvalid, hn⟩ => ⟨hvalid, length_of_isValidPort h hvalid, hn⟩⟩

theorem range_of_parsePort (h : parsePort text = .ok n) : 1 ≤ n ∧ n ≤ 65535 := by
  obtain ⟨hvalid, hlength, rfl⟩ := parsePort_eq_ok_iff.1 h
  have hpositive := isPositiveInteger_of_isValidPort hvalid
  have hlt : number text < 10 ^ 5 := (length_le_iff hpositive (by decide)).1 hlength
  have hmax := ((isValidPort_iff (by omega)).1 hvalid).2
  exact ⟨number_pos hpositive, hmax⟩

/-! ## The loops -/

theorem mapping_of_parseMapping (h : parseMapping mappings part = .ok mappings') :
    ∃ listen target, mapping (strip part) = some (listen, target) ∧
      ∃ m n, parsePort listen = .ok m ∧ parsePort target = .ok n ∧ m ∉ mappings.map (·.1) ∧
        mappings' = mappings ++ [(m, n)] := by
  unfold parseMapping at h
  split at h
  · cases h
  · next listen target hports =>
    obtain ⟨m, hm, h⟩ := ok_bind.1 h
    obtain ⟨n, hn, h⟩ := ok_bind.1 h
    split at h
    · cases h
    · next hnew => exact ⟨listen, target, hports, m, n, hm, hn, hnew, (Except.ok.inj h).symm⟩

theorem isSome_of_parseMappings (h : lines.foldlM parseMapping mappings = .ok mappings') (hpart : part ∈ lines) :
    (mapping (strip part)).isSome = true := by
  induction lines generalizing mappings with
  | nil => cases hpart
  | cons raw lines ih =>
    rw [List.foldlM_cons] at h
    obtain ⟨next, hraw, hrest⟩ := ok_bind.1 h
    rcases List.mem_cons.1 hpart with rfl | hpart
    · obtain ⟨listen, target, hports, -⟩ := mapping_of_parseMapping hraw
      rw [hports]
      rfl
    · exact ih hrest hpart

/-- The check of the format finds the mappings that are empty. -/
theorem format_iff : (text = [] ∨ text.getLast? = some ',' ∨ text.head? = some ',' ∨ [',', ','] <:+: text) ↔
    [] ∈ splitOn ',' text := by
  rw [nil_mem_splitOn]
  tauto

theorem validateMappings_iff : validateMappings text = .ok listens ↔
    (splitOn ',' text).foldlM validatePair [] = .ok listens := by
  unfold validateMappings
  split
  · next hformat => exact ⟨nofun, fun h => nomatch isSome_of_validatePairs h (format_iff.1 hformat)⟩
  · exact Iff.rfl

theorem parseMappings_iff : parseMappings text = .ok mappings ↔
    (splitOn ',' text).foldlM parseMapping [] = .ok mappings := by
  unfold parseMappings
  split
  · next hformat => exact ⟨nofun, fun h => nomatch isSome_of_parseMappings h (nil_mem_splitOn.2 hformat)⟩
  · exact Iff.rfl

/-! ## The runner -/

/-- The two copies of the loop differ in their messages only. -/
theorem Runner.validatePair_iff {seen' : List Text} :
    Runner.validatePair seen part = .ok seen' ↔ Profiles.validatePair seen part = .ok seen' := by
  unfold Runner.validatePair Profiles.validatePair
  cases mapping part with
  | none => exact ⟨nofun, nofun⟩
  | some ports =>
    dsimp only
    split
    · exact ⟨nofun, nofun⟩
    · split
      · exact ⟨nofun, nofun⟩
      · split
        · exact ⟨nofun, nofun⟩
        · exact Iff.rfl

theorem Runner.validateMappings_iff (hline : '\n' ∉ text) :
    Runner.validateMappings text = .ok listens ↔ Profiles.validateMappings text = .ok listens := by
  unfold Runner.validateMappings Profiles.validateMappings
  split
  · exact ⟨nofun, nofun⟩
  · next hformat =>
    rw [readArray_eq_splitOn hline fun hnil => hformat (format_iff.2 hnil)]
    exact Effects.foldlM_eq_ok_congr fun seen part _ seen' => Runner.validatePair_iff

/-- The ports that the loop has accepted. -/
theorem ports_of_validatePairs {seen' : List Text} (h : lines.foldlM validatePair seen = .ok seen')
    (hpart : part ∈ lines) : ∃ listen target, mapping part = some (listen, target) ∧
      isValidPort listen = true ∧ isValidPort target = true := by
  induction lines generalizing seen with
  | nil => cases hpart
  | cons pair lines ih =>
    rw [List.foldlM_cons] at h
    obtain ⟨next, hpair, hrest⟩ := ok_bind.1 h
    rcases List.mem_cons.1 hpart with rfl | hpart
    · obtain ⟨listen, target, hports, hlisten, htarget, -⟩ := validatePair_eq_ok.1 hpair
      exact ⟨listen, target, hports, hlisten, htarget⟩
    · exact ih hrest hpart

theorem after_of_mapping (h : mapping text = some (listen, target)) : after ':' text = target := by
  unfold mapping at h
  obtain ⟨honce, -⟩ := Option.filter_eq_some_iff.1 h
  unfold splitOnce at honce
  split at honce
  · next hmem =>
    unfold after
    rw [if_pos hmem]
    exact (Prod.mk.inj (Option.some.inj honce)).2
  · cases honce

/-- The runner forwards the pairs of ports that mappings denote. -/
theorem Runner.forwards_eq (hline : '\n' ∉ text) (h : Profiles.validateMappings text = .ok listens) :
    Runner.forwards text = (pairs text).map fun ports =>
      Runner.forward (Nat.toDigits 10 ports.1) (Nat.toDigits 10 ports.2) := by
  have hloop := Profiles.validateMappings_iff.1 h
  have hports : ∀ part ∈ splitOn ',' text, ∃ listen target, mapping part = some (listen, target) ∧
      isValidPort listen = true ∧ isValidPort target = true := fun part => ports_of_validatePairs hloop
  have hnil : [] ∉ splitOn ',' text := fun hnil => nomatch isSome_of_validatePairs hloop hnil
  unfold Runner.forwards pairs
  rw [readArray_eq_splitOn hline hnil]
  generalize splitOn ',' text = lines at hports
  induction lines with
  | nil => rfl
  | cons part lines ih =>
    rw [List.forall_mem_cons] at hports
    obtain ⟨⟨listen, target, hpart, hlisten, htarget⟩, hrest⟩ := hports
    have hbefore : before ':' part = listen := takeWhile_of_mapping hpart
    have hnumbers : portNumbers (listen, target) = (number listen, number target) := rfl
    rw [List.map_cons, List.filterMap_cons_some hpart, List.map_cons, List.map_cons, ih hrest, hbefore,
      after_of_mapping hpart, hnumbers, toDigits_number (isPositiveInteger_of_isValidPort hlisten),
      toDigits_number (isPositiveInteger_of_isValidPort htarget)]

/-! ## The collector -/

/-- Space around mappings is not seen. -/
theorem splitOn_trimmed : splitOn ',' (trimmed text) = (splitOn ',' text).map strip := by
  refine splitOn_intercalate (fun part hpart hcomma => ?_) (by simpa using splitOn_ne_nil)
  obtain ⟨raw, hraw, rfl⟩ := List.mem_map.1 hpart
  exact not_mem_of_mem_splitOn hraw (mem_of_mem_strip hcomma)

theorem parseMappings_trimmed : parseMappings (trimmed text) = .ok mappings ↔ parseMappings text = .ok mappings := by
  rw [parseMappings_iff, parseMappings_iff, splitOn_trimmed, List.foldlM_map]
  refine Effects.foldlM_eq_ok_congr fun mappings part _ mappings' => ?_
  unfold parseMapping
  rw [strip_strip]

/-- Where a validator of the shell accepts, there is no space. -/
theorem trimmed_eq_self (h : validateMappings text = .ok listens) : trimmed text = text := by
  have hstrip : (splitOn ',' text).map strip = splitOn ',' text := by
    have hself : ∀ part ∈ splitOn ',' text, strip part = part := fun part hpart =>
      strip_eq_self fun c hc =>
        isspace_of_isValueChar (isValueChar_of_validateMappings h (mem_of_mem_splitOn hpart hc))
    rw [List.map_congr_left hself, List.map_id']
  unfold trimmed
  rw [hstrip, intercalate_splitOn]

/-- The loop of `validate_mappings` accepts what that of `parse_mappings` does, after space. -/
theorem validatePairs_of_parseMappings (hseen : mappings.map (·.1) = seen.map number)
    (h : lines.foldlM parseMapping mappings = .ok mappings') :
    ∃ seen', (lines.map strip).foldlM validatePair seen = .ok seen' := by
  induction lines generalizing seen mappings with
  | nil => exact ⟨seen, rfl⟩
  | cons raw lines ih =>
    rw [List.foldlM_cons] at h
    obtain ⟨next, hraw, hrest⟩ := ok_bind.1 h
    obtain ⟨listen, target, hports, m, n, hm, hn, hnew, rfl⟩ := mapping_of_parseMapping hraw
    obtain ⟨hlisten, -, rfl⟩ := parsePort_eq_ok_iff.1 hm
    obtain ⟨htarget, -⟩ := parsePort_eq_ok_iff.1 hn
    have hnumber : listen ∉ seen := by
      rw [hseen] at hnew
      exact fun hmem => hnew (List.mem_map_of_mem hmem)
    have hpair : validatePair seen (strip raw) = .ok (seen ++ [listen]) :=
      validatePair_eq_ok.2 ⟨listen, target, hports, hlisten, htarget, hnumber, rfl⟩
    have hseen' : (mappings ++ [(number listen, n)]).map (·.1) = (seen ++ [listen]).map number := by
      rw [List.map_append, List.map_append, hseen]
      rfl
    obtain ⟨seen', hloop⟩ := ih hseen' hrest
    exact ⟨seen', ok_bind.2 ⟨seen ++ [listen], hpair, hloop⟩⟩

theorem validateMappings_of_parseMappings (h : parseMappings text = .ok mappings) :
    ∃ listens, validateMappings (trimmed text) = .ok listens := by
  have hnil : (([] : List (Nat × Nat)).map (·.1)) = ([] : List Text).map number := rfl
  obtain ⟨listens, hloop⟩ := validatePairs_of_parseMappings hnil (parseMappings_iff.1 h)
  refine ⟨listens, validateMappings_iff.2 ?_⟩
  rwa [splitOn_trimmed]

theorem arePorts_of_parseMapping (hports : ArePorts mappings) (h : parseMapping mappings part = .ok mappings') :
    ArePorts mappings' := by
  obtain ⟨listen, target, -, m, n, hm, hn, hnew, rfl⟩ := mapping_of_parseMapping h
  refine ⟨?_, fun ports hmem => ?_, fun ports hmem => ?_⟩
  · rw [List.map_append, List.nodup_append]
    refine ⟨hports.distinct, List.nodup_singleton _, fun a ha b hb => ?_⟩
    obtain rfl := List.mem_singleton.1 hb
    rintro rfl
    exact hnew ha
  · rcases List.mem_append.1 hmem with hmem | hmem
    · exact hports.listen ports hmem
    · obtain rfl := List.mem_singleton.1 hmem
      exact range_of_parsePort hm
  · rcases List.mem_append.1 hmem with hmem | hmem
    · exact hports.target ports hmem
    · obtain rfl := List.mem_singleton.1 hmem
      exact range_of_parsePort hn

theorem arePorts_of_parseMappings (h : parseMappings text = .ok mappings) : ArePorts mappings := by
  have hloop : ∀ {lines : List Text} {mappings : List (Nat × Nat)}, ArePorts mappings →
      ∀ {mappings' : List (Nat × Nat)}, lines.foldlM parseMapping mappings = .ok mappings' →
        ArePorts mappings' := by
    intro lines
    induction lines with
    | nil =>
      intro mappings hports mappings' h
      obtain rfl := Except.ok.inj h
      exact hports
    | cons part lines ih =>
      intro mappings hports mappings' h
      rw [List.foldlM_cons] at h
      obtain ⟨next, hstep, hrest⟩ := ok_bind.1 h
      exact ih (arePorts_of_parseMapping hports hstep) hrest
  have hnil : ArePorts [] := ⟨List.nodup_nil, (fun _ h => nomatch h), (fun _ h => nomatch h)⟩
  exact hloop hnil (parseMappings_iff.1 h)

/-- The numerals of mappings that the shell has accepted are short where they are in range. -/
theorem isShort_of_inRange (h : validateMappings text = .ok listens)
    (hrange : ∀ ports ∈ (splitOn ',' text).filterMap mapping, InRange ports) :
    ∀ ports ∈ (splitOn ',' text).filterMap mapping, IsShort ports := by
  intro ports hports
  obtain ⟨part, hpart, hmapping⟩ := List.mem_filterMap.1 hports
  obtain ⟨listen, target, hsome, hlisten, htarget⟩ := ports_of_validatePairs (validateMappings_iff.1 h) hpart
  obtain rfl := Option.some.inj (hmapping.symm.trans hsome)
  obtain ⟨hfirst, hsecond⟩ := hrange _ hports
  exact ⟨length_of_isValidPort hfirst hlisten, length_of_isValidPort hsecond htarget⟩

/-! ## The three validators -/

/-- The shell's copies accept the same lines, and the collector those that they accept after space around
mappings is gone. -/
theorem validators_agree (hline : '\n' ∉ text) :
    (∀ listens, Runner.validateMappings text = .ok listens ↔ validateMappings text = .ok listens) ∧
      (∀ listens, validateMappings text = .ok listens → trimmed text = text) ∧
      ((∀ ports ∈ (splitOn ',' (trimmed text)).filterMap mapping, InRange ports) → ∀ mappings,
        parseMappings text = .ok mappings ↔
          (∃ listens, validateMappings (trimmed text) = .ok listens) ∧ mappings = pairs (trimmed text)) ∧
      (∀ mappings, parseMappings text = .ok mappings → ArePorts mappings ∧
        Runner.forwards (trimmed text) = mappings.map fun ports =>
          Runner.forward (Nat.toDigits 10 ports.1) (Nat.toDigits 10 ports.2)) ∧
      ∀ port, number port < 2 ^ 63 → ∀ n, parsePort port = .ok n ↔ isValidPort port = true ∧ n = number port := by
  refine ⟨fun listens => Runner.validateMappings_iff hline, fun listens => trimmed_eq_self, fun hrange mappings => ?_,
    fun mappings h => ⟨arePorts_of_parseMappings h, ?_⟩, fun port hport n => parsePort_iff hport⟩
  · rw [← parseMappings_trimmed]
    constructor
    · intro h
      obtain ⟨listens, hvalid⟩ := validateMappings_of_parseMappings (parseMappings_trimmed.1 h)
      exact ⟨⟨listens, hvalid⟩, ((parseMappings_eq_ok hvalid).1 h).2⟩
    · rintro ⟨⟨listens, hvalid⟩, hmappings⟩
      exact (parseMappings_eq_ok hvalid).2 ⟨isShort_of_inRange hvalid hrange, hmappings⟩
  · obtain ⟨listens, hvalid⟩ := validateMappings_of_parseMappings h
    have hpairs := ((parseMappings_eq_ok hvalid).1 (parseMappings_trimmed.2 h)).2
    have hline' : '\n' ∉ trimmed text := by
      intro hmem
      rcases mem_of_mem_intercalate hmem with hmem | ⟨part, hpart, hmem⟩
      · exact absurd (List.mem_singleton.1 hmem) (by decide)
      · obtain ⟨raw, hraw, rfl⟩ := List.mem_map.1 hpart
        exact hline (mem_of_mem_splitOn hraw (mem_of_mem_strip hmem))
    rw [hpairs]
    exact Runner.forwards_eq hline' hvalid

theorem validators_agree_trimmed :
    parseMappings "80:8080,443:8443".toList = .ok [(80, 8080), (443, 8443)] ↔
      (∃ listens, validateMappings (trimmed "80:8080,443:8443".toList) = .ok listens) ∧
        [(80, 8080), (443, 8443)] = pairs (trimmed "80:8080,443:8443".toList) :=
  (validators_agree (by decide)).2.2.1 (by decide +kernel) [(80, 8080), (443, 8443)]

theorem isValidPort_of_overflow : isValidPort "18446744073709551617".toList = true := by
  have hnumber : number "18446744073709551617".toList = 18446744073709551617 := by decide +kernel
  have hpositive : isPositiveInteger "18446744073709551617".toList = true := by decide
  have harithmetic : arithmetic "18446744073709551617".toList = 1 := by
    unfold arithmetic
    rw [hnumber]
    decide
  unfold isValidPort
  rw [hpositive, harithmetic]
  decide

/-- The collector takes a space that the shell does not, and the shell a numeral that wraps around. -/
theorem not_validators_agree :
    ¬ (∀ text, '\n' ∉ text → ((parseMappings text).toBool = true ↔ (validateMappings text).toBool = true) ∧
        ((parseMappings text).toBool = true ↔ (Runner.validateMappings text).toBool = true)) ∧
      ¬ ∀ port, (parsePort port).toBool = true ↔ isValidPort port = true := by
  constructor
  · intro h
    have hspace := ((h "80:80, 90:90".toList (by decide)).1).1 (by decide +kernel)
    exact absurd hspace (by decide +kernel)
  · intro h
    have hlong := (h "18446744073709551617".toList).2 isValidPort_of_overflow
    exact absurd hlong (by decide +kernel)

end Profiles
