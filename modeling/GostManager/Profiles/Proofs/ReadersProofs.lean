import GostManager.Profiles.Proofs.EnvironmentProofs

/-!
# Proofs: the readers see what the manager accepts

A file that the manager has loaded and checked is visible to the watchdog and to the collector exactly if
no key is assigned twice by the lines that Python sees, and if host and ports are not too long.
-/

namespace Profiles

open Texts

variable {line key value text data : Text} {lines : List Text} {c : Char}

/-! ## The loops of the readers -/

section Loops

variable {seen : List Text} {n : Nat}

end Loops

/-! ## The readers -/

theorem digit_lt (h : c.isDigit = true) : c.toNat - '0'.toNat < 10 := by
  have hc : '0'.toNat ≤ c.toNat ∧ c.toNat ≤ '9'.toNat := by
    simpa [Char.isDigit, Char.le_def, UInt32.le_iff_toNat_le] using h
  have hnine : '9'.toNat = '0'.toNat + 9 := rfl
  omega

theorem digits_lt (h : isNumeral text = true) :
    ∀ d ∈ text.map fun c => c.toNat - '0'.toNat, d < 10 := by
  intro d hd
  obtain ⟨c, hc, rfl⟩ := List.mem_map.1 hd
  simp only [isNumeral, Bool.and_eq_true, List.all_eq_true] at h
  exact digit_lt (h.2 c hc)

theorem number_lt (h : isNumeral text = true) : number text < 10 ^ text.length := by
  have hlt := numberOf_lt (by decide) (digits_lt h)
  rwa [List.length_map] at hlt

theorem digit_inj {d : Char} (hc : c.isDigit = true) (hd : d.isDigit = true)
    (h : c.toNat - '0'.toNat = d.toNat - '0'.toNat) : c = d := by
  have hc' : '0'.toNat ≤ c.toNat ∧ c.toNat ≤ '9'.toNat := by
    simpa [Char.isDigit, Char.le_def, UInt32.le_iff_toNat_le] using hc
  have hd' : '0'.toNat ≤ d.toNat ∧ d.toNat ≤ '9'.toNat := by
    simpa [Char.isDigit, Char.le_def, UInt32.le_iff_toNat_le] using hd
  exact Char.toNat_inj.1 (by omega)

theorem isNumeral_of_isPositiveInteger (h : isPositiveInteger text = true) : isNumeral text = true := by
  simp only [isPositiveInteger, Bool.and_eq_true] at h
  exact h.1

/-- A positive numeral does not begin with the digit zero. -/
theorem head?_digits (h : isPositiveInteger text = true) :
    (text.map fun c => c.toNat - '0'.toNat).head? ≠ some 0 := by
  have hnumeral := isNumeral_of_isPositiveInteger h
  cases text with
  | nil => exact nofun
  | cons c text =>
    simp only [isNumeral, Bool.and_eq_true, List.all_eq_true] at hnumeral
    intro hzero
    have hc := digit_inj (hnumeral.2 c List.mem_cons_self) (by decide) (Option.some.inj hzero : _ = '0'.toNat - '0'.toNat)
    subst hc
    simp [isPositiveInteger] at h

theorem digits_inj (h : ∀ c ∈ text, c.isDigit = true) (h' : ∀ c ∈ value, c.isDigit = true)
    (heq : text.map (fun c => c.toNat - '0'.toNat) = value.map fun c => c.toNat - '0'.toNat) :
    text = value := by
  induction text generalizing value with
  | nil => exact (List.map_eq_nil_iff.1 heq.symm).symm
  | cons c text ih =>
    cases value with
    | nil => cases heq
    | cons d value =>
      obtain ⟨hhead, htail⟩ := List.cons.inj heq
      rw [digit_inj (h c List.mem_cons_self) (h' d List.mem_cons_self) hhead,
        ih (fun c hc => h c (List.mem_cons_of_mem _ hc)) (fun d hd => h' d (List.mem_cons_of_mem _ hd)) htail]

theorem number_inj (h : isPositiveInteger text = true) (h' : isPositiveInteger value = true)
    (heq : number text = number value) : text = value := by
  have hdigits := isNumeral_of_isPositiveInteger h
  have hdigits' := isNumeral_of_isPositiveInteger h'
  have hmap := numberOf_inj (by decide) (digits_lt hdigits) (digits_lt hdigits') (head?_digits h)
    (head?_digits h') heq
  simp only [isNumeral, Bool.and_eq_true, List.all_eq_true] at hdigits hdigits'
  exact digits_inj hdigits.2 hdigits'.2 hmap

theorem isPositiveInteger_of_isValidPort (h : isValidPort value = true) : isPositiveInteger value = true := by
  simp only [isValidPort, Bool.and_eq_true] at h
  exact h.1.1

/-- What the collector accepts of the ports that the manager accepts. -/
theorem parsePort_eq_ok {n : Nat} (h : isValidPort value = true) :
    parsePort value = .ok n ↔ value.length ≤ 5 ∧ n = number value := by
  have hpositive := isPositiveInteger_of_isValidPort h
  have hnumeral := isNumeral_of_isPositiveInteger hpositive
  have hhead : value.head? ≠ some '0' := by
    simp only [isPositiveInteger, Bool.and_eq_true, bne_iff_ne] at hpositive
    exact hpositive.2
  unfold parsePort
  constructor
  · intro hok
    split at hok
    · next hcheck => exact ⟨hcheck.2.2.1, (Except.ok.inj hok).symm⟩
    · cases hok
  · rintro ⟨hlength, rfl⟩
    have hbound : number value < 2 ^ 63 := by
      have hpow : 10 ^ value.length ≤ 10 ^ 5 := Nat.pow_le_pow_right (by decide) hlength
      have hlt := number_lt hnumeral
      omega
    -- five digits do not overflow
    have harithmetic : arithmetic value = number value := by
      unfold arithmetic
      rw [BitVec.toInt_ofNat', Int.bmod_eq_of_le] <;> omega
    have hmax : number value ≤ 65535 := by
      simp only [isValidPort, Bool.and_eq_true, decide_eq_true_eq, harithmetic] at h
      omega
    exact if_pos ⟨hnumeral, hhead, hlength, hmax⟩

/-! ## Mappings -/

/-- One pair that the manager accepts. -/
theorem parseMapping_eq_ok {listen target : Text} {mappings mappings' : List (Nat × Nat)}
    (hports : mapping text = some (listen, target)) (hlisten : isValidPort listen = true)
    (htarget : isValidPort target = true) (hnew : number listen ∉ mappings.map (·.1)) :
    parseMapping mappings text = .ok mappings' ↔
      IsShort (listen, target) ∧ mappings' = mappings ++ [portNumbers (listen, target)] := by
  have hstrip : strip text = text := strip_eq_self fun c hc =>
    isspace_of_isValueChar (isValueChar_of_mapping (by rw [hports]; rfl) hc)
  unfold parseMapping
  rw [hstrip, hports]
  dsimp only
  rw [ok_bind]
  constructor
  · rintro ⟨_, hfirst, h⟩
    obtain ⟨hlength, rfl⟩ := (parsePort_eq_ok hlisten).1 hfirst
    obtain ⟨_, hsecond, h⟩ := ok_bind.1 h
    obtain ⟨hlength', rfl⟩ := (parsePort_eq_ok htarget).1 hsecond
    rw [if_neg hnew] at h
    exact ⟨⟨hlength, hlength'⟩, (Except.ok.inj h).symm⟩
  · rintro ⟨⟨hlength, hlength'⟩, rfl⟩
    refine ⟨number listen, (parsePort_eq_ok hlisten).2 ⟨hlength, rfl⟩, ?_⟩
    refine ok_bind.2 ⟨number target, (parsePort_eq_ok htarget).2 ⟨hlength', rfl⟩, ?_⟩
    rw [if_neg hnew]
    rfl

/-- The loops of `validate_mappings` and of `parse_mappings`. Distinct numerals have distinct numbers. -/
theorem parseMappingLoop_eq_ok {seen seen' : List Text} {mappings mappings' : List (Nat × Nat)}
    (hseen : mappings.map (·.1) = seen.map number) (hpositive : ∀ port ∈ seen, isPositiveInteger port = true)
    (h : lines.foldlM validatePair seen = .ok seen') :
    lines.foldlM parseMapping mappings = .ok mappings' ↔
      (∀ ports ∈ lines.filterMap mapping, IsShort ports) ∧
        mappings' = mappings ++ (lines.filterMap mapping).map portNumbers := by
  induction lines generalizing seen mappings with
  | nil => simp [pure, Except.pure, eq_comm]
  | cons pair lines ih =>
    rw [List.foldlM_cons] at h ⊢
    obtain ⟨next, hpair, hrest⟩ := ok_bind.1 h
    obtain ⟨listen, target, hports, hlisten, htarget, hnew, rfl⟩ := validatePair_eq_ok.1 hpair
    have hlistenPositive := isPositiveInteger_of_isValidPort hlisten
    have hnumber : number listen ∉ mappings.map (·.1) := by
      rw [hseen]
      intro hmem
      obtain ⟨port, hport, heq⟩ := List.mem_map.1 hmem
      exact hnew (number_inj (hpositive port hport) hlistenPositive heq ▸ hport)
    have hseen' : (mappings ++ [portNumbers (listen, target)]).map (·.1) = (seen ++ [listen]).map number := by
      rw [List.map_append, List.map_append, hseen]
      rfl
    have hpositive' : ∀ port ∈ seen ++ [listen], isPositiveInteger port = true := by
      intro port hport
      rcases List.mem_append.1 hport with hport | hport
      · exact hpositive port hport
      · exact List.mem_singleton.1 hport ▸ hlistenPositive
    rw [List.filterMap_cons_some hports, List.forall_mem_cons, ok_bind]
    constructor
    · rintro ⟨_, hstep, hloop⟩
      obtain ⟨hshort, rfl⟩ := (parseMapping_eq_ok hports hlisten htarget hnumber).1 hstep
      obtain ⟨hall, rfl⟩ := (ih hseen' hpositive' hrest).1 hloop
      exact ⟨⟨hshort, hall⟩, by simp⟩
    · rintro ⟨⟨hshort, hall⟩, rfl⟩
      refine ⟨_, (parseMapping_eq_ok hports hlisten htarget hnumber).2 ⟨hshort, rfl⟩, ?_⟩
      exact (ih hseen' hpositive' hrest).2 ⟨hall, by simp⟩

/-- What the collector accepts of the mappings that the manager accepts. -/
theorem parseMappings_eq_ok {listens : List Text} {mappings : List (Nat × Nat)}
    (h : validateMappings text = .ok listens) : parseMappings text = .ok mappings ↔
      (∀ ports ∈ (splitOn ',' text).filterMap mapping, IsShort ports) ∧
        mappings = ((splitOn ',' text).filterMap mapping).map portNumbers := by
  unfold validateMappings at h
  split at h
  · cases h
  · next hformat =>
    have hformat' : ¬ (text = [] ∨ text.head? = some ',' ∨ text.getLast? = some ',' ∨ [',', ','] <:+: text) := by
      tauto
    unfold parseMappings
    rw [if_neg hformat', parseMappingLoop_eq_ok (by rfl) (fun _ hport => by cases hport) h]
    rfl

end Profiles
