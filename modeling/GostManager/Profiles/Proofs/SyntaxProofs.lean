import GostManager.Profiles.Proofs.SourcesProofs

/-!
# Proofs: the syntax check of sources

The check of the shell and the program of the manager differ on the sources that are disputed, and on no others.
-/

namespace Profiles

open Texts Lists

variable {text item address sources : Text} {c : Char} {n : Nat} {digits : List Nat} {env : ProfileEnv}

/-! ## Numerals -/

theorem isNumeral_iff_isdigit : isNumeral text = isdigit Digits.ascii text := by
  cases text with
  | nil => rfl
  | cons c text => rfl

theorem toNat?_of_isNumeral (h : isNumeral text = true) :
    toNat? Digits.ascii text = if 4300 < text.length then none else some (number text) := by
  simp only [isNumeral, Bool.and_eq_true, bne_iff_ne, List.all_eq_true] at h
  exact toNat?_ascii h.1 h.2

theorem octal_le_decimal : numberOf 8 digits ≤ numberOf 10 digits := by
  induction digits using List.reverseRecOn with
  | nil => exact Nat.le_refl 0
  | append_singleton digits d ih =>
    rw [numberOf_concat, numberOf_concat]
    omega

theorem decimal_eq_zero (h : numberOf 8 digits = 0) : numberOf 10 digits = 0 := by
  induction digits using List.reverseRecOn with
  | nil => rfl
  | append_singleton digits d ih =>
    rw [numberOf_concat] at h ⊢
    have hzero := ih (by omega)
    omega

/-- A numeral of octal digits that is at least 8 is so in octal, too. -/
theorem le_octal (hdigits : ∀ d ∈ digits, d < 8) (h : 8 ≤ numberOf 10 digits) : 8 ≤ numberOf 8 digits := by
  induction digits using List.reverseRecOn with
  | nil => cases h
  | append_singleton digits d _ =>
    have hd : d < 8 := hdigits d (by simp)
    rw [numberOf_concat] at h ⊢
    rcases Nat.eq_zero_or_pos (numberOf 8 digits) with hzero | hpos
    · rw [decimal_eq_zero hzero] at h
      omega
    · omega

theorem lt_eight_iff (h : c.isDigit = true) : c < '8' ↔ c.toNat - '0'.toNat < 8 := by
  have hc : '0'.toNat ≤ c.toNat ∧ c.toNat ≤ '9'.toNat := by
    simpa [Char.isDigit, Char.le_def, UInt32.le_iff_toNat_le] using h
  have hlt : c < '8' ↔ c.toNat < '8'.toNat := by
    rw [Char.lt_def, UInt32.lt_iff_toNat_lt]
    rfl
  have height : '8'.toNat = '0'.toNat + 8 := rfl
  rw [hlt]
  omega

theorem isDigit_of_isNumeral (h : isNumeral text = true) (hc : c ∈ text) : c.isDigit = true := by
  simp only [isNumeral, Bool.and_eq_true, List.all_eq_true] at h
  exact h.2 c hc

/-! ## Addresses -/

/-- `ipaddress` takes the numerals from 0 to 255 without leading zeros. -/
theorem isSome_parseOctet : (parseOctet text).isSome = true ↔
    isNumeral text = true ∧ (text = ['0'] ∨ text.head? ≠ some '0') ∧ number text ≤ 255 := by
  unfold parseOctet
  rw [← isNumeral_iff_isdigit]
  constructor
  · intro h
    split at h
    · next hcheck =>
      obtain ⟨hnumeral, hlength, hzero⟩ := hcheck
      rw [toNat?_of_isNumeral hnumeral, if_neg (by omega)] at h
      exact ⟨hnumeral, hzero, by simpa [Option.isSome_filter] using h⟩
    · cases h
  · rintro ⟨hnumeral, hzero, hsmall⟩
    have hlength : text.length ≤ 3 := by
      rcases hzero with rfl | hhead
      · decide
      · have hpositive : isPositiveInteger text = true := by simp [isPositiveInteger, hnumeral, hhead]
        exact (length_le_iff hpositive (by decide)).2 (by omega)
    rw [if_pos ⟨hnumeral, hlength, hzero⟩, toNat?_of_isNumeral hnumeral, if_neg (by omega)]
    simpa [Option.isSome_filter] using hsmall

theorem isSome_mapM {α β : Type} {f : α → Option β} {as : List α} :
    (as.mapM f).isSome = true ↔ ∀ a ∈ as, (f a).isSome = true := by
  induction as with
  | nil => simp
  | cons a as ih =>
    rw [List.mapM_cons, List.forall_mem_cons, ← ih]
    cases f a with
    | none => simp
    | some b => cases as.mapM f <;> simp

theorem isSome_parseIpv4 : (parseIpv4 address).isSome = true ↔ IsQuad address ∧ AreOctets address := by
  unfold parseIpv4
  dsimp only
  constructor
  · intro h
    split at h
    · next hlength =>
      rw [Option.isSome_map, isSome_mapM] at h
      have hoctets := fun octet hoctet => isSome_parseOctet.1 (h octet hoctet)
      exact ⟨⟨hlength, fun octet ho => (hoctets octet ho).1, fun octet ho => (hoctets octet ho).2.1⟩,
        fun octet ho => (hoctets octet ho).2.2⟩
    · cases h
  · rintro ⟨hquad, hoctets⟩
    rw [if_pos hquad.length, Option.isSome_map, isSome_mapM]
    exact fun octet ho => isSome_parseOctet.2 ⟨hquad.numeral octet ho, hquad.zero octet ho, hoctets octet ho⟩

theorem isValidIpv4Address_iff : isValidIpv4Address address = true ↔
    IsQuad address ∧ ∀ octet ∈ splitOn '.' address, arithmetic octet ≤ 255 := by
  unfold isValidIpv4Address
  simp only [Bool.and_eq_true, beq_iff_eq, List.all_eq_true, decide_eq_true_eq, Bool.or_eq_true, bne_iff_ne]
  constructor
  · rintro ⟨⟨hlength, hnumeral⟩, hoctets⟩
    exact ⟨⟨hlength, hnumeral, fun octet ho => (hoctets octet ho).1⟩, fun octet ho => (hoctets octet ho).2⟩
  · rintro ⟨hquad, hoctets⟩
    exact ⟨⟨hquad.length, hquad.numeral⟩, fun octet ho => ⟨hquad.zero octet ho, hoctets octet ho⟩⟩

/-! ## Prefix lengths -/

/-- What the shell reads of a numeral from 8 to 32. -/
theorem isShellPrefix_of_decimal (h : IsDecimalPrefix text) (hoctal : text.head? = some '0' → ∀ c ∈ text, c < '8') :
    IsShellPrefix text := by
  have hmost := h.most
  refine ⟨h.numeral, ?_⟩
  unfold shellNumber
  by_cases hhead : text.head? = some '0'
  · have hall : text.all (· < '8') = true := List.all_eq_true.2 fun c hc => decide_eq_true (hoctal hhead c hc)
    rw [if_pos hhead, if_pos hall]
    have hdigits : ∀ d ∈ text.map fun c => c.toNat - '0'.toNat, d < 8 := by
      intro d hd
      obtain ⟨c, hc, rfl⟩ := List.mem_map.1 hd
      exact (lt_eight_iff (isDigit_of_isNumeral h.numeral hc)).1 (hoctal hhead c hc)
    have hle : numberOf 8 (text.map fun c => c.toNat - '0'.toNat) ≤ number text := octal_le_decimal
    have hleast := le_octal hdigits h.least
    refine ⟨_, rfl, ?_⟩
    rw [BitVec.toInt_ofNat', Int.bmod_eq_of_le] <;> omega
  · rw [if_neg hhead]
    refine ⟨_, rfl, ?_⟩
    have hleast := h.least
    rw [arithmetic_eq (by omega)]
    omega

/-- Conversely, a prefix length of the shell that is not too large is decimal. -/
theorem decimal_of_isShellPrefix (h : IsShellPrefix text) (hmost : number text ≤ 32) (hlength : text.length ≤ 4300) :
    IsDecimalPrefix text ∧ (text.head? = some '0' → ∀ c ∈ text, c < '8') := by
  obtain ⟨hnumeral, n, hn, hleast, -⟩ := h
  unfold shellNumber at hn
  by_cases hhead : text.head? = some '0'
  · rw [if_pos hhead] at hn
    split at hn
    · next hall =>
      have hle : numberOf 8 (text.map fun c => c.toNat - '0'.toNat) ≤ number text := octal_le_decimal
      rw [BitVec.toInt_ofNat', Int.bmod_eq_of_le (by omega) (by omega)] at hn
      obtain rfl := Option.some.inj hn
      refine ⟨⟨hnumeral, by omega, hmost, hlength⟩, fun _ c hc => ?_⟩
      exact of_decide_eq_true (List.all_eq_true.1 hall c hc)
    · cases hn
  · rw [if_neg hhead, arithmetic_eq (by omega)] at hn
    obtain rfl := Option.some.inj hn
    exact ⟨⟨hnumeral, by omega, hmost, hlength⟩, fun hzero => absurd hzero hhead⟩

theorem parseMask_of_isNumeral (h : isNumeral text = true) : parseMask text = none := by
  have hdot : '.' ∉ text := fun hmem => absurd (isDigit_of_isNumeral h hmem) (by decide)
  have hnone : parseIpv4 text = none := by
    refine Option.not_isSome_iff_eq_none.1 fun hsome => ?_
    have hlength := (isSome_parseIpv4.1 hsome).1.length
    unfold splitOn at hlength
    rw [splitOnFrom_of_not_mem hdot] at hlength
    cases hlength
  unfold parseMask
  rw [hnone]
  rfl

theorem parseMask_of_slash (h : '/' ∈ text) : parseMask text = none := by
  have hnone : parseIpv4 text = none := by
    refine Option.not_isSome_iff_eq_none.1 fun hsome => ?_
    obtain ⟨octet, hoctet, hmem⟩ := exists_mem_splitOn h (by decide : '/' ≠ '.')
    exact absurd (isDigit_of_isNumeral ((isSome_parseIpv4.1 hsome).1.numeral octet hoctet) hmem) (by decide)
  unfold parseMask
  rw [hnone]
  rfl

theorem le_of_parseMask (h : parseMask text = some n) : n ≤ 32 := by
  have hmask : ∀ {mask : BitVec 32} {n : Nat}, prefixOfMask mask = some n → n ≤ 32 := by
    intro mask n h
    unfold prefixOfMask at h
    dsimp only at h
    split at h
    · obtain rfl := Option.some.inj h
      exact Nat.sub_le 32 _
    · cases h
  unfold parseMask at h
  obtain ⟨mask, -, h⟩ := Option.bind_eq_some_iff.1 h
  rcases Option.or_eq_some_iff.1 h with h | ⟨-, h⟩
  · exact hmask h
  · exact hmask h

theorem le_of_prefixlen (h : (parsePrefix 32 text).or (parseMask text) = some n) : n ≤ 32 := by
  rcases Option.or_eq_some_iff.1 h with h | ⟨-, h⟩
  · unfold parsePrefix at h
    split at h
    · exact of_decide_eq_true (Option.filter_eq_some_iff.1 h).2
    · cases h
  · exact le_of_parseMask h

/-- A prefix length of `ipaddress` that is at least 8 is a decimal numeral or a mask. -/
theorem exists_prefixlen_iff : (∃ n, (parsePrefix 32 text).or (parseMask text) = some n ∧ 8 ≤ n) ↔
    IsDecimalPrefix text ∨ (isNumeral text = false ∧ ∃ n, parseMask text = some n ∧ 8 ≤ n) := by
  unfold parsePrefix
  rw [← isNumeral_iff_isdigit]
  by_cases hnumeral : isNumeral text = true
  · rw [if_pos hnumeral, parseMask_of_isNumeral hnumeral, Option.or_none, toNat?_of_isNumeral hnumeral]
    constructor
    · rintro ⟨n, hn, hleast⟩
      obtain ⟨hread, hmost⟩ := Option.filter_eq_some_iff.1 hn
      split at hread
      · cases hread
      · next hlength =>
        obtain rfl := Option.some.inj hread
        exact .inl ⟨hnumeral, hleast, of_decide_eq_true hmost, by omega⟩
    · rintro (h | ⟨hfalse, -⟩)
      · have hlength := h.length
        refine ⟨number text, Option.filter_eq_some_iff.2 ⟨if_neg (by omega), decide_eq_true h.most⟩, h.least⟩
      · rw [hnumeral] at hfalse
        cases hfalse
  · rw [if_neg hnumeral, Option.none_or]
    constructor
    · exact fun h => .inr ⟨by simpa using hnumeral, h⟩
    · rintro (h | ⟨-, h⟩)
      · exact absurd h.numeral hnumeral
      · exact h

/-! ## Items -/

theorem ne_nil_of_isQuad (h : IsQuad (before '/' item)) : item ≠ [] := by
  rintro rfl
  cases h.length

/-- What the shell takes for a source. -/
theorem isValidSource_iff : isValidSource item = true ↔ IsQuad (before '/' item) ∧
    (∀ octet ∈ splitOn '.' (before '/' item), arithmetic octet ≤ 255) ∧
      ∀ text ∈ prefixText item, IsShellPrefix text := by
  unfold isValidSource prefixText
  rw [Bool.and_eq_true, Bool.and_eq_true, isValidIpv4Address_iff]
  by_cases hslash : '/' ∈ item
  · rw [if_pos hslash, if_pos hslash]
    simp only [Bool.and_eq_true, bne_iff_ne, Option.any_eq_true, decide_eq_true_eq, Bool.not_eq_true',
      Option.mem_some_iff, forall_eq']
    constructor
    · rintro ⟨⟨-, ⟨hnumeral, n, hn, hrange⟩, -⟩, hquad, hoctets⟩
      exact ⟨hquad, hoctets, hnumeral, n, hn, hrange⟩
    · rintro ⟨hquad, hoctets, hnumeral, n, hn, hrange⟩
      refine ⟨⟨ne_nil_of_isQuad hquad, ⟨hnumeral, n, hn, hrange⟩, ?_⟩, hquad, hoctets⟩
      have hnot : '/' ∉ after '/' item := fun hmem => absurd (isDigit_of_isNumeral hnumeral hmem) (by decide)
      simpa using hnot
  · rw [if_neg hslash, if_neg hslash]
    constructor
    · rintro ⟨-, hquad, hoctets⟩
      exact ⟨hquad, hoctets, nofun⟩
    · rintro ⟨hquad, hoctets, -⟩
      exact ⟨⟨by simpa using ne_nil_of_isQuad hquad, rfl⟩, hquad, hoctets⟩

/-- What `ipaddress` takes for a source. -/
theorem isSome_sourceNetwork : (sourceNetwork item).isSome = true ↔ IsQuad (before '/' item) ∧
    AreOctets (before '/' item) ∧ ∀ text ∈ prefixText item, IsDecimalPrefix text ∨
      (isNumeral text = false ∧ ∃ n, parseMask text = some n ∧ 8 ≤ n) := by
  have hread : (sourceNetwork item).isSome = true ↔
      ∃ network, parseIpv4Network item = some network ∧ 8 ≤ network.prefixlen := by
    rw [Option.isSome_iff_exists]
    refine exists_congr fun network => ?_
    rw [sourceNetwork_eq_some]
    refine and_congr_left fun _ => ?_
    unfold ipNetwork
    cases parseIpv4Network item with
    | some found => exact ⟨fun h => by cases h; rfl, fun h => by cases h; rfl⟩
    | none =>
      refine ⟨fun h => ?_, fun h => by cases h⟩
      dsimp only at h
      split at h <;> cases h
  rw [hread]
  unfold parseIpv4Network prefixText
  by_cases hslash : '/' ∈ item
  · rw [splitOn_of_mem hslash, if_pos hslash]
    simp only [Option.mem_some_iff, forall_eq']
    by_cases htwo : '/' ∈ after '/' item
    · -- the text after the first slash has another one, so that it is no numeral and no mask
      obtain ⟨second, rest, hrest⟩ : ∃ second rest, splitOn '/' (after '/' (after '/' item)) = second :: rest :=
        List.exists_cons_of_ne_nil splitOn_ne_nil
      rw [splitOn_of_mem htwo, hrest]
      constructor
      · rintro ⟨network, h, -⟩
        cases h
      · rintro ⟨-, -, h | ⟨-, n, hn, -⟩⟩
        · exact absurd (isDigit_of_isNumeral h.numeral htwo) (by decide)
        · rw [parseMask_of_slash htwo] at hn
          cases hn
    · have hsplit : splitOn '/' (after '/' item) = [after '/' item] := by
        unfold splitOn
        rw [splitOnFrom_of_not_mem htwo]
        rfl
      rw [hsplit, ← exists_prefixlen_iff, ← and_assoc, ← isSome_parseIpv4]
      constructor
      · rintro ⟨network, h, hleast⟩
        obtain ⟨n, hn, h⟩ := Option.bind_eq_some_iff.1 h
        obtain ⟨prefixlen, hprefixlen, h⟩ := Option.bind_eq_some_iff.1 h
        split at h
        · obtain rfl := Option.some.inj h
          exact ⟨by rw [hn]; rfl, prefixlen, hprefixlen, hleast⟩
        · cases h
      · rintro ⟨haddress, prefixlen, hprefixlen, hleast⟩
        obtain ⟨n, hn⟩ := Option.isSome_iff_exists.1 haddress
        have hmost := le_of_prefixlen hprefixlen
        refine ⟨.ofAddress (BitVec.ofNat 32 n) prefixlen hmost, ?_, hleast⟩
        refine Option.bind_eq_some_iff.2 ⟨n, hn, Option.bind_eq_some_iff.2 ⟨prefixlen, hprefixlen, ?_⟩⟩
        exact dif_pos hmost
  · have hsplit : splitOn '/' item = [item] := by
      unfold splitOn
      rw [splitOnFrom_of_not_mem hslash]
      rfl
    rw [hsplit, if_neg hslash, before_of_not_mem hslash]
    constructor
    · rintro ⟨network, h, -⟩
      obtain ⟨n, hn, -⟩ := Option.map_eq_some_iff.1 h
      obtain ⟨hquad, hoctets⟩ := isSome_parseIpv4.1 (by rw [hn]; rfl)
      exact ⟨hquad, hoctets, fun _ hnone => by cases hnone⟩
    · rintro ⟨hquad, hoctets, -⟩
      obtain ⟨n, hn⟩ := Option.isSome_iff_exists.1 (isSome_parseIpv4.2 ⟨hquad, hoctets⟩)
      exact ⟨_, Option.map_eq_some_iff.2 ⟨n, hn, rfl⟩, (by decide : 8 ≤ 32)⟩

/-! ## The kinds of items -/

theorem isValidSource_iff_kind : isValidSource item = true ↔ IsPlainSource item ∨ IsWrappedSource item := by
  rw [isValidSource_iff]
  constructor
  · rintro ⟨hquad, hoctets, hprefixlen⟩
    by_cases hlarge : ¬ AreOctets (before '/' item) ∨ ∃ text ∈ prefixText item, 32 < number text ∨ 4300 < text.length
    · exact .inr ⟨hquad, hoctets, hprefixlen, hlarge⟩
    · rw [not_or, not_not] at hlarge
      have hdecimal : ∀ text ∈ prefixText item,
          IsDecimalPrefix text ∧ (text.head? = some '0' → ∀ c ∈ text, c < '8') := by
        intro text htext
        have hsmall : ¬ (32 < number text ∨ 4300 < text.length) := fun h => hlarge.2 ⟨text, htext, h⟩
        exact decimal_of_isShellPrefix (hprefixlen text htext) (by omega) (by omega)
      exact .inl ⟨hquad, hlarge.1, fun text htext => (hdecimal text htext).1, fun text htext => (hdecimal text htext).2⟩
  · rintro (h | h)
    · refine ⟨h.quad, fun octet hoctet => ?_, fun text htext => ?_⟩
      · have hsmall := h.octets octet hoctet
        rw [arithmetic_eq (by omega)]
        omega
      · exact isShellPrefix_of_decimal (h.decimal text htext) (h.octal text htext)
    · exact ⟨h.quad, h.octets, h.prefixlen⟩

theorem isSome_sourceNetwork_iff_kind : (sourceNetwork item).isSome = true ↔
    IsPlainSource item ∨ IsForeignSource item := by
  rw [isSome_sourceNetwork]
  constructor
  · rintro ⟨hquad, hoctets, hprefixlen⟩
    by_cases hforeign : ∃ text ∈ prefixText item, (IsDecimalPrefix text ∧ text.head? = some '0' ∧ ∃ c ∈ text, '8' ≤ c) ∨
        (isNumeral text = false ∧ ∃ n, parseMask text = some n ∧ 8 ≤ n)
    · exact .inr ⟨hquad, hoctets, hforeign⟩
    · have hdecimal : ∀ text ∈ prefixText item, IsDecimalPrefix text := fun text htext =>
        (hprefixlen text htext).resolve_right fun hmask => hforeign ⟨text, htext, .inr hmask⟩
      refine .inl ⟨hquad, hoctets, hdecimal, fun text htext hhead c hc => ?_⟩
      by_contra hlarge
      exact hforeign ⟨text, htext, .inl ⟨hdecimal text htext, hhead, c, hc, not_lt.1 hlarge⟩⟩
  · rintro (h | h)
    · exact ⟨h.quad, h.octets, fun text htext => .inl (h.decimal text htext)⟩
    · refine ⟨h.quad, h.octets, fun text htext => ?_⟩
      obtain ⟨text', htext', hkind⟩ := h.prefixlen
      obtain rfl : text' = text := Option.mem_unique htext' htext
      rcases hkind with ⟨hdecimal, -⟩ | hmask
      · exact .inl hdecimal
      · exact .inr hmask

theorem not_isSome_of_wrapped (h : IsWrappedSource item) : (sourceNetwork item).isSome = false := by
  refine Bool.eq_false_iff.2 fun hsome => ?_
  obtain ⟨-, hoctets, hprefixlen⟩ := isSome_sourceNetwork.1 hsome
  rcases h.large with hlarge | ⟨text, htext, hlarge⟩
  · exact hlarge hoctets
  · rcases hprefixlen text htext with hdecimal | ⟨hnumeral, -⟩
    · have hmost := hdecimal.most
      have hlength := hdecimal.length
      omega
    · rw [(h.prefixlen text htext).1] at hnumeral
      cases hnumeral

theorem not_isValidSource_of_foreign (h : IsForeignSource item) : isValidSource item = false := by
  refine Bool.eq_false_iff.2 fun hvalid => ?_
  obtain ⟨-, -, hprefixlen⟩ := isValidSource_iff.1 hvalid
  obtain ⟨text, htext, hkind⟩ := h.prefixlen
  have hshell := hprefixlen text htext
  rcases hkind with ⟨hdecimal, hhead, c, hc, hlarge⟩ | ⟨hnumeral, -⟩
  · exact absurd hlarge (not_le.2 ((decimal_of_isShellPrefix hshell hdecimal.most hdecimal.length).2 hhead c hc))
  · rw [hshell.1] at hnumeral
    cases hnumeral

/-! ## Characters -/

/-- The characters of sources. -/
def IsSourceChar (c : Char) : Prop := c.isDigit = true ∨ c = '.' ∨ c = '/'

theorem isSourceChar_of_isQuad (h : IsQuad address) (hc : c ∈ address) : c.isDigit = true ∨ c = '.' := by
  by_cases hdot : c = '.'
  · exact .inr hdot
  · obtain ⟨octet, hoctet, hmem⟩ := exists_mem_splitOn hc hdot
    exact .inl (isDigit_of_isNumeral (h.numeral octet hoctet) hmem)

theorem isSourceChar_of_item (hquad : IsQuad (before '/' item))
    (hprefixlen : ∀ text ∈ prefixText item, ∀ c ∈ text, c.isDigit = true ∨ c = '.') (hc : c ∈ item) :
    IsSourceChar c := by
  by_cases hslash : '/' ∈ item
  · rw [← before_append_after hslash] at hc
    rcases List.mem_append.1 hc with hc | hc
    · exact (isSourceChar_of_isQuad hquad hc).imp_right .inl
    · rcases List.mem_cons.1 hc with rfl | hc
      · exact .inr (.inr rfl)
      · exact (hprefixlen (after '/' item) (if_pos hslash) c hc).imp_right .inl
  · rw [← before_of_not_mem hslash] at hc
    exact (isSourceChar_of_isQuad hquad hc).imp_right .inl

theorem isSourceChar_of_isValidSource (h : isValidSource item = true) (hc : c ∈ item) : IsSourceChar c := by
  obtain ⟨hquad, -, hprefixlen⟩ := isValidSource_iff.1 h
  exact isSourceChar_of_item hquad
    (fun text htext c hc => .inl (isDigit_of_isNumeral (hprefixlen text htext).1 hc)) hc

theorem isSourceChar_of_sourceNetwork (h : (sourceNetwork item).isSome = true) (hc : c ∈ item) :
    IsSourceChar c := by
  obtain ⟨hquad, -, hprefixlen⟩ := isSome_sourceNetwork.1 h
  refine isSourceChar_of_item hquad (fun text htext c hc => ?_) hc
  rcases hprefixlen text htext with hdecimal | ⟨-, n, hn, -⟩
  · exact .inl (isDigit_of_isNumeral hdecimal.numeral hc)
  · obtain ⟨mask, hmask, -⟩ := Option.bind_eq_some_iff.1 hn
    exact isSourceChar_of_isQuad (isSome_parseIpv4.1 (by rw [hmask]; rfl)).1 hc

theorem isspace_of_isSourceChar (h : IsSourceChar c) : isspace c = false := by
  rcases h with h | rfl | rfl
  · exact isspace_of_isValueChar (isValueChar_of_isDigit h)
  · decide
  · decide

theorem isspace_of_isShellSpace (h : isShellSpace c = true) : isspace c = true := by
  simp only [isShellSpace, Bool.or_eq_true, beq_iff_eq, Bool.and_eq_true, decide_eq_true_eq] at h
  rcases h with rfl | h
  · decide
  · simp [isspace, h]

/-! ## Lists of items -/

theorem mem_of_mem_itemsOf (h : item ∈ itemsOf sources) : item ∈ splitOn ',' sources := by
  unfold itemsOf at h
  dsimp only at h
  split at h
  · exact List.dropLast_subset _ h
  · exact h

theorem mem_itemsOf_or_nil (h : item ∈ splitOn ',' sources) : item ∈ itemsOf sources ∨ item = [] := by
  unfold itemsOf
  dsimp only
  split
  · next hlast =>
    rw [← List.dropLast_append_getLast? [] hlast] at h
    rcases List.mem_append.1 h with h | h
    · exact .inl h
    · exact .inr (List.mem_singleton.1 h)
  · exact .inl h

theorem itemsOf_eq_splitOn (hne : sources ≠ []) (hlast : sources.getLast? ≠ some ',') :
    itemsOf sources = splitOn ',' sources :=
  if_neg fun h => (getLast?_splitOn.1 h).elim hne hlast

theorem nil_mem_of_comma (h : sources.getLast? = some ',') : [] ∈ splitOn ',' sources :=
  List.mem_of_getLast? (getLast?_splitOn.2 (.inr h))

theorem itemsOf_ne_nil_of_comma (h : sources.getLast? = some ',') : itemsOf sources ≠ [] := by
  have hitems : itemsOf sources = (splitOn ',' sources).dropLast := if_pos (getLast?_splitOn.2 (.inr h))
  obtain ⟨part, rest, hrest⟩ := List.exists_cons_of_ne_nil
    (splitOn_ne_nil : splitOn ',' (after ',' sources) ≠ [])
  rw [hitems, splitOn_of_mem (List.mem_of_getLast? h), hrest]
  exact List.cons_ne_nil _ _

/-- Without an empty part the items are the parts. -/
theorem itemsOf_of_nil_not_mem (h : [] ∉ splitOn ',' sources) : itemsOf sources = splitOn ',' sources := by
  refine itemsOf_eq_splitOn ?_ fun hlast => h (nil_mem_of_comma hlast)
  rintro rfl
  exact h (List.mem_singleton_self [])

/-- What the shell takes for sources. -/
theorem validateAllowedSourcesSyntax_iff : validateAllowedSourcesSyntax sources = true ↔
    itemsOf sources ≠ [] ∧ (itemsOf sources).length ≤ 64 ∧
      ∀ item ∈ itemsOf sources, isValidSource item = true := by
  have hread : '\n' ∉ sources → readArray ',' sources = itemsOf sources := by
    intro hline
    unfold readArray
    rw [headD_splitOn hline]
    rfl
  unfold validateAllowedSourcesSyntax
  simp only [Bool.and_eq_true, bne_iff_ne, Bool.not_eq_true', decide_eq_true_eq, List.all_eq_true]
  constructor
  · rintro ⟨⟨⟨⟨-, hspace⟩, hleast⟩, hmost⟩, hitems⟩
    have hline : '\n' ∉ sources := by
      intro hmem
      rw [List.any_eq_true.2 ⟨'\n', hmem, by decide⟩] at hspace
      cases hspace
    rw [hread hline] at hleast hmost hitems
    exact ⟨List.ne_nil_of_length_pos hleast, hmost, hitems⟩
  · rintro ⟨hne, hmost, hitems⟩
    have hspace : sources.any isShellSpace = false := by
      refine Bool.eq_false_iff.2 fun hany => ?_
      obtain ⟨c, hc, hspace⟩ := List.any_eq_true.1 hany
      have hcomma : c ≠ ',' := by
        rintro rfl
        exact absurd hspace (by decide)
      obtain ⟨part, hpart, hmem⟩ := exists_mem_splitOn hc hcomma
      rcases mem_itemsOf_or_nil hpart with hitem | rfl
      · have hfalse := isspace_of_isSourceChar (isSourceChar_of_isValidSource (hitems part hitem) hmem)
        rw [isspace_of_isShellSpace hspace] at hfalse
        cases hfalse
      · cases hmem
    have hline : '\n' ∉ sources := by
      intro hmem
      rw [List.any_eq_true.2 ⟨'\n', hmem, by decide⟩] at hspace
      cases hspace
    have hsources : sources ≠ [] := by
      rintro rfl
      exact hne rfl
    rw [hread hline]
    exact ⟨⟨⟨⟨hsources, hspace⟩, List.length_pos_of_ne_nil hne⟩, hmost⟩, hitems⟩

/-- What the program takes for sources. -/
theorem isSome_canonicalizeAllowedSources : (canonicalizeAllowedSources sources).isSome = true ↔
    (splitOn ',' sources).length ≤ 64 ∧ ∀ part ∈ splitOn ',' sources, (sourceNetwork part).isSome = true := by
  rw [Option.isSome_iff_exists]
  constructor
  · rintro ⟨out, hout⟩
    obtain ⟨networks, hsources, -⟩ := canonicalizeAllowedSources_eq_some.1 hout
    exact ⟨hsources.count, isSome_mapM.1 (by rw [hsources.networks]; rfl)⟩
  · rintro ⟨hcount, hparts⟩
    obtain ⟨networks, hnetworks⟩ := Option.isSome_iff_exists.1 (isSome_mapM.2 hparts)
    refine ⟨_, canonicalizeAllowedSources_eq_some.2 ⟨networks, ⟨hcount, fun hnil => ?_, ?_, hnetworks⟩, rfl⟩⟩
    · exact ne_nil_of_isQuad (isSome_sourceNetwork.1 (hparts [] hnil)).1 rfl
    · exact fun part hpart c hc => isspace_of_isSourceChar (isSourceChar_of_sourceNetwork (hparts part hpart) hc)

theorem not_kind_nil : ¬ (IsPlainSource [] ∨ IsForeignSource []) := by
  rintro (h | h)
  · exact ne_nil_of_isQuad h.quad rfl
  · exact ne_nil_of_isQuad h.quad rfl

/-- The check and the program differ exactly on the sources that are disputed. -/
theorem syntax_agrees_iff : (validateAllowedSourcesSyntax sources = true ↔
    (canonicalizeAllowedSources sources).isSome = true) ↔ ¬ Disputed sources := by
  have hshell : (∀ item ∈ itemsOf sources, isValidSource item = true) ↔
      ∀ item ∈ itemsOf sources, IsPlainSource item ∨ IsWrappedSource item :=
    forall₂_congr fun item _ => isValidSource_iff_kind
  have hprogram : (∀ part ∈ splitOn ',' sources, (sourceNetwork part).isSome = true) ↔
      ∀ part ∈ splitOn ',' sources, IsPlainSource part ∨ IsForeignSource part :=
    forall₂_congr fun part _ => isSome_sourceNetwork_iff_kind
  rw [validateAllowedSourcesSyntax_iff, isSome_canonicalizeAllowedSources, hshell, hprogram]
  constructor
  · rintro hagree (⟨hcount, hitems, hkind⟩ | ⟨hcount, hparts, item, hitem, hforeign⟩)
    · have hne : itemsOf sources ≠ [] := by
        rcases hkind with hlast | ⟨item, hitem, -⟩
        · exact itemsOf_ne_nil_of_comma hlast
        · exact List.ne_nil_of_mem hitem
      obtain ⟨-, hparts⟩ := hagree.1 ⟨hne, hcount, hitems⟩
      rcases hkind with hlast | ⟨item, hitem, hwrapped⟩
      · exact not_kind_nil (hparts [] (nil_mem_of_comma hlast))
      · have hsome := isSome_sourceNetwork_iff_kind.2 (hparts item (mem_of_mem_itemsOf hitem))
        rw [not_isSome_of_wrapped hwrapped] at hsome
        cases hsome
    · have hparts' := itemsOf_of_nil_not_mem fun hnil => not_kind_nil (hparts [] hnil)
      obtain ⟨-, -, hitems⟩ := hagree.2 ⟨hcount, hparts⟩
      have hvalid := isValidSource_iff_kind.2 (hitems item (hparts' ▸ hitem))
      rw [not_isValidSource_of_foreign hforeign] at hvalid
      cases hvalid
  · intro hundisputed
    constructor
    · rintro ⟨hne, hcount, hitems⟩
      have hlast : sources.getLast? ≠ some ',' := fun hlast =>
        hundisputed (.inl ⟨hcount, hitems, .inl hlast⟩)
      have hsources : sources ≠ [] := by
        rintro rfl
        exact hne rfl
      rw [← itemsOf_eq_splitOn hsources hlast]
      refine ⟨hcount, fun item hitem => .inl ((hitems item hitem).resolve_right fun hwrapped => ?_)⟩
      exact hundisputed (.inl ⟨hcount, hitems, .inr ⟨item, hitem, hwrapped⟩⟩)
    · rintro ⟨hcount, hparts⟩
      rw [itemsOf_of_nil_not_mem fun hnil => not_kind_nil (hparts [] hnil)]
      refine ⟨splitOn_ne_nil, hcount, fun item hitem => .inl ((hparts item hitem).resolve_right fun hforeign => ?_)⟩
      exact hundisputed (.inr ⟨hcount, hparts, item, hitem, hforeign⟩)

/-! ## The whole profile -/

theorem loadedProfileIsValid_kharej : loadedProfileIsValid .kharej env = true ↔
    IsOtherwiseValid env ∧ validateAllowedSourcesSyntax (sourcesOf env) = true := by
  unfold loadedProfileIsValid
  simp only [Bool.and_eq_true, Bool.or_eq_true, beq_iff_eq]
  constructor
  · rintro ⟨⟨⟨⟨huser, hpass⟩, hport⟩, hlabel⟩, ⟨hstyle, hsources⟩, hfirewall⟩
    exact ⟨⟨huser, hpass, hlabel, hport, hfirewall, hstyle⟩, hsources⟩
  · rintro ⟨h, hsources⟩
    exact ⟨⟨⟨⟨h.user, h.pass⟩, h.port⟩, h.label⟩, ⟨h.style, hsources⟩, h.firewall⟩

theorem canonicalizeAllowedSources_ne_nil : canonicalizeAllowedSources text ≠ some [] := by
  intro h
  obtain ⟨networks, hsources, hnil⟩ := canonicalizeAllowedSources_eq_some.1 h
  have hsplit := splitOn_printNetworks (ne_nil_of_areSources hsources splitOn_ne_nil)
  rw [← hnil] at hsplit
  have hmem : [] ∈ (canonical networks).map (·.print) := hsplit ▸ List.mem_singleton_self []
  obtain ⟨network, -, heq⟩ := List.mem_map.1 hmem
  exact print_ne_nil heq

/-- The sources of a loaded profile are those of its one source field. -/
theorem isSome_profileSourcesFromLoaded :
    (profileSourcesFromLoaded canonicalizeAllowedSources env).isSome = true ↔
      (env.value Key.iranIp = [] ∨ env.value Key.allowedIranSources = []) ∧
        (canonicalizeAllowedSources (sourcesOf env)).isSome = true := by
  unfold profileSourcesFromLoaded sourcesOf
  have hempty : (canonicalizeAllowedSources []).isSome = false := by decide
  by_cases hlegacy : env.value Key.iranIp = []
  · by_cases hsources : env.value Key.allowedIranSources = []
    · simp [hlegacy, hsources, hempty]
    · simp [hlegacy, hsources]
  · by_cases hsources : env.value Key.allowedIranSources = []
    · simp [hlegacy, hsources]
    · simp [hlegacy, hsources]

theorem profileSourcesFromLoaded_ne_nil : profileSourcesFromLoaded canonicalizeAllowedSources env ≠ some [] := by
  intro h
  unfold profileSourcesFromLoaded at h
  dsimp only at h
  split at h
  · cases h
  · split at h
    · exact canonicalizeAllowedSources_ne_nil h
    · split at h
      · exact canonicalizeAllowedSources_ne_nil h
      · cases h

theorem validateLoadedProfile_kharej :
    validateLoadedProfile (profileSourcesFromLoaded canonicalizeAllowedSources) .kharej env = .ok () ↔
      IsOtherwiseValid env ∧ (canonicalizeAllowedSources (sourcesOf env)).isSome = true := by
  unfold validateLoadedProfile
  constructor
  · intro h
    obtain ⟨⟨⟩, huser, h⟩ := ok_bind.1 h
    obtain ⟨⟨⟩, hpass, h⟩ := ok_bind.1 h
    obtain ⟨⟨⟩, hlabel, h⟩ := ok_bind.1 h
    obtain ⟨⟨⟩, hport, h⟩ := ok_bind.1 h
    obtain ⟨⟨⟩, hsources, h⟩ := ok_bind.1 h
    obtain ⟨⟨⟩, -, hfirewall⟩ := ok_bind.1 h
    obtain ⟨hstyle, hsome⟩ := isSome_profileSourcesFromLoaded.1 (orDie_eq_ok.1 hsources)
    exact ⟨⟨orDie_eq_ok.1 huser, orDie_eq_ok.1 hpass, by simpa using orDie_eq_ok.1 hlabel,
      orDie_eq_ok.1 hport, by simpa using orDie_eq_ok.1 hfirewall, hstyle⟩, hsome⟩
  · rintro ⟨h, hsome⟩
    refine ok_bind.2 ⟨(), orDie_eq_ok.2 h.user, ok_bind.2 ⟨(), orDie_eq_ok.2 h.pass, ?_⟩⟩
    refine ok_bind.2 ⟨(), orDie_eq_ok.2 (by simpa using h.label), ok_bind.2 ⟨(), orDie_eq_ok.2 h.port, ?_⟩⟩
    refine ok_bind.2 ⟨(), orDie_eq_ok.2 (isSome_profileSourcesFromLoaded.2 ⟨h.style, hsome⟩), ?_⟩
    refine ok_bind.2 ⟨(), orDie_eq_ok.2 ?_, orDie_eq_ok.2 (by simpa using h.firewall)⟩
    simpa using profileSourcesFromLoaded_ne_nil

/-- Both sides of the script check an Iran profile alike. -/
theorem loadedProfileIsValid_iran {profileSources : ProfileEnv → Option Text} :
    loadedProfileIsValid .iran env = true ↔ validateLoadedProfile profileSources .iran env = .ok () := by
  unfold loadedProfileIsValid
  simp only [Bool.and_eq_true, Bool.or_eq_true, beq_iff_eq]
  constructor
  · rintro ⟨⟨⟨⟨huser, hpass⟩, hport⟩, hlabel⟩, hhost, hmappings⟩
    obtain ⟨listens, hlistens⟩ := validateMappings_of_toBool hmappings
    unfold validateLoadedProfile
    refine ok_bind.2 ⟨(), orDie_eq_ok.2 huser, ok_bind.2 ⟨(), orDie_eq_ok.2 hpass, ?_⟩⟩
    refine ok_bind.2 ⟨(), orDie_eq_ok.2 (by simpa using hlabel), ok_bind.2 ⟨(), orDie_eq_ok.2 hport, ?_⟩⟩
    exact ok_bind.2 ⟨(), orDie_eq_ok.2 hhost, ok_bind.2 ⟨listens, hlistens, rfl⟩⟩
  · intro h
    have hvalid := validIran_of_validate h
    obtain ⟨listens, hlistens⟩ := hvalid.mappings
    exact ⟨⟨⟨⟨hvalid.user, hvalid.pass⟩, hvalid.port⟩, hvalid.label⟩, hvalid.host, by rw [hlistens]; rfl⟩

/-- The listing and the editor take the same profiles, except Kharej profiles that are valid otherwise and have
disputed sources. -/
theorem loadedProfileIsValid_iff {side : Side} : (loadedProfileIsValid side env = true ↔
    validateLoadedProfile (profileSourcesFromLoaded canonicalizeAllowedSources) side env = .ok ()) ↔
      ¬ (side = .kharej ∧ IsOtherwiseValid env ∧ Disputed (sourcesOf env)) := by
  cases side with
  | iran => exact ⟨fun _ => nofun, fun _ => loadedProfileIsValid_iran⟩
  | kharej =>
    rw [loadedProfileIsValid_kharej, validateLoadedProfile_kharej, and_congr_right_iff, syntax_agrees_iff]
    tauto

/-- A comma at the end passes in the listing and not in the editor. -/
theorem not_loadedProfileIsValid_iff : ¬ ∀ data side env, profileEnvLoad data side = some env →
    (loadedProfileIsValid side env = true ↔
      validateLoadedProfile (profileSourcesFromLoaded canonicalizeAllowedSources) side env = .ok ()) := by
  intro h
  have hagree := h ("GOST_USER=user\nGOST_PASS=pass\nTUNNEL_PORT=28420\n".toList ++
    "ALLOWED_IRAN_SOURCES=192.0.2.1,\nFIREWALL_ENABLED=1\n".toList) .kharej
    { entries := [(Key.gostUser, "user".toList), (Key.gostPass, "pass".toList),
        (Key.tunnelPort, "28420".toList), (Key.allowedIranSources, "192.0.2.1,".toList),
        (Key.firewallEnabled, ['1'])] } (by decide +kernel)
  exact absurd (hagree.1 (by decide +kernel)) (by decide +kernel)

end Profiles
