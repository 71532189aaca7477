import GostManager.Lists.Canonical
import GostManager.Profiles.Readers
import GostManager.Texts.Networks
import GostManager.Texts.Shell

/-!
# Profiles: the sources of a Kharej profile

A Kharej profile names the networks that may connect. `gost-manager.sh` brings the list into a canonical form
with a Python program, and so does `monitoring/entities.py`; where many profiles are listed, the script checks
the syntax on its own.
-/

namespace Profiles

open Texts Lists

/-! ## The Python program of the manager -/

/-- One part: `network.version != 4 or network.prefixlen < 8` is no source. -/
def sourceNetwork (part : Text) : Option Ipv4Network :=
  match ipNetwork part with
  | some (.v4 network) => if network.prefixlen < 8 then none else some network
  | _ => none

/-- `",".join(str(item) for item in ordered)`. -/
def printNetworks (networks : List Ipv4Network) : Text := [','].intercalate (networks.map (·.print))

/-- `canonicalize_allowed_sources`. There is nothing where the program exits with 1. -/
def canonicalizeAllowedSources (value : Text) : Option Text :=
  if value = [] ∨ value.any isspace then none
  else
    let parts := splitOn ',' value
    if 64 < parts.length ∨ [] ∈ parts then none
    else (parts.mapM sourceNetwork).map fun networks => printNetworks (canonical networks)

/-! ## `monitoring/entities.py` -/

/-- One part of `canonical_allowed_sources`. -/
def allowedSource (part : Text) : Except String Ipv4Network :=
  match ipNetwork part with
  | none => .error "invalid Iran source"
  | some (.v6 _) => .error "unsafe Iran source"
  | some (.v4 network) => if network.prefixlen < 8 then .error "unsafe Iran source" else .ok network

/-- `canonical_allowed_sources`. -/
def canonicalAllowedSources (values : List (Text × Text)) : Except String (List Text) :=
  let legacy := get values Key.iranIp
  let modern := get values Key.allowedIranSources
  if legacy ≠ [] ∧ modern ≠ [] then .error "multiple source styles"
  else
    let raw := if modern ≠ [] then modern else legacy
    if raw = [] then .ok []
    else if raw.any isspace then .error "ambiguous source whitespace"
    else
      let parts := splitOn ',' raw
      if 64 < parts.length ∨ [] ∈ parts then .error "invalid source count"
      else do
        let networks ← parts.mapM allowedSource
        return (canonical networks).map (·.print)

/-- What the canonical form of a list of sources is: the networks in ascending order, each of them once. It
covers the same addresses as the list, and is its own canonical form. -/
structure IsCanonical (raw out : Text) (networks : List Ipv4Network) : Prop where
  printed : out = printNetworks networks
  ascending : networks.Pairwise fun a b =>
    a.address < b.address ∨ a.address = b.address ∧ a.prefixlen < b.prefixlen
  distinct : (splitOn ',' out).Nodup
  covers : ∀ address, (∃ network ∈ networks, network.Contains address) ↔
    ∃ part ∈ splitOn ',' raw, ∃ network, ipNetwork part = some (.v4 network) ∧ network.Contains address
  stable : canonicalizeAllowedSources out = some out

/-! ## The syntax check of the shell -/

/-- `[[:space:]]`, in the POSIX locale. -/
def isShellSpace (c : Char) : Bool := c == ' ' || (9 ≤ c.toNat && c.toNat ≤ 13)

/-- What `[[ text -ge 8 ]]` compares. After a zero a numeral is octal, and an error if it has other digits. -/
def shellNumber (text : Text) : Option Int :=
  if text.head? = some '0' then
    if text.all (· < '8') then
      some (BitVec.ofNat 64 (numberOf 8 (text.map fun c => c.toNat - '0'.toNat))).toInt
    else none
  else some (arithmetic text)

/-- `is_valid_ipv4_address`. -/
def isValidIpv4Address (value : Text) : Bool :=
  let octets := splitOn '.' value
  octets.length == 4 && octets.all isNumeral &&
    octets.all fun octet => (octet == ['0'] || octet.head? != some '0') && arithmetic octet ≤ 255

/-- One item of `validate_allowed_sources_syntax`. -/
def isValidSource (item : Text) : Bool :=
  item != [] &&
    (if '/' ∈ item then
      let prefixlen := after '/' item
      isNumeral prefixlen && (shellNumber prefixlen).any (fun n => 8 ≤ n && n ≤ 32) && !prefixlen.contains '/'
    else true) &&
    isValidIpv4Address (before '/' item)

/-- `validate_allowed_sources_syntax`. -/
def validateAllowedSourcesSyntax (value : Text) : Bool :=
  let items := readArray ',' value
  value != [] && !value.any isShellSpace && 1 ≤ items.length && items.length ≤ 64 && items.all isValidSource

/-- `loaded_profile_is_valid`. -/
def loadedProfileIsValid (side : Side) (env : ProfileEnv) : Bool :=
  let label := env.value Key.profileLabel
  isToken (env.value Key.gostUser) && isToken (env.value Key.gostPass) &&
    isValidPort (env.value Key.tunnelPort) && (label == [] || isLabel label) &&
    match side with
    | .iran => isHost (env.value Key.kharejIp) && (validateMappings (env.value Key.mappings)).toBool
    | .kharej =>
      let legacySources := env.value Key.iranIp
      let allowedSources := env.value Key.allowedIranSources
      let sources := if allowedSources = [] then legacySources else allowedSources
      let firewall := env.value Key.firewallEnabled
      (legacySources == [] || allowedSources == []) && validateAllowedSourcesSyntax sources &&
        (firewall == ['0'] || firewall == ['1'])

/-! ## Where the syntax check and the program differ -/

/-- Four numerals without leading zeros. -/
structure IsQuad (address : Text) : Prop where
  length : (splitOn '.' address).length = 4
  numeral : ∀ octet ∈ splitOn '.' address, isNumeral octet = true
  zero : ∀ octet ∈ splitOn '.' address, octet = ['0'] ∨ octet.head? ≠ some '0'

/-- The numerals of an address are octets. -/
def AreOctets (address : Text) : Prop := ∀ octet ∈ splitOn '.' address, number octet ≤ 255

/-- The text after the first slash, if there is one. -/
def prefixText (item : Text) : Option Text := if '/' ∈ item then some (after '/' item) else none

/-- The shell reads a prefix length from 8 to 32: in 64 bits, and in octal after a zero. -/
def IsShellPrefix (text : Text) : Prop :=
  isNumeral text = true ∧ ∃ n, shellNumber text = some n ∧ 8 ≤ n ∧ n ≤ 32

/-- A decimal numeral from 8 to 32, of no more digits than `int` takes. -/
structure IsDecimalPrefix (text : Text) : Prop where
  numeral : isNumeral text = true
  least : 8 ≤ number text
  most : number text ≤ 32
  length : text.length ≤ 4300

/-- An item that the shell and `ipaddress` take: neither an octal numeral with a digit that is none, nor a mask. -/
structure IsPlainSource (item : Text) : Prop where
  quad : IsQuad (before '/' item)
  octets : AreOctets (before '/' item)
  decimal : ∀ text ∈ prefixText item, IsDecimalPrefix text
  octal : ∀ text ∈ prefixText item, text.head? = some '0' → ∀ c ∈ text, c < '8'

/-- An item that only the shell takes: some number of it is too large for an octet, for a prefix length or for
`int`, and is in range only after wrapping around or as an octal numeral. -/
structure IsWrappedSource (item : Text) : Prop where
  quad : IsQuad (before '/' item)
  octets : ∀ octet ∈ splitOn '.' (before '/' item), arithmetic octet ≤ 255
  prefixlen : ∀ text ∈ prefixText item, IsShellPrefix text
  large : ¬ AreOctets (before '/' item) ∨ ∃ text ∈ prefixText item, 32 < number text ∨ 4300 < text.length

/-- An item that only `ipaddress` takes: the prefix length begins with a zero and has a digit that is not octal,
or it is given by a mask. -/
structure IsForeignSource (item : Text) : Prop where
  quad : IsQuad (before '/' item)
  octets : AreOctets (before '/' item)
  prefixlen : ∃ text ∈ prefixText item,
    (IsDecimalPrefix text ∧ text.head? = some '0' ∧ ∃ c ∈ text, '8' ≤ c) ∨
      (isNumeral text = false ∧ ∃ n, parseMask text = some n ∧ 8 ≤ n)

/-- The items of sources, without the one that a comma at the end leaves empty. -/
def itemsOf (sources : Text) : List Text :=
  let parts := splitOn ',' sources
  if parts.getLast? = some [] then parts.dropLast else parts

/-- The sources on which the check and the program differ, of 64 items at most. The shell takes every item, and
there is one that only the shell takes, or a comma at the end; or `ipaddress` takes every item, and there is one
that only `ipaddress` takes. -/
def Disputed (sources : Text) : Prop :=
  ((itemsOf sources).length ≤ 64 ∧
      (∀ item ∈ itemsOf sources, IsPlainSource item ∨ IsWrappedSource item) ∧
      (sources.getLast? = some ',' ∨ ∃ item ∈ itemsOf sources, IsWrappedSource item)) ∨
    ((splitOn ',' sources).length ≤ 64 ∧
      (∀ item ∈ splitOn ',' sources, IsPlainSource item ∨ IsForeignSource item) ∧
      ∃ item ∈ splitOn ',' sources, IsForeignSource item)

/-- The checks of a Kharej profile that do not concern its sources. -/
structure IsOtherwiseValid (env : ProfileEnv) : Prop where
  user : isToken (env.value Key.gostUser) = true
  pass : isToken (env.value Key.gostPass) = true
  label : env.value Key.profileLabel = [] ∨ isLabel (env.value Key.profileLabel) = true
  port : isValidPort (env.value Key.tunnelPort) = true
  firewall : env.value Key.firewallEnabled = ['0'] ∨ env.value Key.firewallEnabled = ['1']
  style : env.value Key.iranIp = [] ∨ env.value Key.allowedIranSources = []

/-- The source string of a profile that has one source field. -/
def sourcesOf (env : ProfileEnv) : Text :=
  if env.value Key.allowedIranSources = [] then env.value Key.iranIp else env.value Key.allowedIranSources

end Profiles
