import Mathlib.Data.Prod.Lex
import GostManager.Texts.Addresses

/-!
# Networks

The networks of Python's `ipaddress`, and how `ip_network` reads them when host bits may be set.
-/

namespace Texts

/-- A numeral as a prefix length: `_prefix_from_prefix_string`. -/
def parsePrefix (maxPrefixlen : Nat) (text : Text) : Option Nat :=
  if isdigit Digits.ascii text then (toNat? Digits.ascii text).filter (· ≤ maxPrefixlen) else none

/-! ## IPv4 -/

/-- `_ip_int_from_prefix`: the mask of a prefix. -/
def netmask (prefixlen : Nat) : BitVec 32 := BitVec.allOnes 32 ^^^ (BitVec.allOnes 32 >>> prefixlen)

/-- `_count_righthand_zero_bits`. -/
def righthandZeros (mask : BitVec 32) : Nat := ((List.range 32).find? mask.getLsbD).getD 32

/-- `_prefix_from_ip_int`. -/
def prefixOfMask (mask : BitVec 32) : Option Nat :=
  let zeros := righthandZeros mask
  if mask.toNat >>> zeros = 1 <<< (32 - zeros) - 1 then some (32 - zeros) else none

/-- `_prefix_from_ip_string`: the prefix length of a mask, or of a host mask. -/
def parseMask (text : Text) : Option Nat := do
  let mask ← parseIpv4 text
  (prefixOfMask (BitVec.ofNat 32 mask)).or (prefixOfMask (BitVec.ofNat 32 mask ^^^ BitVec.allOnes 32))

/-- A network of IPv4 addresses. Its own address has no host bits. -/
structure Ipv4Network where
  address : BitVec 32
  prefixlen : Nat
  prefixlen_le : prefixlen ≤ 32
  masked : address &&& netmask prefixlen = address
  deriving DecidableEq

namespace Ipv4Network

/-- The network of an address and a prefix length. -/
def ofAddress (address : BitVec 32) (prefixlen : Nat) (h : prefixlen ≤ 32) : Ipv4Network where
  address := address &&& netmask prefixlen
  prefixlen := prefixlen
  prefixlen_le := h
  masked := by rw [BitVec.and_assoc, BitVec.and_self]

variable (network : Ipv4Network)

/-- `address in network`. -/
def Contains (address : BitVec 32) : Prop := address &&& netmask network.prefixlen = network.address

instance (address : BitVec 32) : Decidable (network.Contains address) := inferInstanceAs (Decidable (_ = _))

/-- `(int(network.network_address), network.prefixlen)`. -/
def key : ℕ ×ₗ ℕ := toLex (network.address.toNat, network.prefixlen)

theorem key_injective : Function.Injective key := by
  rintro ⟨address, prefixlen, _, _⟩ ⟨address', prefixlen', _, _⟩ h
  obtain ⟨haddress, hprefixlen⟩ := Prod.mk.inj (toLex.injective h)
  obtain rfl := BitVec.eq_of_toNat_eq haddress
  subst hprefixlen
  rfl

/-- Networks are in the order of their keys. -/
instance : LinearOrder Ipv4Network := LinearOrder.lift' key key_injective

/-- The numbers of an address, the first of which counts most. -/
def octets (address : BitVec 32) : List Nat :=
  [address.toNat / 2 ^ 24, address.toNat / 2 ^ 16 % 256, address.toNat / 2 ^ 8 % 256, address.toNat % 256]

/-- `str(network)`. -/
def print : Text :=
  ['.'].intercalate ((octets network.address).map (Nat.toDigits 10)) ++ '/' :: Nat.toDigits 10 network.prefixlen

end Ipv4Network

/-- `IPv4Network(text, strict=False)`. -/
def parseIpv4Network (text : Text) : Option Ipv4Network :=
  match splitOn '/' text with
  | [address] => (parseIpv4 address).map fun n => .ofAddress (BitVec.ofNat 32 n) 32 (Nat.le_refl 32)
  | [address, mask] => do
    let n ← parseIpv4 address
    let prefixlen ← (parsePrefix 32 mask).or (parseMask mask)
    if h : prefixlen ≤ 32 then some (.ofAddress (BitVec.ofNat 32 n) prefixlen h) else none
  | _ => none

/-! ## Both versions -/

/-- A network. Of those of IPv6 only the text matters. -/
inductive Network where
  | v4 (network : Ipv4Network)
  | v6 (text : Text)
  deriving DecidableEq

/-- The text of a network of IPv6: `IPv6Network(text, strict=False)` takes it. -/
def isIpv6Network (text : Text) : Bool :=
  match splitOn '/' text with
  | [address] => (parseIpv6 address).isSome
  | [address, mask] => (parseIpv6 address).isSome && (parsePrefix 128 mask).isSome
  | _ => false

/-- `ip_network(text, strict=False)`. It raises `ValueError` where there is no network. -/
def ipNetwork (text : Text) : Option Network :=
  match parseIpv4Network text with
  | some network => some (.v4 network)
  | none => if isIpv6Network text then some (.v6 text) else none

example : (parseIpv4Network "192.0.2.130/255.255.255.192".toList).map Ipv4Network.print =
    some "192.0.2.128/26".toList := by decide +kernel

end Texts
