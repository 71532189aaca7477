import Mathlib.Algebra.Group.Nat.Defs
import GostManager.Texts.Strings

/-!
# Addresses

The addresses of Python's `ipaddress`, and how it reads them.
-/

namespace Texts

/-- An address, as a number of 32 or of 128 bits. -/
inductive Address where
  | v4 (n : Nat)
  | v6 (n : Nat) (scope : Option Text)
  deriving DecidableEq

/-- The part before the last separator and the part after it, where the separator occurs. -/
def rsplitOnce (separator : Char) (text : Text) : Option (Text × Text) :=
  (splitOnce separator text.reverse).map fun parts => (parts.2.reverse, parts.1.reverse)

/-- The number that digits denote, the first of which counts most. -/
def numberOf (base : Nat) (digits : List Nat) : Nat := digits.foldl (fun n d => base * n + d) 0

/-! ## IPv4 -/

/-- `_parse_octet`. -/
def parseOctet (text : Text) : Option Nat :=
  if isdigit Digits.ascii text ∧ text.length ≤ 3 ∧ (text = ['0'] ∨ text.head? ≠ some '0') then
    (toNat? Digits.ascii text).filter (· ≤ 255)
  else none

/-- `IPv4Address(text)`. -/
def parseIpv4 (text : Text) : Option Nat :=
  let octets := splitOn '.' text
  if octets.length = 4 then (octets.mapM parseOctet).map (numberOf 256) else none

/-! ## IPv6 -/

/-- The value of a hexadecimal digit. -/
def hexDigit (c : Char) : Option Nat :=
  if '0' ≤ c ∧ c ≤ '9' then some (c.toNat - '0'.toNat)
  else if 'a' ≤ c ∧ c ≤ 'f' then some (c.toNat - 'a'.toNat + 10)
  else if 'A' ≤ c ∧ c ≤ 'F' then some (c.toNat - 'A'.toNat + 10)
  else none

/-- `_parse_hextet`. -/
def parseHextet (text : Text) : Option Nat :=
  if text = [] ∨ 4 < text.length then none else (text.mapM hexDigit).map (numberOf 16)

/-- The parts of an address between colons. An IPv4 address at the end stands for two of them. -/
def hextetTexts (text : Text) : Option (List Text) :=
  let parts := splitOn ':' text
  if parts.length < 3 then none
  else if '.' ∈ parts.getLastD [] then
    (parseIpv4 (parts.getLastD [])).map fun n =>
      parts.dropLast ++ [Nat.toDigits 16 (n / 2 ^ 16), Nat.toDigits 16 (n % 2 ^ 16)]
  else some parts

/-- The parts before or after `::`, of which the outermost may be missing. -/
def parseHextets (parts : List Text) : Option (List Nat) :=
  if parts = [[]] then some [] else parts.mapM parseHextet

/-- `_ip_int_from_string` of `IPv6Address`. -/
def parseIpv6Number (text : Text) : Option Nat := do
  let parts ← hextetTexts text
  let inner := parts.tail.dropLast
  if 9 < parts.length ∨ 1 < inner.count [] then none
  else if [] ∈ inner then
    -- The part without text stands for as many zeros as are missing.
    let skip := 1 + inner.idxOf []
    let high ← parseHextets (parts.take skip)
    let low ← parseHextets (parts.drop (skip + 1))
    if 7 < high.length + low.length then none
    else some (numberOf (2 ^ 16) high * (2 ^ 16) ^ (8 - high.length) + numberOf (2 ^ 16) low)
  else if parts.length = 8 then (parts.mapM parseHextet).map (numberOf (2 ^ 16))
  else none

/-- `IPv6Address(text)`. -/
def parseIpv6 (text : Text) : Option Address :=
  if '/' ∈ text then none
  else match splitOnce '%' text with
    | none => (parseIpv6Number text).map fun n => .v6 n none
    | some (number, scope) =>
      if scope = [] ∨ '%' ∈ scope then none else (parseIpv6Number number).map fun n => .v6 n (some scope)

/-- `ip_address(text)`. It raises `ValueError` where there is no address. -/
def ipAddress (text : Text) : Option Address :=
  match parseIpv4 text with
  | some n => some (.v4 n)
  | none => parseIpv6 text

/-- The address itself, or the IPv4 address that it maps. -/
def Address.unmapped : Address → Address
  | .v4 n => .v4 n
  | .v6 n scope => if n / 2 ^ 32 = 2 ^ 16 - 1 then .v4 (n % 2 ^ 32) else .v6 n scope

example : ipAddress "fe80::1".toList = some (.v6 (0xfe80 * 2 ^ 112 + 1) none) := by decide

end Texts
