import GostManager.Profiles.Environment

/-!
# Profiles: the readers

The watchdog and the collector read the same files with parsers of their own: `parse_kharej_ip_text` of
`gost_watchdog/profiles.py`, and `tunnel_from_env` of `monitoring/entities.py`. Exceptions are their
messages.
-/

namespace Profiles

open Texts

/-! ## `gost_watchdog/profiles.py` -/

/-- `validate_kharej_ip`. -/
def validateKharejIp (value : Text) : Except String Text :=
  if value = [] ∨ 253 < value.length ∨ !isHost value then
    .error "KHAREJ_IP is not a safe IPv4 address or DNS name"
  else .ok value

/-- One line of `parse_kharej_ip_text`, after the keys seen before. -/
def parseKharejIpLine (state : List Text × Option Text) (line : Text × Nat) :
    Except String (List Text × Option Text) :=
  if isIgnored line.1 then .ok state
  else match assignment line.1 with
    | none => .error s!"profile line {line.2} is malformed"
    | some (key, value) =>
      if key ∈ state.1 then .error s!"profile line {line.2} duplicates {String.ofList key}"
      else if key = Key.kharejIp then do
        let kharejIp ← validateKharejIp value
        return (state.1 ++ [key], some kharejIp)
      else .ok (state.1 ++ [key], state.2)

/-- `parse_kharej_ip_text`. -/
def parseKharejIpText (text : Text) : Except String Text :=
  if '\x00' ∈ text ∨ '\r' ∈ text then .error "profile contains an invalid control character"
  else do
    let state ← ((splitlines text).zipIdx 1).foldlM parseKharejIpLine ([], none)
    match state.2 with
    | none => .error "profile is missing KHAREJ_IP"
    | some kharejIp => return kharejIp

/-! ## `monitoring/entities.py` -/

/-- `values.get(key, "")`. -/
def get (values : List (Text × Text)) (key : Text) : Text :=
  ((values.find? fun entry => entry.1 = key).map (·.2)).getD []

/-- `parse_port`. -/
def parsePort (value : Text) : Except String Nat :=
  if isNumeral value ∧ value.head? ≠ some '0' ∧ value.length ≤ 5 ∧ number value ≤ 65535 then
    .ok (number value)
  else .error "invalid port"

/-- One item of `parse_mappings`, after the mappings read before. -/
def parseMapping (mappings : List (Nat × Nat)) (raw : Text) : Except String (List (Nat × Nat)) :=
  match mapping (strip raw) with
  | none => .error "invalid mapping"
  | some (listenRaw, targetRaw) => do
    let listen ← parsePort listenRaw
    let target ← parsePort targetRaw
    if listen ∈ mappings.map (·.1) then .error s!"duplicate listen port: {listen}"
    else return mappings ++ [(listen, target)]

/-- `parse_mappings`. -/
def parseMappings (value : Text) : Except String (List (Nat × Nat)) :=
  if value = [] ∨ value.head? = some ',' ∨ value.getLast? = some ',' ∨ [',', ','] <:+: value then
    .error "MAPPINGS must use listen:target"
  else (splitOn ',' value).foldlM parseMapping []

/-- `f"{host}:{port}"`. -/
def endpoint (host : Text) (port : Nat) : Text := host ++ ':' :: Nat.toDigits 10 port

/-- `Tunnel`. -/
structure Tunnel where
  side : Side
  number : Nat
  serviceName : Text
  envPath : Text
  listenPorts : List Nat
  targetPorts : List Nat
  remoteEndpoint : Option Text := none
  profileLabel : Option Text := none
  allowedSources : List Text := []
  deriving DecidableEq, Repr

/-- `ENV_RE.match(name)`. -/
def envName (name : Text) : Option (Side × Nat) :=
  let side : Side := if ("iran-".toList).isPrefixOf name then .iran else .kharej
  let digits := (name.drop (side.name.length + 1)).dropLast.dropLast.dropLast.dropLast
  if name = side.name ++ '-' :: digits ++ ".env".toList ∧ isPositiveInteger digits then
    some (side, number digits)
  else none

/-- The values of an Iran profile that the readers are after. -/
structure ProfileValues where
  kharejIp : Text
  tunnelPort : Nat
  mappings : List (Nat × Nat)
  profileLabel : Option Text
  deriving DecidableEq, Repr

/-- The numbers of a pair of ports. -/
def portNumbers (ports : Text × Text) : Nat × Nat := (number ports.1, number ports.2)

/-- The values that the manager has loaded. An empty label is none. -/
def ProfileEnv.values (env : ProfileEnv) : ProfileValues where
  kharejIp := env.value Key.kharejIp
  tunnelPort := number (env.value Key.tunnelPort)
  mappings := ((splitOn ',' (env.value Key.mappings)).filterMap mapping).map portNumbers
  profileLabel := some (env.value Key.profileLabel) |>.filter (· ≠ [])

/-- What lines assign. -/
def assignments (lines : List Text) : List (Text × Text) := lines.filterMap assignment

/-- Every line is ignored or assigns a key, and none that was seen before. -/
structure WellFormed (seen lines : List Text) : Prop where
  each : ∀ line ∈ lines, isIgnored line = true ∨ (assignment line).isSome = true
  keys : (seen ++ (assignments lines).map (·.1)).Nodup

/-- The value that the lines of the shell assign. -/
def assigned (data key : Text) : Text := get (assignments (readLines data)) key

/-- Both ports of a pair have at most five digits. -/
def IsShort (ports : Text × Text) : Prop := ports.1.length ≤ 5 ∧ ports.2.length ≤ 5

/-- A file on which the readers can agree with the manager. They cut lines where the shell does not, and take
a host of 253 characters and ports of five digits at most. -/
structure Readable (data : Text) : Prop where
  lines : WellFormed [] (splitlines data)
  /-- No line that only the readers see assigns a label. -/
  label : ∀ label, (Key.profileLabel, label) ∈ assignments (splitlines data) →
    label = [] ∨ (Key.profileLabel, label) ∈ assignments (readLines data)
  host : (assigned data Key.kharejIp).length ≤ 253
  port : (assigned data Key.tunnelPort).length ≤ 5
  mappings : ∀ ports ∈ (splitOn ',' (assigned data Key.mappings)).filterMap mapping, IsShort ports

end Profiles
