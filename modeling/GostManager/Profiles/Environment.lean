import Mathlib.Algebra.GroupWithZero.Nat
import Mathlib.Data.List.Infix
import GostManager.Texts.Addresses

/-!
# Profiles: the environment files of the manager

`gost-manager.sh` keeps every profile in a file of lines `KEY=VALUE`. It reads the keys that it knows into
two arrays, keeps the other lines as they are, checks the values, and writes the file again. A file is its
text here; the script does the rest of its work on regular files only.
-/

namespace Profiles

open Texts

/-- The side that a profile is for. -/
inductive Side where
  | iran | kharej
  deriving DecidableEq, Repr

/-- The name of a side in files and units. -/
def Side.name : Side → Text
  | .iran => "iran".toList
  | .kharej => "kharej".toList

/-! ## Keys -/

namespace Key

def gostUser : Text := "GOST_USER".toList
def gostPass : Text := "GOST_PASS".toList
def kharejIp : Text := "KHAREJ_IP".toList
def tunnelPort : Text := "TUNNEL_PORT".toList
def mappings : Text := "MAPPINGS".toList
def profileLabel : Text := "PROFILE_LABEL".toList
def iranIp : Text := "IRAN_IP".toList
def allowedIranSources : Text := "ALLOWED_IRAN_SOURCES".toList
def firewallEnabled : Text := "FIREWALL_ENABLED".toList

end Key

/-! ## Patterns -/

/-- `[A-Za-z_]`. -/
def isKeyStart (c : Char) : Bool := c.isAlpha || c == '_'

/-- `[A-Za-z0-9_]`. -/
def isKeyChar (c : Char) : Bool := c.isAlphanum || c == '_'

/-- `^([A-Za-z_][A-Za-z0-9_]*)=(.*)$`, on a line without line feed. -/
def assignment (line : Text) : Option (Text × Text) :=
  match line.dropWhile isKeyChar with
  | '=' :: value =>
    if (line.takeWhile isKeyChar).head?.any isKeyStart then some (line.takeWhile isKeyChar, value)
    else none
  | _ => none

/-- A line without assignment: blank, or a comment. -/
def isIgnored (line : Text) : Bool := line == [] || line.head? == some '#'

/-- `^[0-9]+$`. -/
def isNumeral (text : Text) : Bool := text != [] && text.all Char.isDigit

/-- `^[0-9]+:[0-9]+$`. -/
def mapping (pair : Text) : Option (Text × Text) :=
  (splitOnce ':' pair).filter fun ports => isNumeral ports.1 && isNumeral ports.2

/-- `^[A-Za-z0-9._~-]+$`. -/
def isToken (text : Text) : Bool :=
  text != [] && text.all fun c => c.isAlphanum || ['.', '_', '~', '-'].contains c

/-- `^[A-Za-z0-9.-]+$`. -/
def isHost (text : Text) : Bool := text != [] && text.all fun c => c.isAlphanum || ['.', '-'].contains c

/-- `^[A-Za-z0-9][A-Za-z0-9._~-]{0,63}$`. -/
def isLabel (text : Text) : Bool :=
  isToken text && text.head?.any Char.isAlphanum && text.length ≤ 64

/-- The number of a decimal numeral. -/
def number (text : Text) : Nat := numberOf 10 (text.map fun c => c.toNat - '0'.toNat)

/-! ## Loading -/

/-- `PROFILE_ENV_KEYS` with `PROFILE_ENV_VALUES`, and `PROFILE_ENV_PRESERVED_LINES`. -/
structure ProfileEnv where
  entries : List (Text × Text) := []
  preserved : List Text := []
  deriving DecidableEq, Repr

/-- The keys of `profile_key_is_known`, in the order of `profile_env_write_lines`. -/
def knownKeys : Side → List Text
  | .iran => [Key.gostUser, Key.gostPass, Key.kharejIp, Key.tunnelPort,
      Key.mappings, Key.profileLabel]
  | .kharej => [Key.gostUser, Key.gostPass, Key.tunnelPort, Key.iranIp,
      Key.allowedIranSources, Key.firewallEnabled, Key.profileLabel]

/-- The check of the bytes that `profile_env_load` leaves to Python. -/
def isPlain (data : Text) : Bool :=
  (data.map Char.utf8Size).sum ≤ 131072 && !data.contains '\x00' && !data.contains '\r'

/-- `while IFS= read -r line || [[ -n "${line}" ]]`. -/
def readLines (data : Text) : List Text :=
  let lines := splitOn '\n' data
  if lines.getLast? = some [] then lines.dropLast else lines

/-- One line of `profile_env_load`. -/
def loadLine (side : Side) (env : ProfileEnv) (line : Text) : Option ProfileEnv :=
  if isIgnored line then some env
  else match assignment line with
    | none => none
    | some (key, value) =>
      if '\n' ∈ value ∨ '\r' ∈ value then none
      else if key ∈ knownKeys side then
        if key ∈ env.entries.map (·.1) then none
        else some { env with entries := env.entries ++ [(key, value)] }
      else some { env with preserved := env.preserved ++ [line] }

/-- `profile_env_load`. -/
def profileEnvLoad (data : Text) (side : Side) (skipBinaryCheck : Bool := false) : Option ProfileEnv :=
  if !skipBinaryCheck && !isPlain data then none
  else (readLines data).foldlM (loadLine side) {}

namespace ProfileEnv

variable (env : ProfileEnv)

/-- `profile_env_value`. -/
def value? (key : Text) : Option Text := (env.entries.find? fun entry => entry.1 = key).map (·.2)

/-- `$(profile_env_value KEY || true)`. -/
def value (key : Text) : Text := (env.value? key).getD []

/-- `profile_env_set`. -/
def set (key value : Text) : ProfileEnv :=
  if key ∈ env.entries.map (·.1) then
    { env with entries := env.entries.map fun entry => if entry.1 = key then (key, value) else entry }
  else { env with entries := env.entries ++ [(key, value)] }

/-- `profile_env_unset`. -/
def unset (key : Text) : ProfileEnv :=
  { env with entries := env.entries.filter fun entry => entry.1 ≠ key }

end ProfileEnv

/-! ## Checking -/

/-- What `[[ text -ge 1 ]]` compares: the shell computes in 64 bits, with no check for overflow. -/
def arithmetic (text : Text) : Int := (BitVec.ofNat 64 (number text)).toInt

/-- `is_positive_integer`. -/
def isPositiveInteger (text : Text) : Bool := isNumeral text && text.head? != some '0'

/-- `is_valid_port`. -/
def isValidPort (text : Text) : Bool :=
  isPositiveInteger text && 1 ≤ arithmetic text && arithmetic text ≤ 65535

/-- One pair of `validate_mappings`, after the listen ports seen before. -/
def validatePair (seen : List Text) (pair : Text) : Except String (List Text) :=
  match mapping pair with
  | none => .error s!"Invalid mapping: {String.ofList pair}"
  | some (listen, target) =>
    if !isValidPort listen then
      .error s!"Invalid listen port in mapping: {String.ofList listen}"
    else if !isValidPort target then
      .error s!"Invalid target port in mapping: {String.ofList target}"
    else if listen ∈ seen then
      .error s!"Duplicate listen port in mappings: {String.ofList listen}"
    else .ok (seen ++ [listen])

/-- `validate_mappings`, with the listen ports. -/
def validateMappings (mappings : Text) : Except String (List Text) :=
  if mappings = [] ∨ mappings.getLast? = some ',' ∨ mappings.head? = some ',' ∨ [',', ','] <:+: mappings then
    .error "Invalid mapping format. Use listen_port:target_port, for example 80:80,8080:8080."
  else (splitOn ',' mappings).foldlM validatePair []

/-- A check of `validate_loaded_profile`, which ends the script with a message. -/
def orDie (holds : Bool) (message : String) : Except String Unit :=
  if holds then .ok () else .error message

/-- `validate_loaded_profile`. The sources of a Kharej profile are what `profile_sources_from_loaded`
makes of them. -/
def validateLoadedProfile (sources : ProfileEnv → Option Text) (side : Side) (env : ProfileEnv) :
    Except String Unit := do
  orDie (isToken (env.value Key.gostUser))
    "GOST username may contain only letters, numbers, dot, underscore, tilde, or hyphen."
  orDie (isToken (env.value Key.gostPass))
    "GOST password may contain only letters, numbers, dot, underscore, tilde, or hyphen."
  orDie (env.value Key.profileLabel == [] || isLabel (env.value Key.profileLabel))
    "profile label must use 1-64 safe letters, numbers, dot, underscore, tilde, or hyphen."
  let port := env.value Key.tunnelPort
  orDie (isValidPort port) s!"port must be between 1 and 65535: {String.ofList port}"
  match side with
  | .iran =>
    orDie (isHost (env.value Key.kharejIp))
      "Kharej IP must be an IPv4 address or DNS name without spaces."
    let _ ← validateMappings (env.value Key.mappings)
    return ()
  | .kharej =>
    orDie (sources env).isSome "Kharej profile must contain exactly one valid Iran source field."
    orDie (sources env != some []) "at least one Iran source is required."
    orDie (env.value Key.firewallEnabled == ['0'] || env.value Key.firewallEnabled == ['1'])
      "FIREWALL_ENABLED must be 0 or 1."

/-! ## Writing -/

/-- `printf '%s=%s\n'`. -/
def assign (key value : Text) : Text := key ++ '=' :: value

/-- `profile_env_write_lines`. -/
def profileEnvWriteLines (side : Side) (env : ProfileEnv) : Text :=
  let known := (knownKeys side).filterMap fun key => (env.value? key).map (assign key)
  ((known ++ env.preserved.filter (· ≠ [])).map (· ++ ['\n'])).flatten

end Profiles
