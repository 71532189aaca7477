import Mathlib.Algebra.GroupWithZero.Nat
import GostManager.Profiles.Environment

/-!
# Profiles: changes

Between loading a profile and writing it, `gost-manager.sh` sets and unsets keys.
-/

namespace Profiles

open Texts

/-- A call of `profile_env_set`, or of `profile_env_unset`. -/
inductive Change where
  | set (key value : Text)
  | unset (key : Text)
  deriving DecidableEq

namespace Change

/-- The key that a call is about. -/
def key : Change → Text
  | set key _ => key
  | unset key => key

/-- The value of the key after the call. -/
def value? : Change → Option Text
  | set _ value => some value
  | unset _ => none

end Change

/-- `profile_env_set`, or `profile_env_unset`. -/
def ProfileEnv.change (env : ProfileEnv) : Change → ProfileEnv
  | .set key value => env.set key value
  | .unset key => env.unset key

/-- The calls one after the other. -/
def ProfileEnv.changes (env : ProfileEnv) (calls : List Change) : ProfileEnv := calls.foldl ProfileEnv.change env

/-- The value of a key after the calls, by the last of them that is about it. -/
def lastValue (calls : List Change) (key : Text) (old : Option Text) : Option Text :=
  match calls.reverse.find? (·.key = key) with
  | none => old
  | some call => call.value?

/-- A text without carriage return, line feed and NUL. -/
def IsOneLine (text : Text) : Prop := '\n' ∉ text ∧ '\r' ∉ text ∧ '\x00' ∉ text

/-- A call on a known key, with a value on one line. -/
structure Change.IsProper (side : Side) (call : Change) : Prop where
  known : call.key ∈ knownKeys side
  value : ∀ value ∈ call.value?, IsOneLine value

/-- The bytes of a text in UTF-8. -/
def bytes (text : Text) : Nat := (text.map Char.utf8Size).sum

end Profiles
