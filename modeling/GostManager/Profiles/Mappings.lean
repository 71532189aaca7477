import Mathlib.Algebra.Group.Nat.Defs
import Mathlib.Data.List.Infix
import GostManager.Profiles.Readers
import GostManager.Texts.Shell

/-!
# Profiles: the mappings of the runner

`lib/gost-run-iran.sh` checks the mappings of a profile once more before it starts `gost`, with its own copy of
the checks of the manager. A message is what `die` prints.
-/

namespace Profiles

open Texts

namespace Runner

/-- One pair of `validate_mappings`, after the listen ports seen before. -/
def validatePair (seen : List Text) (pair : Text) : Except String (List Text) :=
  match mapping pair with
  | none => .error s!"Invalid mapping: {String.ofList pair}"
  | some (listen, target) =>
    if !isValidPort listen then .error s!"Invalid listen port: {String.ofList listen}"
    else if !isValidPort target then .error s!"Invalid target port: {String.ofList target}"
    else if listen ∈ seen then .error s!"Duplicate listen port: {String.ofList listen}"
    else .ok (seen ++ [listen])

/-- `validate_mappings`, with the listen ports. -/
def validateMappings (mappings : Text) : Except String (List Text) :=
  if mappings = [] ∨ mappings.getLast? = some ',' ∨ mappings.head? = some ',' ∨ [',', ','] <:+: mappings then
    .error "MAPPINGS must use listen_port:target_port format."
  else (readArray ',' mappings).foldlM validatePair []

/-- `tcp://0.0.0.0:${listen}/127.0.0.1:${target}`. -/
def forward (listen target : Text) : Text :=
  "tcp://0.0.0.0:".toList ++ listen ++ "/127.0.0.1:".toList ++ target

/-- The arguments of `-L` that `gost` is started with. -/
def forwards (mappings : Text) : List Text :=
  (readArray ',' mappings).map fun pair => forward (before ':' pair) (after ':' pair)

end Runner

/-! ## What mappings denote -/

/-- The pairs of numbers that mappings are about. -/
def pairs (mappings : Text) : List (Nat × Nat) :=
  ((splitOn ',' mappings).filterMap mapping).map portNumbers

/-- Mappings without the space around each of them. -/
def trimmed (mappings : Text) : Text := [','].intercalate ((splitOn ',' mappings).map strip)

/-- The numerals of a pair are integers of the shell. -/
def InRange (ports : Text × Text) : Prop := number ports.1 < 2 ^ 63 ∧ number ports.2 < 2 ^ 63

instance (ports : Text × Text) : Decidable (InRange ports) := inferInstanceAs (Decidable (_ ∧ _))

/-- Pairs of ports, each of which listens on a port of its own. -/
structure ArePorts (pairs : List (Nat × Nat)) : Prop where
  distinct : (pairs.map (·.1)).Nodup
  listen : ∀ ports ∈ pairs, 1 ≤ ports.1 ∧ ports.1 ≤ 65535
  target : ∀ ports ∈ pairs, 1 ≤ ports.2 ∧ ports.2 ≤ 65535

end Profiles
