import Mathlib.Data.List.Sort
import Mathlib.Data.String.Basic
import GostManager.Texts.Strings

/-!
# JSON

Values of JSON, with numbers as they are written, and `json.dumps` of them.
-/

namespace Texts

/-- A value. The members of an object are in the order of the dictionary, whose keys are distinct. -/
inductive Json where
  | null
  | bool (b : Bool)
  | number (literal : Text)
  | string (text : Text)
  | array (items : List Json)
  | object (members : List (Text × Json))

namespace Json

/-- A digit to the base 16. -/
def hexDigit (n : Nat) : Char := if n < 10 then Char.ofNat (n + '0'.toNat) else Char.ofNat (n - 10 + 'a'.toNat)

/-- `\uXXXX`. -/
def escapeUnit (unit : Nat) : Text :=
  ['\\', 'u', hexDigit (unit / 4096 % 16), hexDigit (unit / 256 % 16), hexDigit (unit / 16 % 16), hexDigit (unit % 16)]

/-- A character of a string, in ASCII. What is beyond the first plane is a pair of surrogates. -/
def escape (c : Char) : Text :=
  if c = '"' then ['\\', '"']
  else if c = '\\' then ['\\', '\\']
  else if ' ' ≤ c ∧ c ≤ '~' then [c]
  else if c = '\n' then ['\\', 'n']
  else if c = '\r' then ['\\', 'r']
  else if c = '\t' then ['\\', 't']
  else if c.toNat = 12 then ['\\', 'f']
  else if c.toNat = 8 then ['\\', 'b']
  else if c.toNat < 65536 then escapeUnit c.toNat
  else escapeUnit (55296 + (c.toNat - 65536) / 1024) ++ escapeUnit (56320 + (c.toNat - 65536) % 1024)

/-- A string with its quotes. -/
def quote (text : Text) : Text := '"' :: text.flatMap escape ++ ['"']

/-- The members of an object, whose values are written, in the order of their keys. -/
def writeMembers (members : List (Text × Text)) : Text :=
  let sorted := members.insertionSort fun a b => a.1 ≤ b.1
  ['\x7b'] ++ ", ".toList.intercalate (sorted.map fun member => quote member.1 ++ ": ".toList ++ member.2) ++ ['\x7d']

mutual

/-- `json.dumps(value, sort_keys=True)`. -/
def dumps : Json → Text
  | null => "null".toList
  | bool b => (if b then "true" else "false").toList
  | number literal => literal
  | string text => quote text
  | array items => ['['] ++ ", ".toList.intercalate (dumpsItems items) ++ [']']
  | object members => writeMembers (dumpsMembers members)

/-- The items of an array. -/
def dumpsItems : List Json → List Text
  | [] => []
  | item :: items => item.dumps :: dumpsItems items

/-- The members of an object. -/
def dumpsMembers : List (Text × Json) → List (Text × Text)
  | [] => []
  | (key, value) :: members => (key, value.dumps) :: dumpsMembers members

end

end Json

end Texts
