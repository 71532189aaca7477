import Mathlib.Data.List.DropRight

/-!
# Strings

The methods of Python's `str` that take text apart, over lists of characters.
-/

namespace Texts

/-- A text. -/
abbrev Text := List Char

instance : LawfulBEq Text := inferInstance

/-- `c.isspace()`. -/
def isspace (c : Char) : Bool :=
  (9 ≤ c.toNat && c.toNat ≤ 13) || (28 ≤ c.toNat && c.toNat ≤ 32) ||
  (8192 ≤ c.toNat && c.toNat ≤ 8202) || [133, 160, 5760, 8232, 8233, 8239, 8287, 12288].contains c.toNat

/-- `text.strip()`. -/
def strip (text : Text) : Text := (text.dropWhile isspace).rdropWhile isspace

/-- `text.split()`, with the word that is being read. -/
def splitFrom (word : Text) : Text → List Text
  | [] => if word = [] then [] else [word]
  | c :: text =>
    if isspace c then
      if word = [] then splitFrom [] text else word :: splitFrom [] text
    else splitFrom (word ++ [c]) text

/-- `text.split()`. -/
def split (text : Text) : List Text := splitFrom [] text

/-- `text.split(separator)`, with the part that is being read. -/
def splitOnFrom (separator : Char) (part : Text) : Text → List Text
  | [] => [part]
  | c :: text =>
    if c = separator then part :: splitOnFrom separator [] text
    else splitOnFrom separator (part ++ [c]) text

/-- `text.split(separator)`. -/
def splitOn (separator : Char) (text : Text) : List Text := splitOnFrom separator [] text

/-- `text.split(separator, 1)`, where the separator occurs. -/
def splitOnce (separator : Char) (text : Text) : Option (Text × Text) :=
  if separator ∈ text then
    some (text.takeWhile (· ≠ separator), (text.dropWhile (· ≠ separator)).tail)
  else none

/-- The characters that end a line. -/
def isLineBoundary (c : Char) : Bool :=
  (10 ≤ c.toNat && c.toNat ≤ 13) || (28 ≤ c.toNat && c.toNat ≤ 30) || [133, 8232, 8233].contains c.toNat

/-- `text.splitlines()`, with the line that is being read. A carriage return and a line feed are one end. -/
def splitlinesFrom (line : Text) : Text → List Text
  | [] => if line = [] then [] else [line]
  | c :: text =>
    if isLineBoundary c then
      match c, text with
      | '\r', '\n' :: text => line :: splitlinesFrom [] text
      | _, text => line :: splitlinesFrom [] text
    else splitlinesFrom (line ++ [c]) text

/-- `text.splitlines()`. -/
def splitlines (text : Text) : List Text := splitlinesFrom [] text

/-- `text.lower()`, where only ASCII matters. -/
def lower (text : Text) : Text := text.map Char.toLower

/-! ## Numbers -/

/-- What `isdigit` and `int` know of the characters, and how many digits `int` takes. -/
structure Digits where
  /-- `c.isdigit()`: also superscripts and the like. -/
  isDigit : Char → Bool
  /-- The value of a decimal digit, of any script. -/
  decimal : Char → Option Nat
  /-- `sys.get_int_max_str_digits()`, where 0 is no limit. -/
  maxStrDigits : Nat

/-- The digits of ASCII, with the default limit. -/
def Digits.ascii : Digits where
  isDigit c := '0' ≤ c && c ≤ '9'
  decimal c := if '0' ≤ c ∧ c ≤ '9' then some (c.toNat - '0'.toNat) else none
  maxStrDigits := 4300

variable (digits : Digits)

/-- `text.isdigit()`. -/
def isdigit (text : Text) : Bool := !text.isEmpty && text.all digits.isDigit

/-- The digits of a numeral, among which there may be single underscores. -/
def numeralDigits : Text → Option (List Nat)
  | [] => none
  | [c] => (digits.decimal c).map ([·])
  | c :: '_' :: text => do
    let d ← digits.decimal c
    let ds ← numeralDigits text
    some (d :: ds)
  | c :: text => do
    let d ← digits.decimal c
    let ds ← numeralDigits text
    some (d :: ds)

/-- A numeral without a sign. -/
def toNat? (text : Text) : Option Nat := do
  let ds ← numeralDigits digits text
  if digits.maxStrDigits ≠ 0 ∧ digits.maxStrDigits < ds.length then none
  else some (ds.foldl (fun n d => 10 * n + d) 0)

/-- `int(text)`. It raises `ValueError` where there is no value. -/
def toInt? (text : Text) : Option Int :=
  match strip text with
  | '-' :: text => (toNat? digits text).map fun n => -(n : Int)
  | '+' :: text => (toNat? digits text).map fun n => (n : Int)
  | text => (toNat? digits text).map fun n => (n : Int)

end Texts
