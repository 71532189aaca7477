import GostManager.Texts.Strings

/-!
# Shell

How bash takes text apart.
-/

namespace Texts

/-- `IFS=separator read -r -a fields <<< text`: the fields of the first line. A separator ends a field, and so
none comes after the last one. -/
def readArray (separator : Char) (text : Text) : List Text :=
  let fields := splitOn separator ((splitOn '\n' text).headD [])
  if fields.getLast? = some [] then fields.dropLast else fields

/-- `${text%%separator*}`. -/
def before (separator : Char) (text : Text) : Text := text.takeWhile (· ≠ separator)

/-- `${text#*separator}`. -/
def after (separator : Char) (text : Text) : Text :=
  if separator ∈ text then (text.dropWhile (· ≠ separator)).tail else text

example : readArray ',' "a,,b,".toList = ["a".toList, [], "b".toList] := by decide

end Texts
