import GostManager.Texts.Strings

/-!
# Patterns

Regular expressions of Python's `re`, as far as they repeat only characters. What a pattern matches is listed in the
order in which `re` tries it, and `re` takes the first.
-/

namespace Texts

/-- A pattern. -/
inductive Pattern where
  | empty
  /-- One character of a class. -/
  | char (accepts : Char → Bool)
  /-- Any number of characters of a class, as many as possible. -/
  | many (accepts : Char → Bool)
  | seq (first second : Pattern)
  | alt (first second : Pattern)
  /-- `\b`. -/
  | boundary (isWord : Char → Bool)
  /-- `^`. -/
  | start
  /-- `$`. -/
  | finish

/-- A place in a text: what stands before it, backwards, and what stands after it. -/
structure Place where
  before : Text
  after : Text
  deriving DecidableEq

/-- The places behind the characters of a class, the farthest first. -/
def runEnds (accepts : Char → Bool) (before : Text) : Text → List Place
  | [] => [⟨before, []⟩]
  | c :: after => if accepts c then runEnds accepts (c :: before) after ++ [⟨before, c :: after⟩] else [⟨before, c :: after⟩]

namespace Pattern

/-- Where a match that begins at a place may end. -/
def ends : Pattern → Place → List Place
  | empty, place => [place]
  | char accepts, ⟨before, c :: after⟩ => if accepts c then [⟨c :: before, after⟩] else []
  | char _, ⟨_, []⟩ => []
  | many accepts, ⟨before, after⟩ => runEnds accepts before after
  | seq first second, place => (first.ends place).flatMap second.ends
  | alt first second, place => first.ends place ++ second.ends place
  | boundary isWord, place =>
    if place.before.head?.any isWord = place.after.head?.any isWord then [] else [place]
  | start, place => if place.before = [] then [place] else []
  | finish, place => if place.after = [] ∨ place.after = ['\n'] then [place] else []

/-- `[...]+`. -/
def plus (accepts : Char → Bool) : Pattern := seq (char accepts) (many accepts)

/-- Patterns one after the other. -/
def sequence (first : Pattern) : List Pattern → Pattern
  | [] => first
  | next :: rest => seq first (sequence next rest)

/-- `(?:...|...)`. -/
def anyOf (first : Pattern) : List Pattern → Pattern
  | [] => first
  | next :: rest => alt first (anyOf next rest)

/-- Whether a match begins at a place or after it. -/
def searchFrom (pattern : Pattern) (before : Text) : Text → Bool
  | [] => !(pattern.ends ⟨before, []⟩).isEmpty
  | c :: after => !(pattern.ends ⟨before, c :: after⟩).isEmpty || pattern.searchFrom (c :: before) after

/-- `pattern.search(text)`. -/
def search (pattern : Pattern) (text : Text) : Bool := pattern.searchFrom [] text

end Pattern

/-- A pattern of which the first part is a group, with what the match is replaced by, given the group. -/
structure Substitution where
  group : Pattern
  rest : Pattern
  replacement : Text → Text

namespace Substitution

/-- The match at a place: where its group ends, and where it ends. -/
def match? (s : Substitution) (place : Place) : Option (Place × Place) :=
  ((s.group.ends place).flatMap fun middle => (s.rest.ends middle).map fun last => (middle, last)).head?

/-- The text from one place to a later one. -/
def between (place later : Place) : Text := (later.before.take (later.before.length - place.before.length)).reverse

/-- What becomes of the text after a place. No match is empty, so as many steps as there are characters suffice. -/
def applyFrom (s : Substitution) : Nat → Place → Text
  | 0, _ => []
  | n + 1, place =>
    match s.match? place with
    | some (middle, last) => s.replacement (between place middle) ++ s.applyFrom n last
    | none =>
      match place.after with
      | [] => []
      | c :: after => c :: s.applyFrom n ⟨c :: place.before, after⟩

/-- `pattern.sub(replacement, text)`. -/
def apply (s : Substitution) (text : Text) : Text := s.applyFrom text.length ⟨[], text⟩

end Substitution

/-! ## Ignoring case -/

/-- The characters that a small letter of ASCII matches when case is ignored: its two cases, and those of other
scripts whose case is one of them. -/
def ignoringCase (letter c : Char) : Bool :=
  c = letter || c = letter.toUpper || (letter = 'i' && (c.toNat = 304 || c.toNat = 305)) ||
    (letter = 's' && c.toNat = 383) || (letter = 'k' && c.toNat = 8490)

/-- The characters that `[a-z]` matches when case is ignored. -/
def isLetterIgnoringCase (c : Char) : Bool :=
  ('a' ≤ c && c ≤ 'z') || ('A' ≤ c && c ≤ 'Z') || [304, 305, 383, 8490].contains c.toNat

/-- A word in small letters, whatever its case. -/
def Pattern.word : Text → Pattern
  | [] => .empty
  | letter :: rest => .seq (.char (ignoringCase letter)) (word rest)

end Texts
