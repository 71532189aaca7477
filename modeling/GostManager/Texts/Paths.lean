import GostManager.Texts.Proofs.ShellProofs

/-!
# Paths

Paths of POSIX, as `posixpath.normpath` and `pathlib.PurePosixPath` take them apart.
-/

namespace Texts

/-- What a path begins with: no slash, one, or exactly two. -/
inductive PathRoot where
  | relative | single | double
  deriving DecidableEq, Repr

/-- The slashes. -/
def PathRoot.text : PathRoot → Text
  | .relative => []
  | .single => ['/']
  | .double => ['/', '/']

/-- The root of a path. Three slashes and more count as one. -/
def pathRoot : Text → PathRoot
  | '/' :: '/' :: '/' :: _ => .single
  | '/' :: '/' :: _ => .double
  | '/' :: _ => .single
  | _ => .relative

/-- The name of the directory above. -/
def parentName : Text := ['.', '.']

/-- A part of a path that `pathlib` keeps. -/
def isName (part : Text) : Bool := part ≠ [] && part ≠ ['.'] && !part.contains '/'

/-! ## `pathlib` -/

/-- A `PurePosixPath`. -/
structure PurePath where
  root : PathRoot
  names : List Text
  named : ∀ name ∈ names, isName name = true
  deriving DecidableEq

namespace PurePath

/-- `PurePosixPath(text)`. -/
def ofText (text : Text) : PurePath where
  root := pathRoot text
  names := (splitOn '/' text).filter isName
  named _ hname := (List.mem_filter.1 hname).2

/-- `str(path)`. -/
def text (path : PurePath) : Text :=
  if path.root = .relative ∧ path.names = [] then ['.'] else path.root.text ++ ['/'].intercalate path.names

/-- `path.is_absolute()`. -/
def isAbsolute (path : PurePath) : Bool := path.root ≠ .relative

/-- The path of the first names. -/
def take (path : PurePath) (n : Nat) : PurePath where
  root := path.root
  names := path.names.take n
  named name hname := path.named name (List.mem_of_mem_take hname)

/-- `path.parents`. -/
def parents (path : PurePath) : List PurePath := (List.range path.names.length).reverse.map path.take

/-- `path.joinpath(*other.parts[1:])`, for an absolute `other`. -/
def below (path other : PurePath) : PurePath where
  root := path.root
  names := path.names ++ other.names
  named name hname := (List.mem_append.1 hname).elim (path.named name) (other.named name)

end PurePath

/-! ## `normpath` -/

/-- The body of `for comp in comps`. -/
def pushComponent (absolute : Bool) (names : List Text) (comp : Text) : List Text :=
  if comp = [] ∨ comp = ['.'] then names
  else if comp ≠ parentName ∨ (absolute = false ∧ names = []) ∨ names.getLast? = some parentName then
    names ++ [comp]
  else names.dropLast

/-- `posixpath.normpath(text)`. -/
def normpath (text : Text) : Text :=
  if text = [] then ['.']
  else
    let names := (splitOn '/' text).foldl (pushComponent (pathRoot text ≠ .relative)) []
    let path := (pathRoot text).text ++ ['/'].intercalate names
    if path = [] then ['.'] else path

end Texts
