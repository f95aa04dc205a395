import TestCursor.Text.Split

/-!
# Path texts

A path is text, and stays as it was written: a parent or a remainder of a path is cut out of the
text and never changed. What a path *means* is its list of components; repeated separators,
`.` segments inside and a separator at the end do not count as components, while `..` does.
-/

namespace TestCursor

inductive PathHead
  /-- With the separator: the path is absolute. -/
  | root
  /-- With a `.` segment: the path is relative, and the segment is a component. -/
  | here
  /-- With a name, or not at all: the path is relative. -/
  | plain
  deriving DecidableEq, Repr

/-- A path text taken apart: how it begins, and the pieces between the separators after that. -/
structure PathText where
  head : PathHead
  pieces : List (List Char)
  deriving DecidableEq, Repr

namespace PathText

def ofChars : List Char → PathText
  | '/' :: body => ⟨.root, splitOn '/' body⟩
  | ['.'] => ⟨.here, []⟩
  | '.' :: '/' :: body => ⟨.here, [] :: splitOn '/' body⟩
  | text => ⟨.plain, splitOn '/' text⟩

def ofString (text : String) : PathText := ofChars text.toList

/-- What stands in front of the pieces. -/
def headChars (path : PathText) : List Char :=
  match path.head with
  | .root => ['/']
  | .here => ['.']
  | .plain => []

def toChars (path : PathText) : List Char := path.headChars ++ joinWith ['/'] path.pieces

/-- The text of a path. -/
protected def toString (path : PathText) : String := String.ofList path.toChars

/-- A piece that names something: neither empty nor the current directory. -/
def isName (piece : List Char) : Bool := !piece.isEmpty && piece != ['.']

/-- The named components after the head. -/
def names (path : PathText) : List (List Char) := path.pieces.filter isName

/-- All components: that of the head, if it is one, and the names. -/
def components (path : PathText) : List (List Char) :=
  match path.head with
  | .plain => path.names
  | _ => path.headChars :: path.names

/-- Pieces without those at the end that name nothing. -/
def trimRight (pieces : List (List Char)) : List (List Char) :=
  (pieces.reverse.dropWhile fun piece => !isName piece).reverse

/-- Pieces without those at the front that name nothing. -/
def trimLeft (pieces : List (List Char)) : List (List Char) :=
  pieces.dropWhile fun piece => !isName piece

/-- The path without its last component. The root and the empty path have no parent. -/
def parent? (path : PathText) : Option PathText :=
  match trimRight path.pieces with
  | [] => if path.head = .here then some ⟨.plain, []⟩ else none
  | piece :: pieces => some ⟨path.head, trimRight (piece :: pieces).dropLast⟩

/-- A path and its parents, at most `fuel` of them. -/
def ancestorsUpTo : Nat → PathText → List PathText
  | 0, path => [path]
  | fuel + 1, path =>
    path :: match path.parent? with
      | some parent => ancestorsUpTo fuel parent
      | none => []

/-- A path, its parent, and so on as far as there is one. -/
def ancestors (path : PathText) : List PathText := ancestorsUpTo (path.pieces.length + 2) path

/-- The pieces after the first `count` names. -/
def dropNames : Nat → List (List Char) → List (List Char)
  | 0, pieces => pieces
  | _ + 1, [] => []
  | count + 1, piece :: pieces =>
    if isName piece then dropNames count pieces else dropNames (count + 1) pieces

/-- What remains of a path below a base: its components without those of the base, which must
be its first ones. -/
def below? (path base : PathText) : Option PathText :=
  if base.components.isEmpty then some ⟨path.head, trimRight path.pieces⟩
  else if base.components.isPrefixOf path.components then
    some ⟨.plain, trimRight (trimLeft (dropNames base.names.length path.pieces))⟩
  else none

end PathText

/-- The path with its separator in front. -/
def isAbsolute (path : String) : Bool := path.toList.head? == some '/'

def parentOf? (path : String) : Option String :=
  (PathText.ofString path).parent?.map PathText.toString

/-- A path and its parents, as texts. -/
def ancestorsOf (path : String) : List String :=
  match (PathText.ofString path).ancestors with
  | [] => [path]
  | _ :: rest => path :: rest.map PathText.toString

/-- A path followed from a base. An absolute path stands for itself; between the two stands one
separator unless the base is empty or ends in one. -/
def joinPath (base path : String) : String :=
  if isAbsolute path || base.isEmpty then path
  else if base.toList.getLast? = some '/' then base ++ path
  else base ++ "/" ++ path

/-- The path of a file below a root, or the path as it is when the file lies elsewhere. -/
def relativePath (file root : String) : String :=
  match (PathText.ofString file).below? (PathText.ofString root) with
  | some rest => rest.toString
  | none => file

end TestCursor
