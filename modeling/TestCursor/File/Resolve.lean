import TestCursor.File.Error
import TestCursor.File.Tree
import TestCursor.Text.Split

/-!
# From path texts to nodes

A path is walked piece by piece from the top of the tree or from the current directory. A link on
the way, and one at the end where the caller wants what it names, is replaced by its target; only
so many links are followed. A path text has a largest length, but a walk has none.
-/

namespace TestCursor

/-- Where the walk along a path ended. -/
inductive Arrival
  /-- At a node. -/
  | here (place : Location)
  /-- In a directory that lacks the last name of the path. -/
  | absent (parent : Location) (name : String)
  deriving DecidableEq, Repr

/-- The place where a walk ended. -/
def Arrival.place : Arrival → Except FileError Location
  | .here place => .ok place
  | .absent _ _ => .error .notFound

/-- What a path is walked for. -/
inductive Purpose
  /-- For what the path names. -/
  | target
  /-- For the entry itself: a link at the very end is not followed. -/
  | entry
  /-- For a file to write: what the path names, and no directory, so that the path must not end
  in a separator. -/
  | writing
  deriving DecidableEq, Repr

/-- How many links one walk follows. -/
def maxLinks : Nat := 40

/-- How many bytes the text of a path can have. -/
def maxPathBytes : Nat := 4095

/-- How many bytes a name can have. -/
def maxNameBytes : Nat := 255

namespace FileTree

/-- Where a walk starts that follows a text: at the top for an absolute one. -/
def startOf (place : Location) (text : String) : Location :=
  if text.toList.head? = some '/' then [] else place

/-- Nothing follows a name but separators. -/
def endsInSeparators (rest : List String) : Bool := !rest.isEmpty && rest.all String.isEmpty

/-- Walk along pieces of a path from a place. `jump` goes on after a link was replaced by its
target. -/
def walkWith (tree : FileTree) (purpose : Purpose)
    (jump : Location → List String → Except FileError Arrival) :
    Location → List String → Except FileError Arrival
  | place, [] => .ok (.here place)
  | place, piece :: rest =>
    match tree.get? place with
    | some (.dir entries) =>
      if piece = "" ∨ piece = "." then walkWith tree purpose jump place rest
      else if piece = ".." then walkWith tree purpose jump place.dropLast rest
      else if purpose = .writing ∧ endsInSeparators rest then .error .isDirectory
      else if maxNameBytes < piece.utf8ByteSize then .error .nameTooLong
      else
        match entries.lookup piece with
        | none => if rest.isEmpty then .ok (.absent place piece) else .error .notFound
        | some (.link target) =>
          if rest.isEmpty && purpose == .entry then .ok (.here (place ++ [piece]))
          else jump (startOf place target) (splitString '/' target ++ rest)
        | some _ => walkWith tree purpose jump (place ++ [piece]) rest
    | some _ => .error .notDirectory
    | none => .error .notFound

/-- Walk along pieces of a path from a place and through at most `links` links. -/
def walk (tree : FileTree) (purpose : Purpose) :
    Nat → Location → List String → Except FileError Arrival
  | 0 => walkWith tree purpose fun _ _ => .error .tooManyLinks
  | links + 1 => walkWith tree purpose (walk tree purpose links)

/-- Where a path of any length leads from a current directory. -/
def follow (tree : FileTree) (cwd : Location) (purpose : Purpose) (path : String) :
    Except FileError Arrival :=
  if path.toList.contains '\x00' then .error .nulInPath
  else if path.isEmpty then .error .notFound
  else walk tree purpose maxLinks (startOf cwd path) (splitString '/' path)

/-- Where a path leads from a current directory. -/
def arrive (tree : FileTree) (cwd : Location) (purpose : Purpose) (path : String) :
    Except FileError Arrival :=
  if maxPathBytes < path.utf8ByteSize && !path.toList.contains '\x00' then .error .nameTooLong
  else follow tree cwd purpose path

/-- The place that a path names. -/
def locate (tree : FileTree) (cwd : Location) (path : String) : Except FileError Location :=
  match tree.arrive cwd .target path with
  | .ok arrival => arrival.place
  | .error e => .error e

def node? (tree : FileTree) (cwd : Location) (path : String) : Option FileTree :=
  match tree.locate cwd path with
  | .ok place => tree.get? place
  | .error _ => none

/-- A path names something that exists. -/
def existsAt (tree : FileTree) (cwd : Location) (path : String) : Bool :=
  (tree.node? cwd path).isSome

/-- A path names a regular file. -/
def isFileAt (tree : FileTree) (cwd : Location) (path : String) : Bool :=
  match tree.node? cwd path with
  | some (.file _ _) => true
  | _ => false

/-- The absolute path of a place, which passes through no link. -/
def pathOf (place : Location) : String :=
  if place.isEmpty then "/" else String.join (place.map fun name => "/" ++ name)

/-- The place that a path of any length names. A stream has no place. -/
def realPlace (tree : FileTree) (cwd : Location) (path : String) : Except FileError Location :=
  match tree.follow cwd .target path with
  | .ok (.here place) =>
    match tree.get? place with
    | some (.device (.stream _)) => .error .notFound
    | _ => .ok place
  | .ok (.absent _ _) => .error .notFound
  | .error e => .error e

/-- The absolute path, free of links and of `.` and `..`, of what a path names. -/
def canonical (tree : FileTree) (cwd : Location) (path : String) : Except FileError String :=
  (tree.realPlace cwd path).map pathOf

def readBytes (tree : FileTree) (cwd : Location) (path : String) : Except FileError ByteArray :=
  match tree.locate cwd path with
  | .error e => .error e
  | .ok place =>
    match tree.get? place with
    | some (.file content _) => .ok content
    | some (.device _) => .ok ByteArray.empty
    | some (.dir _) => .error .isDirectory
    | _ => .error .notFound

def readText (tree : FileTree) (cwd : Location) (path : String) : Except FileError String :=
  match tree.readBytes cwd path with
  | .error e => .error e
  | .ok content =>
    match String.fromUTF8? content with
    | some text => .ok text
    | none => .error .notText

/-- The place where writing to a path puts the file. Writing goes through links, also through one
whose target is missing; a directory is refused. -/
def placeToWrite (tree : FileTree) (cwd : Location) (path : String) :
    Except FileError Location :=
  match tree.arrive cwd .writing path with
  | .error e => .error e
  | .ok (.absent parent name) => .ok (parent ++ [name])
  | .ok (.here place) =>
    match tree.get? place with
    | some (.dir _) => .error .isDirectory
    | _ => .ok place

/-- The tree after a file was written at a place, over what it held before. A device keeps
nothing. -/
def writeAt (tree : FileTree) (place : Location) (content : ByteArray) :
    Except FileError FileTree :=
  match tree.get? place with
  | some (.device .full) => if content.isEmpty then .ok tree else .error .noSpace
  | some (.device _) => .ok tree
  | some node => .ok (tree.put place (.file content node.mode))
  | none => .ok (tree.put place (.file content newFileMode))

/-- The tree after a file was written, in the place of what it held before. -/
def writeBytes (tree : FileTree) (cwd : Location) (path : String) (content : ByteArray) :
    Except FileError FileTree :=
  match tree.placeToWrite cwd path with
  | .error e => .error e
  | .ok place => tree.writeAt place content

/-- The tree after a text was written to a file. -/
def writeText (tree : FileTree) (cwd : Location) (path text : String) :
    Except FileError FileTree :=
  tree.writeBytes cwd path text.toUTF8

end FileTree

end TestCursor
