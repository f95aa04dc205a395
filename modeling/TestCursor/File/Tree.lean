/-!
# File trees

A file tree is what hangs below one directory: regular files, symbolic links, devices and
directories. A location is the list of names that lead to a node from the top, without any link
on the way.

Names and targets of links are texts of Unicode; a name that is no such text has no place here. A
file carries its permission bits, but the operations on trees do not consult them: every permission
check passes, as it does for the user `root`.
-/

namespace TestCursor

inductive Device
  /-- Empty, and takes everything. -/
  | null
  /-- Zeros without end, and takes everything. -/
  | zero
  /-- Zeros without end, and takes nothing. -/
  | full
  /-- A stream of the process that opens the device. -/
  | stream (number : Nat)
  deriving DecidableEq, Repr, Inhabited

/-- The permission bits of a new file. -/
def newFileMode : Nat := 0o644

inductive FileTree
  /-- A regular file with its permission bits. -/
  | file (content : ByteArray) (mode : Nat)
  | device (kind : Device)
  /-- A symbolic link to a path. -/
  | link (target : String)
  | dir (entries : List (String × FileTree))
  deriving Inhabited

/-- The names that lead from the top of a tree to a node. -/
abbrev Location := List String

namespace FileTree

/-- A directory without entries. -/
def empty : FileTree := .dir []

/-- The entries of a directory; another node has none. -/
def entries : FileTree → List (String × FileTree)
  | .dir entries => entries
  | _ => []

/-- The node is a directory. -/
def isDir : FileTree → Bool
  | .dir _ => true
  | _ => false

/-- The node is a regular file. -/
def isFile : FileTree → Bool
  | .file _ _ => true
  | _ => false

/-- The permission bits of a file; those of a new one for another node. -/
def mode : FileTree → Nat
  | .file _ mode => mode
  | _ => newFileMode

/-- The entry of a directory under a name. -/
def entry? (tree : FileTree) (name : String) : Option FileTree :=
  tree.entries.lookup name

def get? : FileTree → Location → Option FileTree
  | tree, [] => some tree
  | tree, name :: rest =>
    match tree.entry? name with
    | some child => get? child rest
    | none => none

/-- Entries with one put under a name, in the place of the entry of that name if there is one. -/
def putEntry (name : String) (node : FileTree) :
    List (String × FileTree) → List (String × FileTree)
  | [] => [(name, node)]
  | (other, old) :: rest =>
    if other = name then (name, node) :: rest else (other, old) :: putEntry name node rest

/-- The tree with a node put at a location. It stays as it is when the directories that lead
there are missing. -/
def put : FileTree → Location → FileTree → FileTree
  | _, [], node => node
  | tree, name :: rest, node =>
    match tree with
    | .dir entries =>
      if rest.isEmpty then .dir (putEntry name node entries)
      else
        match entries.lookup name with
        | some child => .dir (putEntry name (put child rest node) entries)
        | none => tree
    | _ => tree

/-- The tree with the directories at a location and on the way there, where nothing is yet. -/
def makeWay : FileTree → Location → FileTree
  | tree, [] => tree
  | .dir entries, name :: rest =>
    .dir (putEntry name (makeWay ((entries.lookup name).getD empty) rest) entries)
  | tree, _ => tree

/-- The tree without the node at a location. -/
def remove : FileTree → Location → FileTree
  | tree, [] => tree
  | tree, name :: rest =>
    match tree with
    | .dir entries =>
      if rest.isEmpty then .dir (entries.filter fun entry => entry.1 != name)
      else
        match entries.lookup name with
        | some child => .dir (putEntry name (remove child rest) entries)
        | none => tree
    | _ => tree

/-- Entries in the order of their names' bytes. -/
def sortedEntries (tree : FileTree) : List (String × FileTree) :=
  tree.entries.mergeSort fun x y => decide (x.1 ≤ y.1)

mutual

/-- The regular files of a tree with their locations below `place`. Links are not followed. -/
def filesBelow (place : Location) : FileTree → List (Location × ByteArray)
  | .file content _ => [(place, content)]
  | .link _ => []
  | .device _ => []
  | .dir entries => filesAmong place entries

/-- The regular files below the entries of a directory at `place`. -/
def filesAmong (place : Location) : List (String × FileTree) → List (Location × ByteArray)
  | [] => []
  | (name, node) :: rest => filesBelow (place ++ [name]) node ++ filesAmong place rest

end

def files (tree : FileTree) : List (Location × ByteArray) := filesBelow [] tree

/-- The regular files that a later tree has and an earlier one has not, or with other content. -/
def changes (before after : FileTree) : List (Location × ByteArray) :=
  after.files.filter fun entry =>
    match before.get? entry.1 with
    | some (.file content _) => content.data != entry.2.data
    | _ => true

end FileTree

end TestCursor
