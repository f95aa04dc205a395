import TestCursor.Cli.Run
import TestCursor.Shell.Run
import TestCursor.Shell.Installation

/-!
# The program

The files that an invocation can see are read, it is run on them, and the files that it changed
are written. Lines for the shell are run by the shell of this library with the programs of its own
system.
-/

namespace TestCursor

namespace Program

/-- The files that are looked for in each directory above a path. -/
def knownNames : List String := configFileNames ++ [projectFileName, scriptName, StateFile.fileName]

/-- How many directories deep a tree is read. -/
def maxDepth : Nat := 64

/-- The names of a canonical path. -/
def placeOf (path : String) : Location := (splitString '/' path).filter fun name => name != ""

/-- A file of the disk. A script that names its interpreter counts as a program. -/
def fileOf (content : ByteArray) : FileTree :=
  let isScript := (content.extract 0 2).toList == [35, 33]
  .file content (if isScript then Shell.Installation.programMode else newFileMode)

/-- What is on the disk at an entry of a directory, the entries below it down to a depth. Devices
and links to nothing are passed over. -/
def readEntry (readBelow : String → IO FileTree) (entry : IO.FS.DirEntry) :
    IO (Option FileTree) := do
  match (← entry.path.symlinkMetadata).type with
  | .dir => return some (← readBelow entry.path.toString)
  | .file => return some (fileOf (← IO.FS.readBinFile entry.path))
  | .symlink => return some (.link (← IO.FS.realPath entry.path).toString)
  | .other => return none

/-- The entries of a directory that have one of the names wanted; what cannot be read is passed
over. -/
def readEntries (readBelow : String → IO FileTree) (isWanted : String → Bool) (path : String) :
    IO FileTree := do
  let mut entries := []
  for entry in ← (← IO.FS.realPath path).readDir do
    if isWanted entry.fileName then
      match ← (readEntry readBelow entry).toBaseIO with
      | .ok (some node) => entries := (entry.fileName, node) :: entries
      | _ => pure ()
  return .dir entries

/-- A directory with all that is below it, down to a depth. -/
def readDirectory : Nat → String → IO FileTree
  | 0, _ => return FileTree.empty
  | depth + 1, path => readEntries (readDirectory depth) (fun _ => true) path

/-- The known files of a directory. -/
def readKnown (place : Location) : IO FileTree :=
  readEntries (fun _ => return FileTree.empty) (fun name => knownNames.contains name)
    (FileTree.pathOf place)

/-- The entries of a directory added to those of a place in a tree. -/
def addEntries (tree : FileTree) (place : Location) (known : FileTree) : FileTree :=
  known.entries.foldl (fun tree (name, node) => tree.put (place ++ [name]) node)
    (tree.makeWay place)

/-- The known files of the directories that lead to a place, added to a tree. -/
def readWay (place : Location) : Location → FileTree → IO FileTree
  | [], tree => return tree
  | name :: rest, tree => do
    let here := place ++ [name]
    readWay here rest (addEntries tree here (← readKnown here))

/-- All that is below a directory, with the known files above it, added to a tree. -/
def readAround (tree : FileTree) (path : String) : IO FileTree := do
  match ← (IO.FS.realPath path).toBaseIO with
  | .error _ => return tree
  | .ok path =>
    let place := placeOf path.toString
    match ← (readDirectory maxDepth path.toString).toBaseIO with
    | .error _ => return tree
    | .ok below => return (← readWay [] place.dropLast tree).put place below

def fileOf? : Cli.Invocation → Option String
  | .run _ location _ _ | .analyze location _ _ =>
    match Place.parse location with
    | .ok place => some place.file
    | .error _ => none
  | _ => none

def directoryOf? : Cli.Invocation → Option String
  | .run _ _ _ choice | .app _ choice | .previous _ choice | .analyze _ _ choice => choice.root
  | .init dir _ => dir

/-- The directories whose files an invocation can see: the current one, the one that it names,
and those of the file that it names and of what that links to. -/
def directoriesOf (cwd : String) (invocation : Cli.Invocation) : IO (List String) := do
  let named := (directoryOf? invocation).toList.map (joinPath cwd)
  match (fileOf? invocation).map (joinPath cwd) with
  | none => return cwd :: named
  | some file =>
    let linked := match ← (IO.FS.realPath file).toBaseIO with
      | .ok path => path.toString
      | .error _ => file
    return cwd :: named ++ [file, linked].filterMap parentOf?

/-- Write the files in which a later tree differs from an earlier one, and remove those that it
lacks. -/
def writeChanges (before after : FileTree) : IO Unit := do
  for (place, content) in before.changes after do
    IO.FS.createDirAll (FileTree.pathOf place.dropLast)
    IO.FS.writeBinFile (FileTree.pathOf place) content
  for (place, _) in before.files do
    if (after.get? place).isNone then IO.FS.removeFile (FileTree.pathOf place)

/-- Run an invocation on the files of the disk. -/
def run (invocation : Cli.Invocation) : IO UInt32 := do
  let env : Environment :=
    ⟨← IO.getEnv "VIRTUAL_ENV", ← IO.getEnv "CONDA_PREFIX"⟩
  let cwd := (← IO.FS.realPath (← IO.currentDir)).toString
  let installed := Shell.Installation.forEmptyInput Shell.Installation.tree
  let known := addEntries installed [] (← readKnown [])
  let tree ← (← directoriesOf cwd invocation).foldlM readAround known
  let outcome := Cli.execute (Shell.runLine env) ⟨tree, placeOf cwd⟩ env invocation
  writeChanges tree outcome.tree
  IO.print outcome.stdout
  IO.eprint outcome.stderr
  return UInt32.ofNat outcome.code

end Program

end TestCursor

/-- Run the command line. -/
def main (args : List String) : IO UInt32 := do
  match TestCursor.Cli.parse args with
  | .error usage =>
    IO.print usage.output
    return UInt32.ofNat usage.code
  | .ok invocation => TestCursor.Program.run invocation
