import TestCursor.Config.Json
import TestCursor.Config.Toml
import TestCursor.Error
import TestCursor.File.Path
import TestCursor.File.Resolve
import TestCursor.Interpreter

/-!
# Finding the workspace

The workspace of a path is the nearest directory above it that holds a configuration. Without a
configuration it is the nearest one that holds the project's management script, and without that
a directory the caller gives.
-/

namespace TestCursor

/-- The files that hold nothing but a configuration, the one that counts first in front. -/
def configFileNames : List String := [".django-runner.json", "django-runner.json"]

/-- The project file, which can hold a configuration. -/
def projectFileName : String := "pyproject.toml"

def scriptName : String := "manage.py"

/-- Where a program stands: the files it sees, and its current directory. -/
structure Site where
  tree : FileTree
  cwd : Location

/-- A workspace with its configuration and the file that it came from, if it came from one. -/
structure Workspace where
  config : Config
  source : Option String
  root : String
  deriving DecidableEq, Repr

namespace Site

/-- A path names a regular file. -/
def isFile (site : Site) (path : String) : Bool := site.tree.isFileAt site.cwd path

/-- A path names something that exists. -/
def doesExist (site : Site) (path : String) : Bool := site.tree.existsAt site.cwd path

def readText (site : Site) (path : String) : Except Error String :=
  match site.tree.readText site.cwd path with
  | .ok text => .ok text
  | .error e => .error (.ofFile e)

def writeText (site : Site) (path text : String) : Except Error FileTree :=
  match site.tree.writeText site.cwd path text with
  | .ok tree => .ok tree
  | .error e => .error (.ofFile e)

/-- The configuration in a file of its own. -/
def readConfig (site : Site) (path : String) : Except Error Config :=
  match site.readText path with
  | .error e => .error e
  | .ok text =>
    match Config.ofJsonText? text with
    | some config => .ok config
    | none => .error (.malformed path "not a configuration")

def readProject (site : Site) (path : String) : Except Error (Option Config) :=
  match site.readText path with
  | .error e => .error e
  | .ok text =>
    match Config.ofProjectText? text with
    | some config => .ok config
    | none => .error (.malformed path "not a project file")

/-- What a stream of the process gets of a text that is written to a path. -/
def streamText (site : Site) (path : String) (stream : Nat) (text : String) : String :=
  match site.tree.node? site.cwd path with
  | some (.device (.stream number)) => if number = stream then text else ""
  | _ => ""

def saveConfig (site : Site) (config : Config) (path : String) : Except Error FileTree :=
  site.writeText path config.toJsonText

/-- The configuration in the project file of a directory, and that file. -/
def configInProject (site : Site) (dir : String) : Except Error (Option (Config × String)) :=
  if site.isFile (joinPath dir projectFileName) then
    match site.readProject (joinPath dir projectFileName) with
    | .error e => .error e
    | .ok none => .ok none
    | .ok (some config) => .ok (some (config, joinPath dir projectFileName))
  else .ok none

/-- The configuration in the first of some files of a directory that exists, and that file; or
else that of the project file. -/
def configAmong (site : Site) (dir : String) :
    List String → Except Error (Option (Config × String))
  | [] => site.configInProject dir
  | name :: names =>
    if site.isFile (joinPath dir name) then
      match site.readConfig (joinPath dir name) with
      | .error e => .error e
      | .ok config => .ok (some (config, joinPath dir name))
    else configAmong site dir names

/-- The configuration that a directory holds, and the file it is in. -/
def configIn (site : Site) (dir : String) : Except Error (Option (Config × String)) :=
  site.configAmong dir configFileNames

/-- The nearest directory from `start` upwards that holds the management script. -/
def scriptRoot? (site : Site) (start : String) : Option String :=
  (ancestorsOf start).find? fun dir => site.isFile (joinPath dir scriptName)

/-- Where the search for a path begins: in the directory of a file, or in the path itself. -/
def searchStart (site : Site) (path : String) : String :=
  if site.isFile path then (parentOf? path).getD path else path

def firstConfigured (site : Site) : List String → Except Error (Option Workspace)
  | [] => .ok none
  | dir :: dirs =>
    match site.configIn dir with
    | .error e => .error e
    | .ok (some (config, source)) => .ok (some ⟨config, some source, dir⟩)
    | .ok none => firstConfigured site dirs

def workspaceOf (site : Site) (path fallback : String) : Except Error Workspace :=
  match site.firstConfigured (ancestorsOf (site.searchStart path)) with
  | .error e => .error e
  | .ok (some workspace) => .ok workspace
  | .ok none =>
    .ok ⟨Config.default, none, (site.scriptRoot? (site.searchStart path)).getD fallback⟩

/-- The path of the current directory. -/
def cwdPath (site : Site) : String := FileTree.pathOf site.cwd

/-- An absolute path. For what exists it passes through no link and has no `.` or `..`; for what
does not it is the path as it was given, seen from the current directory. -/
def absolutePath (site : Site) (path : String) : Except Failure String :=
  let joined := joinPath site.cwdPath path
  if site.doesExist joined then
    match site.tree.canonical site.cwd joined with
    | .ok canonical => .ok canonical
    | .error e => .error ⟨"Failed to resolve " ++ joined, [e.message]⟩
  else .ok joined

end Site

/-- What the user says about the workspace. -/
structure WorkspaceChoice where
  root : Option String
  interpreter : Option String
  deriving DecidableEq, Repr

/-- A workspace with its settings. -/
structure Bench where
  workspace : Workspace
  settings : Settings
  deriving DecidableEq, Repr

namespace Site

/-- The workspace for a path, or for the current directory. A root that the user names is the
root of the workspace even if the configuration comes from above it. -/
def chosenWorkspace (site : Site) (path : Option String) (root : Option String) :
    Except Failure Workspace :=
  match site.absolutePath (root.getD ".") with
  | .error failure => .error failure
  | .ok given =>
    let start := if root.isSome then given else path.getD given
    match site.workspaceOf start given with
    | .error e => .error (.inContext ("Failed to load config for " ++ start) e)
    | .ok workspace => .ok (if root.isSome then { workspace with root := given } else workspace)

/-- The workspace for a path, or for the current directory, with its settings. -/
def bench (site : Site) (env : Environment) (path : Option String) (choice : WorkspaceChoice) :
    Except Failure Bench :=
  match site.chosenWorkspace path choice.root with
  | .error e => .error e
  | .ok workspace => .ok ⟨workspace, Settings.of workspace.config env choice.interpreter⟩

end Site

end TestCursor
