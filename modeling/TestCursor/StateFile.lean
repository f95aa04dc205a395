import TestCursor.Json.Printer
import TestCursor.Workspace

/-!
# The state file

Each workspace keeps the path of the last tests in a file at its root, so that they can be run
again by another process. A file that is missing or holds something else counts as no tests.
-/

namespace TestCursor

namespace StateFile

def fileName : String := ".django-runner-state.json"

def key : String := "last_ran_test_path"

def pathIn (root : String) : String := joinPath root fileName

/-- The path of the last tests that a JSON value gives. -/
def ofJson? (value : Json) : Option String :=
  match value.record? [key] with
  | some [none] => some ""
  | some [some last] => last.string?
  | _ => none

/-- The path of the last tests that a text gives. -/
def ofText? (text : String) : Option String := (Json.parse? text).bind ofJson?

/-- The text that gives a path. -/
def toText (last : String) : String := (Json.ofMembers [(key, .text last)]).print

end StateFile

namespace Site

/-- The path of the last tests of a workspace; empty when there were none. -/
def loadState (site : Site) (root : String) : String :=
  match site.readText (StateFile.pathIn root) with
  | .ok text => (StateFile.ofText? text).getD ""
  | .error _ => ""

/-- The path of the last tests recorded in a workspace. -/
def saveState (site : Site) (root last : String) : Except Failure FileTree :=
  match site.tree.writeText site.cwd (StateFile.pathIn root) (StateFile.toText last) with
  | .ok tree => .ok tree
  | .error e => .error ⟨"Failed to write state to " ++ StateFile.pathIn root, [e.message]⟩

end Site

end TestCursor
