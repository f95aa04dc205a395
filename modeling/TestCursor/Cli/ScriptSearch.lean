import TestCursor.Workspace

/-!
# Searching for the management script

A new configuration names the management script that lies least deep below the root. Hidden
directories and those that hold environments, packages or compiled files are not searched, nor is
anything behind a link.
-/

namespace TestCursor

namespace ScriptSearch

/-- Directories that are not searched. -/
def skippedNames : List String := ["node_modules", "venv", "env", "__pycache__"]

/-- A name that is passed over. -/
def isSkipped (name : String) : Bool :=
  name.toList.head? = some '.' || skippedNames.contains name

/-- How many names the path of a script can have. -/
def maxDepth : Nat := 3

/-- The scripts whose paths below a node have exactly `depth` names, in the order of the names'
bytes. -/
def scriptsAt : Nat → FileTree → List Location
  | 0, _ => []
  | depth + 1, tree =>
    tree.sortedEntries.flatMap fun (name, node) =>
      if isSkipped name then []
      else if depth = 0 then (if node.isFile && name == scriptName then [[name]] else [])
      else (scriptsAt depth node).map (name :: ·)

/-- All scripts below a node, those of the shortest paths first. -/
def scripts (tree : FileTree) : List Location :=
  (List.range maxDepth).flatMap fun depth => scriptsAt (depth + 1) tree

/-- The script of a root: the root itself if it is one, or the first one below it. -/
def find? (name : String) (root : FileTree) : Option Location :=
  if root.isFile && name == scriptName then some [] else (scripts root).head?

end ScriptSearch

end TestCursor
