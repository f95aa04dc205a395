import TestCursor.Scope.Line

/-!
# Dotted test paths

A test runner names a test by a dotted path: the module that holds it, its class, its method.
The module path comes from the path of the file below the workspace root, of which a leading
package can be dropped.
-/

namespace TestCursor

/-- A character that separates the parts of a file path, in either spelling. -/
def isSeparator (c : Char) : Bool := c == '/' || c == '\\'

/-- Each run of separators becomes one dot. `inRun` tells that the run was already begun. -/
def dotRuns (inRun : Bool) : List Char → List Char
  | [] => []
  | c :: rest =>
    if isSeparator c then (if inRun then dotRuns true rest else '.' :: dotRuns true rest)
    else c :: dotRuns false rest

/-- A text without the given ending, or as it is when it does not end so. -/
def withoutEnd (ending text : List Char) : List Char :=
  match after? ending.reverse text.reverse with
  | some rest => rest.reverse
  | none => text

def sourceExtension : List Char := ['.', 'p', 'y']

/-- The dotted path of the module in a file, as characters. -/
def dottedChars (path : List Char) : List Char :=
  dotRuns false ((withoutEnd sourceExtension path).dropWhile isSeparator)

/-- The dotted path of the module in a file: one extension and all leading separators are
dropped, and each run of separators is one dot. -/
def dottedPath (path : String) : String := String.ofList (dottedChars path.toList)

/-- What follows the first occurrence of `key`. -/
def afterFirst? (key : List Char) : List Char → Option (List Char)
  | [] => if key.isEmpty then some [] else none
  | c :: rest =>
    match after? key (c :: rest) with
    | some tail => some tail
    | none => afterFirst? key rest

/-- What follows the first occurrence of `key`, or the text as it is. -/
def dropThrough (key text : List Char) : List Char := (afterFirst? key text).getD text

/-- A package name as it stands inside a longer path: with a dot behind it. -/
def packageKey (name : List Char) : List Char :=
  if name.getLast? = some '.' then name else name ++ ['.']

/-- Which leading part of a module path is left out. -/
structure RootRule where
  /-- Leave out the first segment, whatever it is. -/
  dropFirst : Bool
  /-- Leave out everything through the first occurrence of this package, unless it is empty. -/
  package : String
  deriving DecidableEq, Repr

/-- A module path without its leading part. A path in which the rule finds nothing to leave out
stays as it is. -/
def RootRule.apply (rule : RootRule) (path : String) : String :=
  if rule.dropFirst then String.ofList (dropThrough ['.'] path.toList)
  else if rule.package.isEmpty then path
  else String.ofList (dropThrough (packageKey rule.package.toList) path.toList)

/-- What stands between a module and a class. -/
def moduleSeparator (nose : Bool) : String := if nose then ":" else "."

def classPath (nose : Bool) (modulePath className : String) : String :=
  modulePath ++ moduleSeparator nose ++ className

def methodPath (nose : Bool) (modulePath className method : String) : String :=
  classPath nose modulePath className ++ "." ++ method

end TestCursor
