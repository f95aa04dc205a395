import TestCursor.Json.Printer
import TestCursor.Source
import TestCursor.Target

/-!
# What can be run from a cursor

A target is resolved to a test path. Resolving takes what it finds, even when the method or the
class is missing; an analysis lists only the runs for which all parts were found.
-/

namespace TestCursor

/-- A target resolved to a test path. -/
structure Resolution where
  target : Target
  scope : Scope
  modulePath : String
  testPath : String
  deriving DecidableEq, Repr

/-- A run that is possible from a cursor. -/
structure PlannedRun where
  target : Target
  testPath : String
  command : String
  deriving DecidableEq, Repr

/-- What can be run from a cursor, the most specific first. -/
structure Analysis where
  relativePath : String
  scope : Scope
  modulePath : String
  runs : List PlannedRun
  deriving DecidableEq, Repr

/-- The test path of a target in a module. The suite has none. -/
def Target.testPath (nose : Bool) (modulePath : String) (scope : Scope) : Target → String
  | .method => methodPath nose modulePath scope.testClass scope.method
  | .testClass => classPath nose modulePath scope.testClass
  | .file => modulePath
  | .app => ""

/-- All parts of a target's path were found. -/
def Scope.admits (scope : Scope) : Target → Bool
  | .method => scope.hasMethod && scope.hasClass
  | .testClass => scope.hasClass
  | .file | .app => true

/-- The module path of a file, without its leading part. -/
def Config.modulePath (config : Config) (relativePath : String) : String :=
  config.rootRule.apply (dottedPath relativePath)

namespace Settings

def modulePathOf (settings : Settings) (source : Source) : Except Error String :=
  match source.relativePath with
  | .ok path => .ok (settings.config.modulePath path)
  | .error e => .error e

/-- The scope that a target needs: that around the cursor, or none, for which the lines are not
asked. -/
def scopeFor (target : Target) (source : Source) : Except Error Scope :=
  if target.needsScope then
    match source.lines with
    | .ok lines => .ok (Scope.ofLines lines)
    | .error e => .error e
  else .ok Scope.empty

def resolve (settings : Settings) (target : Target) (source : Source) :
    Except Error Resolution :=
  match settings.modulePathOf source with
  | .error e => .error e
  | .ok modulePath =>
    match scopeFor target source with
    | .error e => .error e
    | .ok scope =>
      .ok ⟨target, scope, modulePath,
        target.testPath settings.config.djangoNose modulePath scope⟩

def plan (settings : Settings) (modulePath : String) (scope : Scope) (target : Target) :
    PlannedRun :=
  let path := target.testPath settings.config.djangoNose modulePath scope
  ⟨target, path, settings.commandFor path⟩

/-- What can be run from the cursor of a source. -/
def analyze (settings : Settings) (source : Source) : Except Error Analysis :=
  match source.relativePath with
  | .error e => .error e
  | .ok relativePath =>
    match source.lines with
    | .error e => .error e
    | .ok lines =>
      let modulePath := settings.config.modulePath relativePath
      let scope := Scope.ofLines lines
      .ok ⟨relativePath, scope, modulePath,
        (Target.all.filter scope.admits).map (settings.plan modulePath scope)⟩

end Settings

namespace Analysis

def runFor (analysis : Analysis) (target : Target) : Option PlannedRun :=
  analysis.runs.find? fun run => run.target = target

end Analysis

def Scope.toJson (scope : Scope) : Json :=
  Json.ofMembers [("method_name", .text scope.method), ("class_name", .text scope.testClass)]

/-- The scope that a JSON value gives. Both names have to be there. -/
def Scope.ofJson? (value : Json) : Option Scope :=
  match value.record? ["method_name", "class_name"] with
  | some [some method, some testClass] =>
    match method.string?, testClass.string? with
    | some method, some testClass => some ⟨method, testClass⟩
    | _, _ => none
  | _ => none

/-- The target that a JSON value gives: its word, or an object with that word as its only key and
nothing for a value. -/
def Target.ofJson? : Json → Option Target
  | .string (some word) => ofWord? word
  | .object [(some word, .null)] => ofWord? word
  | _ => none

def PlannedRun.toJson (run : PlannedRun) : Json :=
  Json.ofMembers
    [("target", .text run.target.word), ("test_path", .text run.testPath),
     ("command", .text run.command)]

def Analysis.toJson (analysis : Analysis) : Json :=
  Json.ofMembers
    [("relative_path", .text analysis.relativePath), ("scope", analysis.scope.toJson),
     ("module_path", .text analysis.modulePath),
     ("runs", .array (analysis.runs.map PlannedRun.toJson))]

end TestCursor
