import TestCursor.Scope.Line

/-!
# The scope around a cursor

A scope names the test method and the test class that enclose a cursor. It is found by reading
the lines from the cursor upwards: the first test method seen fixes an indentation, and the class
is the first one seen from there that is indented less. When a class is seen before any test
method, the cursor stands in that class and in no method.
-/

namespace TestCursor

/-- The test method and the test class around a cursor. An empty name stands for none. -/
structure Scope where
  method : String
  testClass : String
  deriving DecidableEq, Repr

namespace Scope

/-- The scope outside every method and class. -/
def empty : Scope := ⟨"", ""⟩

/-- A test method was found. -/
def hasMethod (scope : Scope) : Bool := !scope.method.isEmpty

def hasClass (scope : Scope) : Bool := !scope.testClass.isEmpty

/-- Neither was found. -/
def isEmpty (scope : Scope) : Bool := !scope.hasMethod && !scope.hasClass

/-- The scope once a test method with the given indentation was seen, from the lines above it. -/
def above (method : String) (width : Nat) : List String → Scope
  | [] => ⟨method, ""⟩
  | line :: rest =>
    if isCodeless line then above method width rest
    else
      match LineKind.of line with
      | .classDef name =>
        if indentWidth line < width then ⟨method, name⟩ else above method width rest
      | _ => above method width rest

/-- The scope around a cursor, from the lines above it, nearest first. -/
def ofLines : List String → Scope
  | [] => empty
  | line :: rest =>
    if isCodeless line then ofLines rest
    else
      match LineKind.of line with
      | .testDef name => above name (indentWidth line) rest
      | .classDef name => ⟨"", name⟩
      | .other => ofLines rest

end Scope

end TestCursor
