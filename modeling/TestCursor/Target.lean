/-!
# Targets of a test run

How much of the suite one run covers.
-/

namespace TestCursor

/-- How much of the suite a run covers. -/
inductive Target
  /-- The test method around the cursor. -/
  | method
  /-- The test class around the cursor. -/
  | testClass
  /-- Every test of the file. -/
  | file
  /-- The whole suite. -/
  | app
  deriving DecidableEq, Repr

namespace Target

/-- All targets, from the most specific to the widest. -/
def all : List Target := [.method, .testClass, .file, .app]

/-- The word for a target, in commands and in data. -/
def word : Target → String
  | .method => "method"
  | .testClass => "class"
  | .file => "file"
  | .app => "app"

def ofWord? (word : String) : Option Target := all.find? fun target => target.word == word

/-- What a run of the target covers, for people. -/
def describe : Target → String
  | .method => "Test method"
  | .testClass => "Test class"
  | .file => "Test module"
  | .app => "Whole suite"

/-- The target is found only by reading the lines above the cursor. -/
def needsScope : Target → Bool
  | .method | .testClass => true
  | .file | .app => false

@[simp] theorem ofWord?_word (target : Target) : ofWord? target.word = some target := by
  cases target <;> decide

end Target

end TestCursor
