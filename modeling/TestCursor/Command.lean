/-!
# Command lines

A test command is one line of text for the shell, put together from parts of which any may be
missing.
-/

namespace TestCursor

/-- The parts of a test command, in the order in which they stand on the line. -/
structure CommandParts where
  /-- What the whole command is run by. -/
  runBy : String
  interpreter : String
  /-- The test runner and its subcommand. -/
  program : String
  testPath : String
  /-- Further options. -/
  flags : String
  deriving DecidableEq, Repr

namespace CommandParts

def toList (parts : CommandParts) : List String :=
  [parts.runBy, parts.interpreter, parts.program, parts.testPath, parts.flags]

/-- The line: the parts that are not empty, with one space between neighbours. -/
def line (parts : CommandParts) : String :=
  " ".intercalate (parts.toList.filter fun part => !part.isEmpty)

end CommandParts

structure ProcessCall where
  program : String
  args : List String
  /-- The directory to start in; that of the caller when it is missing. -/
  dir : Option String
  deriving DecidableEq, Repr

/-- The process that hands a whole line to the shell as one argument, so that quotes, pipes and
redirections in it keep their meaning. -/
def shellCall (line : String) (dir : Option String) : ProcessCall :=
  ⟨"sh", ["-c", line], dir⟩

end TestCursor
