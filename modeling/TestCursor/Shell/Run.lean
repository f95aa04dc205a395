import TestCursor.Cli.Run
import TestCursor.Shell.Evaluate
import TestCursor.Shell.Installation
import TestCursor.Utility.Table

/-!
# Running a line in a shell

A line is run by a shell of its own, whose input is empty and whose output is collected.

The command line takes whatever shell it is given (`Cli.Shell`). The shell of these modules stands
in for the `sh` of a system, so that the program can run lines without one. It follows the POSIX
description of the shell command language; where that leaves a choice, and in its messages and
statuses, it does as `dash` does. It is no part of the theory of the command line, but for
`StartsProgram`, which says that a new shell starts a program with its arguments.
-/

namespace TestCursor

namespace Shell

/-- How deep commands can run inside of one another. -/
def maxDepth : Nat := 20000

/-- What runs the commands of a shell. -/
def runner : Runner := evaluate Utility.find? maxDepth

/-- The number of the process that starts shells. -/
def starterNumber : Nat := 4000

def homeDirectory : String := "/root"

/-- The permissions that new files do not get. -/
def startMask : Nat := 0o022

/-- The variables of a new process. -/
def startBindings (env : Environment) : List (String × Variable) :=
  let given (name : String) (value : Option String) : List (String × Variable) :=
    value.toList.map fun value => (name, ⟨some (Octets.encode value), true, false⟩)
  given "HOME" (some homeDirectory) ++ given "PATH" (some Act.defaultPath) ++
    given "VIRTUAL_ENV" env.virtualEnv ++ given "CONDA_PREFIX" env.condaPrefix

def startProcess (env : Environment) (cwd : Location) : Process where
  number := starterNumber + 1
  parent := starterNumber
  shell := starterNumber + 1
  cwd := cwd
  cwdText := Octets.encode (FileTree.pathOf cwd)
  name := "sh"
  arguments := []
  bindings := startBindings env
  frames := []
  functions := []
  aliases := []
  options := []
  traps := []
  ignored := []
  streams := [(0, 0), (1, 1), (2, 2)]
  status := 0
  outputStatus := 0
  loops := 0
  calls := 0
  line := 1
  scriptLine := 1
  command := none
  jobs := []
  lastJob := none
  programs := []
  limits := []
  mask := startMask
  lost := none
  optionIndex := 1
  optionOffset := none
  savedStatus := none

/-- A machine with one process, whose input is empty and whose output and complaints are
collected. -/
def startMachine (env : Environment) (tree : FileTree) (cwd : Location) : Machine where
  tree := tree
  attributes := { Attributes.start with directoryBits := Installation.directoryBits }
  pipes := #[⟨ByteArray.empty, 0, 0⟩, ⟨ByteArray.empty, 0, 0⟩]
  openings := #[⟨.device .null, 0, false, true, false⟩, ⟨.pipe 0, 0, true, false, true⟩,
    ⟨.pipe 1, 0, true, false, true⟩]
  documents := #[]
  waiting := []
  ended := []
  signals := []
  living := []
  lastNumber := starterNumber + 1
  process := startProcess env cwd

def withStreams (streams : Option FileTree) (tree : FileTree) : FileTree :=
  match streams with
  | some streams => tree.put Installation.streamPlace streams
  | none => tree

/-- Run a line in a directory. Each process of the shell has streams of its own. -/
def runLine (env : Environment) : Cli.Shell := fun tree cwd line =>
  let act := Act.toEnd runner (Act.runShell runner ["sh", "-c", Octets.encode line])
  let outer := tree.get? Installation.streamPlace
  let start := withStreams (outer.map fun _ => Installation.streams) tree
  let (ending, machine) := ((act (startMachine env start cwd)) : Except Interrupt Ending × Machine)
  let written (index : Nat) : String :=
    Octets.lossyText ((machine.pipes[index]?).map Pipe.content |>.getD ByteArray.empty)
  { status := match ending with
      | .ok (.exited status) => .exited (status % 256)
      | .ok (.killed _) | .error _ => .killed
    stdout := written 0
    stderr := written 1
    tree := withStreams outer machine.tree }

end Shell

end TestCursor
