import TestCursor.File.Resolve
import TestCursor.Interpreter
import TestCursor.Shell.Attribute
import TestCursor.Shell.Octets
import TestCursor.Shell.Signal
import TestCursor.Shell.Syntax

/-!
# The state of a shell

What all processes share are the files and what is opened; each process has its own variables,
streams and directory. A subshell is a process that starts as a copy of another one. Processes do
not run at the same time: a process waits while those that it started run. This order is one of
those in which the processes of a system can run.
-/

namespace TestCursor

namespace Shell

/-- Where the bytes of a stream come from or go. -/
inductive Channel
  | pipe (index : Nat)
  | file (place : Location)
  | directory (place : Location)
  | device (kind : Device)
  deriving DecidableEq, Repr, Inhabited

/-- Bytes on their way from one process to another. -/
structure Pipe where
  content : ByteArray
  /-- How many bytes were taken out. -/
  taken : Nat
  /-- How often something was written to it. -/
  writes : Nat
  deriving Inhabited

/-- Something that was opened. Streams that were duplicated share it. -/
structure Opening where
  channel : Channel
  offset : Nat
  appends : Bool
  reads : Bool
  writes : Bool
  deriving Inhabited

inductive Ending
  | exited (status : Nat)
  | killed (signal : Nat)
  deriving DecidableEq, Repr, Inhabited

def Ending.status : Ending → Nat
  | .exited status => status
  | .killed signal => 128 + signal

/-- A variable of a shell. Without a value it only has its marks. -/
structure Variable where
  value : Option String
  isExported : Bool
  isReadonly : Bool
  deriving Repr, Inhabited

/-- Why an operation of the system failed. -/
inductive Reason
  | notFound
  | exists
  | notDirectory
  | isDirectory
  | notEmpty
  | denied
  | notPermitted
  | invalid
  | tooManyLinks
  | nameTooLong
  | noSpace
  | badStream
  | noDevice
  | noProcess
  | busy
  deriving DecidableEq, Repr

namespace Reason

/-- A failure in words. -/
def text : Reason → String
  | .notFound => "No such file or directory"
  | .exists => "File exists"
  | .notDirectory => "Not a directory"
  | .isDirectory => "Is a directory"
  | .notEmpty => "Directory not empty"
  | .denied => "Permission denied"
  | .notPermitted => "Operation not permitted"
  | .invalid => "Invalid argument"
  | .tooManyLinks => "Too many levels of symbolic links"
  | .nameTooLong => "File name too long"
  | .noSpace => "No space left on device"
  | .badStream => "Bad file descriptor"
  | .noDevice => "No such device or address"
  | .noProcess => "No such process"
  | .busy => "Device or resource busy"

/-- The failure of a file operation. -/
def ofFile : FileError → Reason
  | .notFound | .nulInPath | .notText => .notFound
  | .notDirectory => .notDirectory
  | .isDirectory => .isDirectory
  | .tooManyLinks => .tooManyLinks
  | .nameTooLong => .nameTooLong
  | .noSpace => .noSpace

end Reason

/-- What a function that is run has put aside. -/
structure Frame where
  /-- The variables with what they were, if they were anything. -/
  hidden : List (String × Option Variable)
  /-- The letters of the options that were on. -/
  options : Option (List Char)

/-- A process in the background, as its shell knows it. -/
structure Job where
  /-- The number of the job, which it has from the shell. -/
  slot : Nat
  process : Nat
  /-- How many commands its pipeline has. -/
  members : Nat
  /-- The shell has noticed that it ended. -/
  isNoticed : Bool
  /-- The script has waited for it. -/
  isAwaited : Bool
  deriving Repr

/-- A program that the shell has looked up. -/
structure KnownProgram where
  name : String
  path : String
  /-- Which directory of the search path has it. -/
  index : Nat
  /-- The shell has changed its directory since. -/
  isStale : Bool
  deriving Repr

/-- A limit of a process, which it can lower or raise up to another one; nothing stands for no
limit. -/
structure Limit where
  soft : Option Nat
  hard : Option Nat
  deriving Repr

structure Process where
  number : Nat
  parent : Nat
  /-- The number of the shell that the process is a part of. -/
  shell : Nat
  cwd : Location
  /-- The path of the directory as the shell went there. -/
  cwdText : String
  /-- The name of the program, or of the script of a shell. -/
  name : String
  arguments : List String
  bindings : List (String × Variable)
  /-- What the functions being run have put aside. -/
  frames : List Frame
  functions : List (String × Command)
  aliases : List (String × String)
  /-- The letters of the options that are on. -/
  options : List Char
  /-- What is done about a signal. -/
  traps : List (Nat × String)
  /-- The signals that are ignored whatever is to be done about them. -/
  ignored : List Nat
  /-- The opening behind each stream. -/
  streams : List (Nat × Nat)
  /-- The status of the last command. -/
  status : Nat
  /-- The status of the last script whose output was expanded in the command. -/
  outputStatus : Nat
  /-- How many loops the command is in. -/
  loops : Nat
  /-- How many functions the command is in. -/
  calls : Nat
  line : Nat
  /-- The line up to which the script was read. -/
  scriptLine : Nat
  /-- The command that complains. -/
  command : Option String
  /-- The processes in the background, the oldest first. -/
  jobs : List Job
  lastJob : Option Nat
  /-- The programs that were looked up, the oldest first. -/
  programs : List KnownProgram
  /-- The limits by their letters. -/
  limits : List (Char × Limit)
  mask : Nat
  /-- Why some output of the program could not be written. -/
  lost : Option Reason
  /-- The number of the next argument that can hold options. -/
  optionIndex : Nat
  /-- The next option letter in the argument before it, if that groups several. -/
  optionOffset : Option Nat
  /-- The status that the shell had when its traps began to run. -/
  savedStatus : Option Nat

/-- The state of a machine on which processes run. -/
structure Machine where
  tree : FileTree
  attributes : Attributes
  pipes : Array Pipe
  openings : Array Opening
  documents : Array Word
  /-- Processes that were put in the background and did not run yet. -/
  waiting : List (Nat × Process × Command)
  ended : List (Nat × Ending)
  /-- Signals on their way to processes. -/
  signals : List (Nat × Nat)
  /-- The processes that wait for the one that runs. -/
  living : List Nat
  lastNumber : Nat
  process : Process

/-- What keeps a command from going on to the next one. -/
inductive Interrupt
  /-- So many loops end. -/
  | leaveLoops (count : Nat)
  /-- So many loops but one end, and that one goes on with its next round. -/
  | nextRound (count : Nat)
  /-- The function or the file ends. -/
  | leaveFunction
  /-- A failure that was reported. -/
  | failed
  | exited
  | killed (signal : Nat)
  deriving DecidableEq, Repr

abbrev Act := ExceptT Interrupt (StateM Machine)

namespace Act

def process : Act Process := return (← get).process

def modifyProcess (change : Process → Process) : Act Unit :=
  modify fun machine => { machine with process := change machine.process }

/-- The status of the last command. -/
def status : Act Nat := return (← process).status

/-- Set the status of the last command. -/
def setStatus (status : Nat) : Act Unit := modifyProcess fun p => { p with status := status }

/-- Change what is known about the files. -/
def modifyAttributes (change : Attributes → Attributes) : Act Unit :=
  modify fun machine => { machine with attributes := change machine.attributes }

def hasOption (letter : Char) : Act Bool := return (← process).options.contains letter

/-- Do something whatever ends an action. -/
def andAlways {α : Type} (act : Act α) (last : Act Unit) : Act α := do
  let result ← try act catch interrupt => do
    last
    throw interrupt
  last
  return result

end Act

def Process.valueOf? (process : Process) (name : String) : Option String :=
  (process.bindings.lookup name).bind Variable.value

/-- The characters that separate fields if nothing else is said. -/
def defaultSeparators : String := " \t\n"

/-- The characters that separate fields. -/
def Process.separators (process : Process) : String :=
  (process.valueOf? "IFS").getD defaultSeparators

/-- What a command sees of the variables. -/
def Process.environment (process : Process) : List (String × String) :=
  process.bindings.filterMap fun (name, slot) =>
    if slot.isExported then slot.value.map fun value => (name, value) else none

end Shell

end TestCursor
