import TestCursor.File.Error

/-!
# Failures
-/

namespace TestCursor

/-- Why an operation failed. -/
inductive Error
  /-- Input or output failed for a reason in words. -/
  | io (reason : String)
  /-- A configuration file does not hold a configuration. -/
  | config (reason : String)
  /-- A value could not be brought into its written form or out of it. -/
  | serialization (reason : String)
  /-- A command could not be started. -/
  | command (reason : String)
  /-- Any other failure, in words. -/
  | other (reason : String)
  deriving DecidableEq, Repr

namespace Error

def message : Error → String
  | .io reason => "IO error: " ++ reason
  | .config reason => "Configuration error: " ++ reason
  | .serialization reason => "Serialization error: " ++ reason
  | .command reason => "Command error: " ++ reason
  | .other reason => reason

/-- The failures that led to a failure, in their own words. -/
def causes : Error → List String
  | .io reason => [reason]
  | .serialization reason => [reason]
  | _ => []

/-- The failure of a file operation. -/
def ofFile (error : FileError) : Error := .io error.message

/-- A file does not hold what it should. -/
def malformed (path reason : String) : Error :=
  .config ("Failed to parse " ++ path ++ ": " ++ reason)

end Error

/-- A failure as the command line reports it: what failed, and the chain of causes behind it. -/
structure Failure where
  message : String
  causes : List String
  deriving DecidableEq, Repr

namespace Failure

/-- A failure with no cause behind it. -/
def plain (message : String) : Failure := ⟨message, []⟩

/-- A failure reported in its own words. -/
def ofError (error : Error) : Failure := ⟨error.message, error.causes⟩

/-- A failure put into the context of what was being done. -/
def inContext (context : String) (error : Error) : Failure :=
  ⟨context, error.message :: error.causes⟩

/-- One line per line of a cause, the later ones indented like the first. -/
def indentCause (first later : String) (cause : String) : String :=
  first ++ ("\n" ++ later).intercalate (cause.splitOn "\n")

/-- A cause under its number, which is set to the right in five columns. -/
def numberedCause (number : Nat) (cause : String) : String :=
  let digits := toString number
  indentCause (String.ofList (List.replicate (5 - digits.length) ' ') ++ digits ++ ": ")
    "       " cause

/-- The numbered causes, one after the other. -/
def numberedCauses (number : Nat) : List String → String
  | [] => ""
  | cause :: rest => "\n" ++ numberedCause number cause ++ numberedCauses (number + 1) rest

/-- The report of a failure: its message, and its causes, numbered when there are several. -/
def report (failure : Failure) : String :=
  "Error: " ++ failure.message ++
    (match failure.causes with
      | [] => ""
      | [cause] => "\n\nCaused by:\n" ++ indentCause "    " "    " cause
      | causes => "\n\nCaused by:" ++ numberedCauses 0 causes) ++ "\n"

end Failure

end TestCursor
