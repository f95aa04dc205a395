/-!
# Scripts

What a script is made of: words, whose parts are expanded when a command runs, redirections and
commands. Each text is a text of bytes. The constructors follow the grammar in the POSIX description
of the shell command language.
-/

namespace TestCursor

namespace Shell

/-- How a redirection opens its file. -/
inductive Access
  | read
  | write
  /-- Write even over a file that is to be kept. -/
  | force
  | append
  | readWrite
  deriving DecidableEq, Repr, Inhabited

mutual

inductive Part
  /-- Text outside of quotes. -/
  | plain (text : String)
  /-- Text that stands for itself. -/
  | escaped (text : String)
  /-- What stands between quotes, which make a field even of nothing. -/
  | quotes (parts : List Part)
  | parameter (inQuotes : Bool) (name : String) (form : Form)
  | output (inQuotes : Bool) (script : Option Command)
  | arithmetic (inQuotes : Bool) (expression : List Part)

/-- What a parameter is asked for. -/
inductive Form
  | value
  | length
  /-- The word in place of a missing value. -/
  | orElse (alsoEmpty : Bool) (word : List Part)
  /-- The word in place of a missing value, and assigned to the parameter. -/
  | orAssign (alsoEmpty : Bool) (word : List Part)
  /-- The word is a complaint about a missing value. -/
  | orFail (alsoEmpty : Bool) (word : List Part)
  /-- The word in place of a value that is there. -/
  | instead (alsoEmpty : Bool) (word : List Part)
  /-- The value without what the pattern fits at its beginning. -/
  | withoutStart (longest : Bool) (pattern : List Part)
  /-- The value without what the pattern fits at its end. -/
  | withoutEnd (longest : Bool) (pattern : List Part)
  /-- Not a form that there is. -/
  | malformed

/-- What is done to a stream of a command. -/
inductive Redirection
  | file (stream : Nat) (access : Access) (path : List Part)
  /-- The stream becomes the one that the word names, or is closed. -/
  | duplicate (stream : Nat) (source : List Part)
  /-- The stream reads the document of that number. -/
  | document (stream : Nat) (index : Nat)

/-- A command. Those whose failures name a line know it. -/
inductive Command
  | simple (line : Nat) (assignments : List (String × List Part)) (words : List (List Part))
      (redirections : List Redirection)
  | pipeline (commands : List Command)
  | negation (command : Command)
  | both (first second : Command)
  | either (first second : Command)
  | sequence (commands : List Command)
  | background (line : Nat) (command : Command) (redirections : List Redirection)
  | subshell (line : Nat) (command : Command) (redirections : List Redirection)
  | redirected (line : Nat) (command : Command) (redirections : List Redirection)
  | choice (test yes : Command) (no : Option Command)
  /-- The body runs as long as the test ends as expected. -/
  | loop (expected : Bool) (test body : Command)
  | iteration (line : Nat) (name : String) (words : List (List Part)) (body : Command)
  | selection (line : Nat) (subject : List Part)
      (clauses : List (List (List Part) × Option Command))
  | definition (name : String) (body : Command)

end

/-- A word is expanded to fields. -/
abbrev Word := List Part

def literal (text : String) : Word := [.escaped text]

instance : Inhabited Part := ⟨.plain ""⟩

instance : Inhabited Command := ⟨.sequence []⟩

/-- A character that can begin the name of a variable. -/
def startsName (c : Char) : Bool := c.isAlpha || c == '_'

/-- A character of the name of a variable. -/
def isNameChar (c : Char) : Bool := c.isAlphanum || c == '_'

def isVariableName (name : String) : Bool :=
  match name.toList with
  | [] => false
  | c :: rest => startsName c && rest.all isNameChar

/-- A parameter with a name of one character that is no letter. -/
def isSpecialParameter (c : Char) : Bool := c.isDigit || "!#$*-?@".toList.contains c

/-- The name and the value of a text that assigns one. -/
def assignment? (text : String) : Option (String × String) :=
  let name := text.toList.takeWhile (· != '=')
  if isVariableName (String.ofList name) && name.length < text.length then
    some (String.ofList name, String.ofList (text.toList.drop (name.length + 1)))
  else none

end Shell

end TestCursor
