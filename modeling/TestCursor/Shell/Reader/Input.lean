import TestCursor.Shell.Syntax

/-!
# The text that is being read

A script is read character by character. A backslash right before a line break joins two lines,
except between single quotes. An alias puts its text in front of what is left to read.
-/

namespace TestCursor

namespace Shell

/-- Why a text is no script. -/
structure SyntaxError where
  /-- The line on which it is found out. -/
  line : Nat
  /-- How many characters are left then. -/
  left : Nat
  reason : String
  deriving DecidableEq, Repr

structure RawWord where
  parts : Word
  isQuoted : Bool

/-- The text of a word that has only plain parts. -/
def RawWord.plain? (word : RawWord) : Option String :=
  word.parts.foldr
    (fun part text => match part, text with
      | .plain piece, some text => some (piece ++ text)
      | _, _ => none)
    (some "")

/-- The operator of a redirection. -/
inductive Arrow
  | file (access : Access)
  | duplicate
  /-- Leading tabs are taken off the lines of the document or not. -/
  | document (isIndented : Bool)
  deriving DecidableEq, Repr

inductive Token
  | word (word : RawWord)
  | redirection (stream : Nat) (arrow : Arrow)
  /-- An operator or a keyword. -/
  | symbol (text : String)
  | newline
  | finish

def Token.name : Token → String
  | .word _ => "word"
  | .redirection _ _ => "redirection"
  | .symbol text => "\"" ++ text ++ "\""
  | .newline => "newline"
  | .finish => "end of file"

/-- A document that stands below the line that is being read. -/
structure Pending where
  index : Nat
  /-- The line that ends it. -/
  mark : List Char
  isIndented : Bool
  /-- What is in it is expanded. -/
  isExpanded : Bool

/-- An alias whose text is being read. -/
structure ActiveAlias where
  name : String
  /-- How much of the text is behind that of the alias. -/
  remainder : Nat
  /-- The word behind it may be an alias, too. -/
  goesOn : Bool

/-- The text to read, and what is known about it. -/
structure Input where
  rest : List Char
  line : Nat
  /-- A token that was read too early. -/
  pushed : Option Token
  pending : List Pending
  documents : Array Word
  aliases : List (String × String)
  active : List ActiveAlias

def Input.ofText (text : String) (documents : Array Word) (aliases : List (String × String)) :
    Input :=
  ⟨text.toList, 1, none, [], documents, aliases, []⟩

/-- How many characters of the script itself are left. -/
def Input.left (input : Input) : Nat :=
  let length := input.rest.length
  match input.active.getLast? with
  | some entry => min entry.remainder length
  | none => length

abbrev Reading := StateT Input (Except SyntaxError)

namespace Reading

/-- Complain about the text. -/
def complain {α : Type} (reason : String) : Reading α := do
  let input ← get
  throw ⟨input.line, input.left, "Syntax error: " ++ reason⟩

/-- A complaint has at most so many characters. -/
def maxReason : Nat := 63

/-- Complain about a token, and tell what could have stood there. -/
def unexpected {α : Type} (token : Token) (expected : Option String) : Reading α :=
  let reason := token.name ++ " unexpected" ++
    match expected with
    | some name => " (expecting " ++ name ++ ")"
    | none => ""
  complain (String.ofList (reason.toList.take maxReason))

/-- Put the rest of the text in place. -/
def setRest (rest : List Char) : Reading Unit := modify fun input => { input with rest := rest }

/-- The next character, also between single quotes. -/
def takeRaw : Reading (Option Char) := do
  let input ← get
  match input.rest with
  | [] => return none
  | c :: rest =>
    set { input with rest := rest, line := if c = '\n' then input.line + 1 else input.line }
    return some c

/-- A text without the joined line breaks at its beginning, and how many these were. -/
def dropJoints : List Char → List Char × Nat
  | '\\' :: '\n' :: rest => ((dropJoints rest).1, (dropJoints rest).2 + 1)
  | rest => (rest, 0)

/-- The next character, which stays. -/
def peek : Reading (Option Char) := do
  let input ← get
  match input.rest with
  | '\\' :: '\n' :: _ =>
    let (rest, count) := dropJoints input.rest
    set { input with rest := rest, line := input.line + count }
    return rest.head?
  | rest => return rest.head?

/-- The next character. -/
def take : Reading (Option Char) := do
  let _ ← peek
  takeRaw

/-- Take the next character if it is a certain one. -/
def takeIf (c : Char) : Reading Bool := do
  if (← peek) = some c then
    let _ ← takeRaw
    return true
  else return false

/-- The next characters as long as they are of a kind, at most so many. -/
def takeWhileUpTo (isKind : Char → Bool) : Nat → Reading (List Char)
  | 0 => return []
  | bound + 1 => do
    match ← peek with
    | some c =>
      if isKind c then
        let _ ← takeRaw
        return c :: (← takeWhileUpTo isKind bound)
      else return []
    | none => return []

/-- The next characters as long as they are of a kind. -/
def takeWhile (isKind : Char → Bool) : Reading (List Char) := do
  takeWhileUpTo isKind (← get).rest.length

/-- Skip characters up to a line break, which stays. -/
def skipLine : Reading Unit := modify fun input =>
  { input with rest := input.rest.dropWhile (· != '\n') }

/-- Forget the aliases whose text is behind. Whether the next word may be an alias. -/
def leaveAliases : Reading Bool := do
  let input ← get
  match input.active with
  | [] => return false
  | active =>
    let length := input.rest.length
    set { input with active := active.filter fun entry => entry.remainder < length }
    return active.any fun entry => length ≤ entry.remainder && entry.goesOn

def enterAlias (name text : String) : Reading Unit := modify fun input =>
  let goesOn := text.toList.getLast? == some ' ' || text.toList.getLast? == some '\t'
  let entry : ActiveAlias := ⟨name, input.rest.length, goesOn⟩
  { input with rest := text.toList ++ input.rest, active := entry :: input.active }

/-- Put a token back. -/
def push (token : Token) : Reading Unit := modify fun input => { input with pushed := some token }

/-- Room for a document that will be read at the end of the line. -/
def expectDocument (mark : List Char) (isIndented isExpanded : Bool) : Reading Nat := do
  let input ← get
  let index := input.documents.size
  let entry : Pending := ⟨index, mark, isIndented, isExpanded⟩
  set { input with documents := input.documents.push [], pending := input.pending ++ [entry] }
  return index

end Reading

end Shell

end TestCursor
