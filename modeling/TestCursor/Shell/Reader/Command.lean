import TestCursor.Shell.Reader.Token

/-!
# Reading commands

A script is read one complete line after another, because what a line does can change how the
next one is read. A reader of commands knows the reader of the commands inside of them.
-/

namespace TestCursor

namespace Shell

/-- The commands whose failure ends a shell. -/
def specialNames : List String :=
  [".", ":", "break", "continue", "eval", "exec", "exit", "export", "local", "readonly", "return",
   "set", "shift", "times", "trap", "unset"]

/-- The readers for what is inside of a command. -/
structure Level where
  command : Reading Command
  /-- The script in an output part. -/
  script : Reading (Option Command)
  /-- The bracket behind it. -/
  close : Reading Unit

/-- What a list of commands belongs to. -/
inductive ListKind
  | line
  /-- A compound command, which has at least one. -/
  | body
  /-- An output part or a clause, which may have none. -/
  | script
  deriving DecidableEq, Repr

def listEnds : List String :=
  [")", ";;", "do", "done", "elif", "else", "esac", "fi", "then", "\x7d"]

/-- One command that stands for several. -/
def inSequence : List Command → Option Command
  | [] => none
  | [command] => some command
  | commands => some (.sequence commands)

/-- The last plain text of an assignment, which is the value behind the name. -/
def assignmentWord? (parts : Word) : Option (String × Word) :=
  match parts with
  | .plain text :: rest =>
    (assignment? text).map fun (name, value) =>
      (name, if value.isEmpty then rest else .plain value :: rest)
  | _ => none

namespace Reading

section

variable (level : Level)

def next (expecting : Expecting) : Reading Token := token level.script level.close expecting

/-- The next token must be a certain symbol. -/
def expect (expecting : Expecting) (text : String) : Reading Unit := do
  match ← next level expecting with
  | .symbol found =>
    if found = text then return else unexpected (.symbol found) (some ("\"" ++ text ++ "\""))
  | found => unexpected found (some ("\"" ++ text ++ "\""))

def redirection (stream : Nat) (arrow : Arrow) : Reading Redirection := do
  let context := match arrow with
    | .document _ => Context.mark
    | _ => Context.bare
  let (found, _) ← freshToken level.script level.close context
  match found with
  | .word raw =>
    match arrow with
    | .file access => return .file stream access raw.parts
    | .duplicate => return .duplicate stream raw.parts
    | .document isIndented =>
      return .document stream
        (← expectDocument (partsText raw.parts).toList isIndented !raw.isQuoted)
  | found => unexpected found none

/-- The redirections behind a compound command. -/
def redirectionsUpTo : Nat → Reading (List Redirection)
  | 0 => return []
  | bound + 1 => do
    match ← next level .command with
    | .redirection stream arrow =>
      return (← redirection level stream arrow) :: (← redirectionsUpTo bound)
    | found =>
      push found
      return []

/-- The redirections behind a compound command. -/
def redirections : Reading (List Redirection) := do
  redirectionsUpTo level ((← get).rest.length + 1)

/-- The words and redirections of a simple command so far. -/
structure Simple where
  assignments : List (String × Word)
  words : List RawWord
  redirections : List Redirection

/-- The body of a function, behind its name and the opening bracket. -/
def functionBody (name : RawWord) : Reading Command := do
  expect level .argument ")"
  match name.plain? with
  | some text =>
    if name.isQuoted || !isVariableName text || specialNames.contains text then
      complain "Bad function name"
    else
      let first ← next level .commandBelow
      push first
      return .definition text (← level.command)
  | none => complain "Bad function name"

/-- A simple command, or the definition of a function. -/
def simpleUpTo (line : Nat) : Nat → Simple → Reading Command
  | 0, _ => return .sequence []
  | bound + 1, sofar => do
    let finish (found : Token) : Reading Command := do
      push found
      return .simple line sofar.assignments.reverse (sofar.words.reverse.map RawWord.parts)
        sofar.redirections.reverse
    match ← next level (if sofar.words.isEmpty then .name else .argument) with
    | .word raw =>
      match if sofar.words.isEmpty then assignmentWord? raw.parts else none with
      | some assignment =>
        simpleUpTo line bound { sofar with assignments := assignment :: sofar.assignments }
      | none => simpleUpTo line bound { sofar with words := raw :: sofar.words }
    | .redirection stream arrow =>
      let found ← redirection level stream arrow
      simpleUpTo line bound { sofar with redirections := found :: sofar.redirections }
    | .symbol "(" =>
      match sofar with
      | ⟨[], [name], []⟩ => functionBody level name
      | _ => finish (.symbol "(")
    | found => finish found

/-- Commands joined by bars. -/
def pipedUpTo : Nat → Reading (List Command)
  | 0 => return []
  | bound + 1 => do
    match ← next level .argument with
    | .symbol "|" =>
      let first ← next level .commandBelow
      push first
      let command ← level.command
      return command :: (← pipedUpTo bound)
    | found =>
      push found
      return []

/-- A pipeline, perhaps negated. -/
def pipeline : Reading Command := do
  let first ← next level .argument
  let isNegated := match first with
    | .symbol "!" => true
    | _ => false
  if isNegated then push (← next level .command) else push first
  let command ← level.command
  let more ← pipedUpTo level ((← get).rest.length + 1)
  let command := if more.isEmpty then command else .pipeline (command :: more)
  return if isNegated then .negation command else command

/-- Pipelines of which each runs if the ones before it ended well, or badly. -/
def chainUpTo : Nat → Command → Reading Command
  | 0, first => return first
  | bound + 1, first => do
    let second : Reading Command := do
      let found ← next level .commandBelow
      push found
      pipeline level
    match ← next level .argument with
    | .symbol "&&" => chainUpTo bound (.both first (← second))
    | .symbol "||" => chainUpTo bound (.either first (← second))
    | found =>
      push found
      return first

/-- Pipelines of which each runs if the ones before it ended well, or badly. -/
def chain : Reading Command := do
  let first ← pipeline level
  chainUpTo level ((← get).rest.length + 1) first

def inBackground (line : Nat) (command : Command) : Command :=
  match command with
  | .redirected line command redirections => .background line command redirections
  | command => .background line command []

/-- The commands of a list, and whether the text ends behind it. -/
def listUpTo (kind : ListKind) : Nat → List Command → Reading (Option Command × Bool)
  | 0, commands => return (inSequence commands.reverse, true)
  | bound + 1, commands => do
    let done (isEnd : Bool) : Reading (Option Command × Bool) :=
      return (inSequence commands.reverse, isEnd)
    let first ← next level (if kind = .line then .command else .commandBelow)
    match first with
    | .newline =>
      readDocuments level.script level.close
      done false
    | .finish =>
      readDocuments level.script level.close
      push .finish
      done true
    | first =>
      push first
      let isEnd := match first with
        | .symbol text => listEnds.contains text
        | _ => false
      if isEnd && kind != .line && (kind = .script || !commands.isEmpty) then done false
      else
        let line := (← get).line
        let command ← chain level
        match ← next level .argument with
        | .symbol "&" => listUpTo kind bound (inBackground line command :: commands)
        | .symbol ";" => listUpTo kind bound (command :: commands)
        | .newline =>
          push .newline
          listUpTo kind bound (command :: commands)
        | .finish =>
          readDocuments level.script level.close
          push .finish
          return (inSequence (command :: commands).reverse, true)
        | found =>
          if kind = .line then unexpected found none
          else
            push found
            return (inSequence (command :: commands).reverse, false)

/-- The commands of a list, and whether the text ends behind it. -/
def list (kind : ListKind) : Reading (Option Command × Bool) := do
  listUpTo level kind ((← get).rest.length + 2) []

def body : Reading Command := do
  return ((← list level .body).1).getD (.sequence [])

/-- The branches behind the keyword of a choice. -/
def branches : Nat → Reading Command
  | 0 => return .sequence []
  | bound + 1 => do
    let test ← body level
    expect level .argument "then"
    let yes ← body level
    match ← next level .argument with
    | .symbol "elif" => return .choice test yes (some (← branches bound))
    | .symbol "else" =>
      let no ← body level
      expect level .argument "fi"
      return .choice test yes (some no)
    | .symbol "fi" => return .choice test yes none
    | found => unexpected found (some "\"fi\"")

/-- A loop, behind its keyword. -/
def loop (expected : Bool) : Reading Command := do
  let test ← body level
  expect level .argument "do"
  let inside ← body level
  expect level .argument "done"
  return .loop expected test inside

def iterationWords : Nat → Reading (List Word)
  | 0 => return []
  | bound + 1 => do
    match ← next level .argument with
    | .word raw => return raw.parts :: (← iterationWords bound)
    | .newline | .symbol ";" => return []
    | found => unexpected found none

def allArguments : Word := [.quotes [.parameter true "@" .value]]

/-- An iteration, behind its keyword. -/
def iteration (line : Nat) : Reading Command := do
  let bad {α : Type} : Reading α := complain "Bad for loop variable"
  match ← next level .argument with
  | .word raw =>
    match if raw.isQuoted then none else raw.plain? with
    | some name =>
      if !isVariableName name then bad
      else
        let words ← match ← next level .commandBelow with
          | .symbol "in" => iterationWords level ((← get).rest.length + 1)
          | .symbol ";" => pure [allArguments]
          | found => do
            push found
            pure [allArguments]
        expect level .commandBelow "do"
        let inside ← body level
        expect level .argument "done"
        return .iteration line name words inside
    | none => bad
  | _ => bad

/-- The word of a token that stands where a pattern is expected. -/
def patternOf : Token → Word
  | .word raw => raw.parts
  | .symbol text => literal text
  | _ => []

/-- The patterns of a clause, from its first token up to the bracket. -/
def patterns : Nat → Token → Reading (List Word)
  | 0, _ => return []
  | bound + 1, first => do
    match ← next level .argument with
    | .symbol "|" =>
      let second ← next level .argument
      return patternOf first :: (← patterns bound second)
    | .symbol ")" => return [patternOf first]
    | found => unexpected found (some "\")\"")

def clauses : Nat → Reading (List (List Word × Option Command))
  | 0 => return []
  | bound + 1 => do
    match ← next level .patternBelow with
    | .symbol "esac" => return []
    | found =>
      let first ← match found with
        | .symbol "(" => next level .argument
        | found => pure found
      let fitting ← patterns level ((← get).rest.length + 1) first
      let (inside, _) ← list level .script
      match ← next level .patternBelow with
      | .symbol "esac" => return [(fitting, inside)]
      | .symbol ";;" => return (fitting, inside) :: (← clauses bound)
      | found => unexpected found (some "\";;\"")

/-- A selection, behind its keyword. -/
def selection (line : Nat) : Reading Command := do
  match ← next level .argument with
  | .word raw =>
    expect level .commandBelow "in"
    return .selection line raw.parts (← clauses level ((← get).rest.length + 1))
  | found => unexpected found (some "word")

def withRedirections (line : Nat) (command : Command) : Reading Command := do
  match ← redirections level, command with
  | [], command => return command
  | found, .subshell line inside _ => return .subshell line inside found
  | found, command => return .redirected line command found

def command : Reading Command := do
  let line := (← get).line
  match ← next level .argument with
  | .symbol "if" =>
    withRedirections level line (← branches level ((← get).rest.length + 1))
  | .symbol "while" => withRedirections level line (← loop level true)
  | .symbol "until" => withRedirections level line (← loop level false)
  | .symbol "for" => withRedirections level line (← iteration level line)
  | .symbol "case" => withRedirections level line (← selection level line)
  | .symbol "(" =>
    let inside ← body level
    expect level .argument ")"
    withRedirections level line (.subshell line inside [])
  | .symbol "\x7b" =>
    let inside ← body level
    expect level .argument "\x7d"
    withRedirections level line inside
  | .word raw =>
    push (.word raw)
    simpleUpTo level line ((← get).rest.length + 2) ⟨[], [], []⟩
  | .redirection stream arrow =>
    push (.redirection stream arrow)
    simpleUpTo level line ((← get).rest.length + 2) ⟨[], [], []⟩
  | found => unexpected found none

/-- The bracket behind a script. -/
def close : Reading Unit := expect level .argument ")"

end

/-- The readers for commands that are nested at most so deep. -/
def levelOf : Nat → Level
  | 0 => ⟨complain "nested too deep", complain "nested too deep", complain "nested too deep"⟩
  | depth + 1 =>
    let below := levelOf depth
    ⟨command below, (list below .script).map Prod.fst, close below⟩

end Reading

/-- How deep commands can be nested. -/
def maxNesting : Nat := 300

structure Line where
  /-- Nothing for a line without commands. -/
  command : Option Command
  /-- The text ends with the line. -/
  isLast : Bool

/-- The next line of a script, or nothing at the end of the text. -/
def readLine (input : Input) : Except SyntaxError (Option Line × Input) := do
  let level := Reading.levelOf maxNesting
  let start := { input with pushed := none, pending := [] }
  let ((command, isLast), rest) ← (Reading.list level .line).run start
  return (if isLast && command.isNone then none else some ⟨command, isLast⟩, rest)

/-- The word that a text is if it is expanded as the line of a document. -/
def readText (text : String) : Except SyntaxError Word := do
  let level := Reading.levelOf maxNesting
  return (← (Reading.word level.script level.close .document).run (Input.ofText text #[] [])).1

end Shell

end TestCursor
