import TestCursor.Shell.Reader.Word

/-!
# Reading tokens

Words, operators and redirections. Whether a word can be a keyword or an alias depends on where it
stands, and so does whether line breaks count. The documents of a line are read at its end. The
rules are those for token recognition in the POSIX description of the shell command language.
-/

namespace TestCursor

namespace Shell

/-- What the next token can be. -/
structure Expecting where
  /-- Line breaks in front of it do not count. -/
  skipsBreaks : Bool
  keywords : Bool
  aliases : Bool

namespace Expecting

def argument : Expecting := ⟨false, false, false⟩

/-- The first word of a command. -/
def command : Expecting := ⟨false, true, true⟩

/-- The first word of a command, perhaps on another line. -/
def commandBelow : Expecting := ⟨true, true, true⟩

/-- A word that may be an alias. -/
def name : Expecting := ⟨false, false, true⟩

/-- A pattern, or the keyword behind the last one. -/
def patternBelow : Expecting := ⟨true, true, false⟩

end Expecting

/-- The words with a meaning of their own where a command can begin. -/
def keywords : List String :=
  ["!", "case", "do", "done", "elif", "else", "esac", "fi", "for", "if", "in", "then", "until",
   "while", "\x7b", "\x7d"]

/-- What a text stands for in place of the words it may have been quoted in. -/
def partsText : List Part → String
  | [] => ""
  | .plain text :: rest | .escaped text :: rest => text ++ partsText rest
  | .quotes inside :: rest => partsText inside ++ partsText rest
  | _ :: rest => partsText rest

def hasQuotes (parts : List Part) : Bool :=
  parts.any fun part => match part with
    | .escaped _ | .quotes _ => true
    | _ => false

namespace Reading

/-- The operator of a redirection, whose first character was taken. -/
def arrow (isInput : Bool) : Reading Arrow := do
  if isInput then
    if ← takeIf '<' then return .document (← takeIf '-')
    else if ← takeIf '&' then return .duplicate
    else if ← takeIf '>' then return .file .readWrite
    else return .file .read
  else
    if ← takeIf '>' then return .file .append
    else if ← takeIf '|' then return .file .force
    else if ← takeIf '&' then return .duplicate
    else return .file .write

/-- A word, or the redirection that a number can begin. -/
def wordToken (script : Reading (Option Command)) (close : Reading Unit) (context : Context) :
    Reading Token := do
  let parts ← word script close context
  let raw : RawWord := ⟨parts, hasQuotes parts⟩
  let stream? := match parts with
    | [] => some none
    | [.plain text] =>
      match text.toList with
      | [c] => if c.isDigit then some (some (c.toNat - '0'.toNat)) else none
      | _ => none
    | _ => none
  match ← peek, stream? with
  | some '<', some stream =>
    let _ ← take
    return .redirection (stream.getD 0) (← arrow true)
  | some '>', some stream =>
    let _ ← take
    return .redirection (stream.getD 1) (← arrow false)
  | _, _ => return .word raw

def skipBlanks : Nat → Reading Unit
  | 0 => return
  | bound + 1 => do
    match ← peek with
    | some ' ' | some '\t' =>
      let _ ← take
      skipBlanks bound
    | some '#' =>
      skipLine
      skipBlanks bound
    | _ => return

/-- The next token, and whether it stands behind an alias that lets it be one. -/
def freshToken (script : Reading (Option Command)) (close : Reading Unit) (context : Context) :
    Reading (Token × Bool) := do
  skipBlanks ((← get).rest.length + 1)
  let mayBeAlias ← leaveAliases
  let symbol (text : String) : Reading (Token × Bool) := return (.symbol text, mayBeAlias)
  let double (c : Char) (one two : String) : Reading (Token × Bool) := do
    let _ ← take
    if ← takeIf c then symbol two else symbol one
  match ← peek with
  | none => return (.finish, mayBeAlias)
  | some '\n' =>
    let _ ← take
    return (.newline, mayBeAlias)
  | some '&' => double '&' "&" "&&"
  | some '|' => double '|' "|" "||"
  | some ';' => double ';' ";" ";;"
  | some '(' =>
    let _ ← take
    symbol "("
  | some ')' =>
    let _ ← take
    symbol ")"
  | _ => return (← wordToken script close context, mayBeAlias)

/-- The next line, if it ends a document; it is taken then. -/
def takeMark (pending : Pending) : Reading Bool := do
  let input ← get
  let line := input.rest.takeWhile (· != '\n')
  let line := if pending.isIndented then line.dropWhile (· == '\t') else line
  if line = pending.mark then
    skipLine
    let _ ← takeRaw
    return true
  else return false

def documentLines (script : Reading (Option Command)) (close : Reading Unit)
    (pending : Pending) : Nat → Reading Word
  | 0 => return []
  | bound + 1 => do
    if pending.isIndented then
      setRest ((← get).rest.dropWhile (· == '\t'))
    if (← get).rest.isEmpty then return []
    else if ← takeMark pending then return []
    else if pending.isExpanded then
      let line ← word script close .document
      let isBroken := (← takeRaw).isSome
      return line ++ (if isBroken then [.escaped "\n"] else []) ++
        (← documentLines script close pending bound)
    else
      let line := (← get).rest.takeWhile (· != '\n')
      skipLine
      let isBroken := (← takeRaw).isSome
      return .escaped (String.ofList (if isBroken then line ++ ['\n'] else line)) ::
        (← documentLines script close pending bound)

/-- Read the documents that stand below a line. -/
def readDocuments (script : Reading (Option Command)) (close : Reading Unit) : Reading Unit := do
  let pending := (← get).pending
  modify fun input => { input with pending := [] }
  pending.forM fun entry => do
    let body ← documentLines script close entry ((← get).rest.length + 1)
    modify fun input => { input with documents := input.documents.setIfInBounds entry.index body }

/-- The token that a word is where keywords and aliases are expected; nothing when the word was
an alias. -/
def classify (expecting : Expecting) (token : Token) : Reading (Option Token) := do
  match token with
  | .word raw =>
    match if raw.isQuoted then none else raw.plain? with
    | none => return some token
    | some text =>
      if expecting.keywords && keywords.contains text then return some (.symbol text)
      else if expecting.aliases then
        let input ← get
        match input.aliases.lookup text with
        | some value =>
          if input.active.any fun entry => entry.name == text then return some token
          else
            enterAlias text value
            return none
        | none => return some token
      else return some token
  | _ => return some token

/-- The next token that is expected. -/
def tokenUpTo (script : Reading (Option Command)) (close : Reading Unit) :
    Nat → Expecting → Reading Token
  | 0, _ => return .finish
  | bound + 1, expecting => do
    let input ← get
    let (token, mayBeAlias) ← match input.pushed with
      | some token => do
        set { input with pushed := none }
        pure (token, false)
      | none => freshToken script close .bare
    match token with
    | .newline =>
      if expecting.skipsBreaks then
        readDocuments script close
        tokenUpTo script close bound expecting
      else return token
    | _ =>
      match ← classify { expecting with aliases := expecting.aliases || mayBeAlias } token with
      | some token => return token
      | none => tokenUpTo script close bound expecting

def token (script : Reading (Option Command)) (close : Reading Unit) (expecting : Expecting) :
    Reading Token := do
  tokenUpTo script close (2 * (← get).rest.length + 20 * ((← get).aliases.length + 1)) expecting

end Reading

end Shell

end TestCursor
