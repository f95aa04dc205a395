import TestCursor.Shell.Reader.Input

/-!
# Reading words

What a character means depends on what stands around it: quotes, braces, the brackets of an
expression, or a document. How a script between brackets is read is left open here, because
scripts are made of words.
-/

namespace TestCursor

namespace Shell

/-- Where in a word the reader is. -/
inductive Context
  /-- Outside of everything. -/
  | bare
  /-- In the line that will end a document, where nothing is expanded. -/
  | mark
  /-- Between braces and outside of quotes. -/
  | braces
  /-- Between double quotes. -/
  | quotes
  /-- Between braces that are themselves between quotes. Quotes inside hide the closing brace. -/
  | quotedBraces (inDocument isHidden : Bool)
  /-- In a line of a document. -/
  | document
  /-- In an expression, between so many brackets. -/
  | expression (depth : Nat)
  deriving DecidableEq, Repr

def endsWord (c : Char) : Bool := " \t\n;&|()<>".toList.contains c

/-- A character that means itself in each context. -/
def isOrdinary (c : Char) : Bool := c.isAlphanum || "_./-,:=+@%^~".toList.contains c

namespace Context

/-- What is expanded in the context is not cut into fields. -/
def isQuoted : Context → Bool
  | .bare | .mark | .braces => false
  | _ => true

def text (context : Context) (text : List Char) : Part :=
  if context.isQuoted then .escaped (String.ofList text) else .plain (String.ofList text)

/-- A backslash takes the meaning of a character. -/
def unescapes (context : Context) (c : Char) : Bool :=
  match context with
  | .bare | .mark | .braces => true
  | .document => c == '\\' || c == '\x60' || c == '$'
  | .quotedBraces _ _ => "\\\x60$\"\x7d".toList.contains c
  | .quotes | .expression _ => "\\\x60$\"".toList.contains c

/-- The context between the braces of a parameter. -/
def inBraces : Context → Context
  | .bare | .mark | .braces => .braces
  | .document => .quotedBraces true false
  | .quotedBraces inDocument _ => .quotedBraces inDocument false
  | .quotes | .expression _ => .quotedBraces false false

/-- The complaint about a text that ends in the context, if it must not. -/
def complaint? : Context → Option String
  | .bare | .mark | .document => none
  | .braces | .quotedBraces true _ => some "Missing '\x7d'"
  | .quotes | .quotedBraces false _ => some "Unterminated quoted string"
  | .expression _ => some "Missing '))'"

end Context

namespace Reading

/-- The text up to a single quote, which is taken. -/
def singleQuoted : Reading (List Char) := do
  go (← get).rest.length
where
  /-- At most `bound` characters of the text. -/
  go : Nat → Reading (List Char)
    | 0 => complain "Unterminated quoted string"
    | bound + 1 => do
      match ← takeRaw with
      | none => complain "Unterminated quoted string"
      | some '\'' => return []
      | some c => return c :: (← go bound)

/-- The text up to a backquote, which is taken. -/
def backquoted (isQuoted : Bool) : Reading (List Char) := do
  go ((← get).rest.length + 1)
where
  /-- At most `bound` characters of the text. -/
  go : Nat → Reading (List Char)
    | 0 => complain "EOF in backquote substitution"
    | bound + 1 => do
      match ← take with
      | none => complain "EOF in backquote substitution"
      | some '\x60' => return []
      | some '\\' =>
        match ← takeRaw with
        | none => complain "EOF in backquote substitution"
        | some c =>
          let kept := c != '\\' && c != '\x60' && c != '$' && !(isQuoted && c == '"')
          let rest ← go bound
          return if kept then '\\' :: c :: rest else c :: rest
      | some c => return c :: (← go bound)

/-- Read a text of its own with a reader. Its lines are counted from the first one. -/
def within {α : Type} (text : List Char) (reader : Reading α) : Reading α := do
  let outer ← get
  set { outer with rest := text, line := 1, pushed := none, pending := [], active := [] }
  let result ← try reader catch e => throw { e with left := outer.left }
  modify fun input =>
    { outer with
      documents := input.documents }
  return result

/-- The script between brackets that were opened. The documents of its last line must be inside
of the brackets, too. -/
def bracketed (script : Reading (Option Command)) (close : Reading Unit) :
    Reading (Option Command) := do
  let outer ← get
  set { outer with pending := [] }
  let result ← script
  close
  modify fun input => { input with pending := outer.pending }
  return result

/-- The name of a parameter between braces, and whether its length is asked for. Nothing if there
is no such name. -/
def parameterName : Reading (Option (String × Bool)) := do
  match ← peek with
  | none => return none
  | some c =>
    if c = '#' then
      let _ ← take
      match ← peek with
      | none => return some ("#", false)
      | some d =>
        if isNameChar d then return (← plainName).map fun name => (name, true)
        else if d = '\x7d' then return some ("#", false)
        else
          let before ← get
          let _ ← take
          if (← peek) = some '\x7d' then
            if isSpecialParameter d then return some (String.ofList [d], true) else return none
          else
            set before
            return some ("#", false)
    else if isNameChar c then return (← plainName)|>.map fun name => (name, false)
    else if c = '\x7d' then return none
    else
      let _ ← take
      return if isSpecialParameter c then some (String.ofList [c], false) else none
where
  /-- A name of letters, or a number. -/
  plainName : Reading (Option String) := do
    match ← peek with
    | some c =>
      if c.isDigit then return some (String.ofList (← takeWhile Char.isDigit))
      else return some (String.ofList (← takeWhile isNameChar))
    | none => return none

/-- The characters behind the name of a parameter that tell what it is asked for: the form that
its word completes, and whether the word is a pattern. Nothing for a form without a word. -/
def parameterForm : Reading (Option ((Word → Form) × Bool)) := do
  let alsoEmpty ← takeIf ':'
  match ← take with
  | some '\x7d' => return if alsoEmpty then some (fun _ => .value, false) else none
  | some '-' => return some (.orElse alsoEmpty, false)
  | some '+' => return some (.instead alsoEmpty, false)
  | some '?' => return some (.orFail alsoEmpty, false)
  | some '=' => return some (.orAssign alsoEmpty, false)
  | some '%' =>
    if alsoEmpty then return some (fun _ => .malformed, false)
    else
      let longest ← takeIf '%'
      return some (.withoutEnd longest, true)
  | some '#' =>
    if alsoEmpty then return some (fun _ => .malformed, false)
    else
      let longest ← takeIf '#'
      return some (.withoutStart longest, true)
  | _ => return some (fun _ => .malformed, false)

/-- How the text inside of brackets, braces and quotes is read. -/
structure Inside where
  /-- A script between brackets. -/
  script : Reading (Option Command)
  /-- The bracket that closes a script. -/
  close : Reading Unit
  /-- The parts up to the end of a context. -/
  parts : Context → Reading (List Part)

/-- A parameter between braces, behind the opening one. -/
def braced (inside : Inside) (context : Context) : Reading Part := do
  match ← parameterName with
  | none =>
    let _ ← inside.parts context.inBraces
    return .parameter context.isQuoted "" .malformed
  | some (name, true) =>
    let isEnd := (← peek) = some '\x7d'
    let _ ← inside.parts context.inBraces
    return .parameter context.isQuoted name (if isEnd then .length else .malformed)
  | some (name, false) =>
    match ← parameterForm with
    | none => return .parameter context.isQuoted name .value
    | some (form, isPattern) =>
      let word ← inside.parts (if isPattern then .braces else context.inBraces)
      return .parameter context.isQuoted name (form word)

/-- What a dollar sign begins. -/
def dollar (inside : Inside) (context : Context) : Reading Part := do
  match ← peek with
  | some '(' =>
    let _ ← take
    if ← takeIf '(' then
      return .arithmetic context.isQuoted (← inside.parts (.expression 0))
    else return .output context.isQuoted (← bracketed inside.script inside.close)
  | some '\x7b' =>
    let _ ← take
    braced inside context
  | some c =>
    if startsName c then
      return .parameter context.isQuoted (String.ofList (← takeWhile isNameChar)) .value
    else if isSpecialParameter c then
      let _ ← take
      return .parameter context.isQuoted (String.ofList [c]) .value
    else return context.text ['$']
  | none => return context.text ['$']

/-- A character outside of double quotes that may open quotes. -/
def opening (inside : Inside) (context : Context) (c : Char) : Reading Part := do
  let _ ← take
  if c = '\'' then return .quotes [.escaped (String.ofList (← singleQuoted))]
  else if c = '"' then return .quotes (← inside.parts .quotes)
  else return context.text [c]

/-- What one step of reading a word gives. -/
inductive Progress
  /-- The context ends. -/
  | done
  /-- A part, and the context behind it. -/
  | part (part : Part) (next : Context)
  /-- No part, but another context. -/
  | turn (next : Context)

/-- A character that is special in its context only. -/
def special (inside : Inside) (context : Context) (c : Char) : Reading Progress := do
  match context with
  | .bare | .mark =>
    if endsWord c then return .done else return .part (← opening inside context c) context
  | .braces =>
    if c = '\x7d' then
      let _ ← take
      return .done
    else return .part (← opening inside context c) context
  | .quotes =>
    let _ ← take
    return if c = '"' then .done else .part (context.text [c]) context
  | .quotedBraces inDocument isHidden =>
    let _ ← take
    return if c = '"' then .turn (.quotedBraces inDocument !isHidden)
      else if c = '\x7d' && !isHidden then .done
      else .part (context.text [c]) context
  | .document =>
    if c = '\n' then return .done
    else
      let _ ← take
      return .part (context.text [c]) context
  | .expression depth =>
    let _ ← take
    if c = '(' then return .part (.escaped "(") (.expression (depth + 1))
    else if c = ')' then
      match depth with
      | depth + 1 => return .part (.escaped ")") (.expression depth)
      | 0 => return if ← takeIf ')' then .done else .part (.escaped ")") context
    else return .part (context.text [c]) context

def step (inside : Inside) (context : Context) : Reading Progress := do
  match ← peek with
  | none =>
    match context.complaint? with
    | some reason => complain reason
    | none => return .done
  | some c =>
    if isOrdinary c then return .part (context.text (← takeWhile isOrdinary)) context
    else if c = '\\' then
      let _ ← take
      match ← takeRaw with
      | none => return .part (.escaped "\\") context
      | some d =>
        let text := if context.unescapes d then [d] else ['\\', d]
        return .part (.escaped (String.ofList text)) context
    else if c = '\x60' && context != .mark then
      let _ ← take
      let text ← backquoted context.isQuoted
      return .part (.output context.isQuoted (← within text inside.script)) context
    else if c = '$' && context != .mark then
      let _ ← take
      return .part (← dollar inside context) context
    else special inside context c

/-- The parts of a word up to the end of a context. -/
def partsUpTo (script : Reading (Option Command)) (close : Reading Unit) :
    Nat → Context → Reading (List Part)
  | 0, _ => return []
  | fuel + 1, context => do
    match ← step ⟨script, close, partsUpTo script close fuel⟩ context with
    | .done => return []
    | .turn next => partsUpTo script close fuel next
    | .part part next => return part :: (← partsUpTo script close fuel next)

def word (script : Reading (Option Command)) (close : Reading Unit) (context : Context) :
    Reading Word := do
  partsUpTo script close (2 * (← get).rest.length + 2) context

end Reading

end Shell

end TestCursor
