import TestCursor.Regex.Basic
import TestCursor.Shell.Pattern

/-!
# Reading regular expressions

There are two ways to write an expression. In the basic one a group and a count stand between
brackets with backslashes, in the extended one without them. A text is first read as lexemes, and
those as an expression.
-/

namespace TestCursor

namespace Regex

/-- How an expression is written and what it means. -/
structure Dialect where
  /-- Groups, alternatives and counts are written without backslashes. -/
  isExtended : Bool
  /-- Capital and small letters are the same. -/
  ignoresCase : Bool := false
  /-- The expression fits lines of the text. -/
  isMultiline : Bool := false
  /-- A backslash with a letter stands for a control character. -/
  knowsControls : Bool := false
  /-- A backslash with the letter `d` stands for a digit. -/
  knowsDigits : Bool := false
  /-- The marks `+` and `?` are written without backslashes. -/
  hasPlainMarks : Bool := isExtended
  /-- There are counts, and kinds of characters in sets. -/
  hasCounts : Bool := true
  /-- A repetition without something to repeat is wrong, and a count that is badly written. -/
  isStrict : Bool := false
  /-- A bracket that closes nothing stands for itself. -/
  allowsCloser : Bool := false
  /-- A range whose end is in front of its beginning has no characters. -/
  allowsEmptyRange : Bool := false

/-- A part of the text of an expression. -/
inductive Lexeme
  | one (accepts : Char → Bool)
  | border (accepts : Option Char → Option Char → Bool)
  | opening
  | closing
  | bar
  /-- A number of repetitions. -/
  | count (low : Nat) (high : Option Nat)
  | again (number : Nat)

/-- What is wrong with an expression. -/
inductive Fault
  | openBracket
  /-- Nothing stands behind the bracket of a set. -/
  | noSet
  | openGroup
  | closedGroup
  | badCount
  | openCount
  | largeCount
  | trailingBackslash
  | badReference
  | badRange
  | badKind
  | nothingToRepeat
  deriving DecidableEq, Repr

def Fault.text : Fault → String
  | .openBracket => "Unmatched [, [^, [:, [., or [="
  | .noSet => "Invalid regular expression"
  | .openGroup => "Unmatched ( or \\("
  | .closedGroup => "Unmatched ) or \\)"
  | .badCount => "Invalid content of \\\x7b\\\x7d"
  | .openCount => "Unmatched \\\x7b"
  | .largeCount => "Regular expression too big"
  | .trailingBackslash => "Trailing backslash"
  | .badReference => "Invalid back reference"
  | .badRange => "Invalid range end"
  | .badKind => "Invalid character class name"
  | .nothingToRepeat => "Invalid preceding regular expression"

/-! ## Lexemes -/

def isWordChar (c : Char) : Bool := c.isAlphanum || c == '_'

/-- A character of a word stands there. -/
def isWordAt : Option Char → Bool
  | some c => isWordChar c
  | none => false

/-- The border that a backslash and a letter stand for. -/
def borderOf? : Char → Option (Option Char → Option Char → Bool)
  | 'b' => some fun before after => isWordAt before != isWordAt after
  | 'B' => some fun before after => isWordAt before == isWordAt after
  | '<' => some fun before after => !isWordAt before && isWordAt after
  | '>' => some fun before after => isWordAt before && !isWordAt after
  | '\x60' => some fun before _ => before.isNone
  | '\'' => some fun _ after => after.isNone
  | _ => none

/-- The kind of characters that a backslash and a letter stand for. -/
def kindOf? (dialect : Dialect) : Char → Option (Char → Bool)
  | 'w' => some isWordChar
  | 'W' => some fun c => !isWordChar c
  | 's' => Shell.kindOf? "space"
  | 'S' => (Shell.kindOf? "space").map fun isSpace c => !isSpace c
  | 'd' => if dialect.knowsDigits then some Char.isDigit else none
  | 'D' => if dialect.knowsDigits then some fun c => !c.isDigit else none
  | _ => none

/-- The control character that a backslash and a letter stand for. -/
def controlOf? : Char → Option Char
  | 'n' => some '\n'
  | 't' => some '\t'
  | 'f' => some '\x0c'
  | 'v' => some '\x0b'
  | 'a' => some '\x07'
  | 'r' => some '\r'
  | _ => none

/-- A character accepts itself and, if case is ignored, its other form. -/
def acceptChar (dialect : Dialect) (c : Char) : Char → Bool :=
  if dialect.ignoresCase then fun d => d.toLower == c.toLower else fun d => d == c

/-- The beginning of the text or of a line. -/
def startBorder (dialect : Dialect) : Lexeme :=
  .border fun before _ => before.isNone || (dialect.isMultiline && before == some '\n')

/-- The end of the text or of a line. -/
def stopBorder (dialect : Dialect) : Lexeme :=
  .border fun _ after => after.isNone || (dialect.isMultiline && after == some '\n')

/-- The items of a set up to its bracket, and what follows it. `isFirst` tells that a bracket would
belong to the set. -/
def setItems (dialect : Dialect) :
    Nat → Bool → List Char → Except Fault (List Shell.SetItem × List Char)
  | 0, _, _ => .error .openBracket
  | _, _, [] => .error .openBracket
  | bound + 1, isFirst, text =>
    let named (mark : Char) (rest : List Char) : Option (String × List Char) :=
      let rec go (name : List Char) : List Char → Option (String × List Char)
        | c :: ']' :: rest =>
          if c = mark then some (String.ofList name.reverse, rest) else go (c :: name) (']' :: rest)
        | c :: rest => go (c :: name) rest
        | [] => none
      go [] rest
    let more (item : Shell.SetItem) (rest : List Char) :
        Except Fault (List Shell.SetItem × List Char) :=
      (setItems dialect bound false rest).map fun (items, rest) => (item :: items, rest)
    let single (text : List Char) : Except Fault (Char × List Char) :=
      match text with
      | '[' :: '.' :: rest =>
        match named '.' rest with
        | some (name, rest) => .ok (name.toList.headD '.', rest)
        | none => .error .openBracket
      | '\\' :: c :: rest =>
        match if dialect.knowsControls then controlOf? c else none with
        | some control => .ok (control, rest)
        | none => .ok ('\\', c :: rest)
      | c :: rest => .ok (c, rest)
      | [] => .error .openBracket
    match isFirst, text with
    | false, ']' :: rest => .ok ([], rest)
    | _, '[' :: ':' :: rest =>
      match named ':' rest with
      | none => .error .openBracket
      | some (name, after) =>
        if !dialect.hasCounts then more (.range '[' '[') (':' :: rest)
        else
          let name := if dialect.ignoresCase && (name == "upper" || name == "lower") then "alpha"
            else name
          match Shell.kindOf? name with
          | some isKind => more (.kind isKind) after
          | none => .error .badKind
    | _, '[' :: '=' :: rest =>
      match named '=' rest with
      | none => .error .openBracket
      | some (name, rest) =>
        let c := name.toList.headD '='
        more (.range c c) rest
    | _, text => do
      let (low, rest) ← single text
      match rest with
      | '-' :: ']' :: rest => more (.range low low) ('-' :: ']' :: rest)
      | '-' :: rest =>
        let (high, rest) ← single rest
        if high < low && !dialect.allowsEmptyRange then .error .badRange
        else more (.range low high) rest
      | rest => more (.range low low) rest

/-- The set behind an opening bracket, and what follows it. -/
def setAt (dialect : Dialect) (text : List Char) : Except Fault (Lexeme × List Char) := do
  let (isInverted, text) := match text with
    | '^' :: rest => (true, rest)
    | rest => (false, rest)
  if text.isEmpty then throw .noSet
  let (items, rest) ← setItems dialect (text.length + 1) true text
  let has (c : Char) : Bool := items.any (Shell.SetItem.contains c)
  let accepts (c : Char) : Bool :=
    if dialect.ignoresCase then has c || has c.toLower || has c.toUpper else has c
  return (.one fun c => accepts c != isInverted, rest)

/-- The largest number of repetitions that can be asked for. -/
def maxCount : Nat := 32767

/-- What ends a part of a count. -/
inductive CountStop
  | finish
  | comma
  | brace
  deriving DecidableEq

/-- A part of a count, what ends it, and what follows. -/
def countPart (dialect : Dialect) : List Char → List Char × CountStop × List Char
  | [] => ([], .finish, [])
  | ',' :: rest => ([], .comma, rest)
  | '\\' :: c :: rest =>
    if c = '\x7d' && !dialect.isExtended then ([], .brace, rest)
    else
      let (part, stop, rest) := countPart dialect rest
      ('\\' :: part, stop, rest)
  | c :: rest =>
    if c = '\x7d' && dialect.isExtended then ([], .brace, rest)
    else
      let (part, stop, rest) := countPart dialect rest
      (c :: part, stop, rest)

def isBadPart (part : List Char) (stop : CountStop) : Bool :=
  stop == .finish || !part.all Char.isDigit

/-- The number of repetitions behind an opening brace, and what follows the closing one. Nothing if
the brace stands for itself. -/
def countAt? (dialect : Dialect) (text : List Char) :
    Except Fault (Option (Lexeme × List Char)) :=
  let number (digits : List Char) : Nat :=
    digits.foldl (fun value c => value * 10 + (c.toNat - '0'.toNat)) 0
  let (low, lowStop, rest) := countPart dialect text
  let (high, highStop, rest) := if lowStop = .comma then countPart dialect rest
    else (low, lowStop, rest)
  if low.isEmpty && lowStop = .brace then .error .badCount
  else if isBadPart low lowStop || isBadPart high highStop then
    if dialect.isExtended && !dialect.isStrict then .ok none
    else .error (if highStop = .finish then .openCount else .badCount)
  else
    let limit := if high.isEmpty then none else some (number high)
    if (limit.map fun limit => decide (limit < number low)).getD false then .error .badCount
    else if highStop != .brace then .error .badCount
    else if maxCount < limit.getD (number low) then .error .largeCount
    else .ok (some (.count (number low) limit, rest))

/-- What a repetition mark means. -/
def countOf? : Char → Option Lexeme
  | '*' => some (.count 0 none)
  | '+' => some (.count 1 none)
  | '?' => some (.count 0 (some 1))
  | _ => none

/-- What follows in a basic expression is the end of it or of a group or an alternative. -/
def isBasicEnd : List Char → Bool
  | [] => true
  | '\\' :: ')' :: _ | '\\' :: '|' :: _ => true
  | _ => false

/-- An expression or a part of it begins behind a lexeme. -/
def isBeginning : Option Lexeme → Bool
  | none | some .opening | some .bar => true
  | _ => false

def isBorder : Option Lexeme → Bool
  | some (.border _) => true
  | _ => false

def isCount : Option Lexeme → Bool
  | some (.count _ _) => true
  | _ => false

/-- The lexemes of a text. `last` is the one in front. -/
def lexemesUpTo (dialect : Dialect) :
    Nat → Option Lexeme → List Char → Except Fault (List Lexeme)
  | 0, _, _ => .ok []
  | _, _, [] => .ok []
  | bound + 1, last, c :: rest =>
    let more (lexeme : Lexeme) (rest : List Char) : Except Fault (List Lexeme) :=
      (lexemesUpTo dialect bound (some lexeme) rest).map (lexeme :: ·)
    let plain (c : Char) (rest : List Char) : Except Fault (List Lexeme) :=
      more (.one (acceptChar dialect c)) rest
    let isStart := isBeginning last
    let isLone := isStart || isBorder last
    let repeat? (lexeme : Lexeme) (rest : List Char) : Except Fault (List Lexeme) :=
      if dialect.isExtended then
        if !(if dialect.isStrict then isLone else isStart) then more lexeme rest
        else if dialect.isStrict then .error .nothingToRepeat
        else lexemesUpTo dialect bound last rest
      else if isLone then plain c rest
      else if dialect.isStrict && isCount last then .error .nothingToRepeat
      else more lexeme rest
    let count (rest : List Char) : Except Fault (List Lexeme) := do
      if isLone && dialect.isStrict then throw .nothingToRepeat
      else if isLone && !dialect.isExtended then plain '\x7b' rest
      else
        match ← countAt? dialect rest with
        | some (lexeme, rest) => repeat? lexeme rest
        | none => plain '\x7b' rest
    if c = '.' then more (.one fun _ => true) rest
    else if c = '[' then do
      let (lexeme, rest) ← setAt dialect rest
      more lexeme rest
    else if c = '*' then repeat? (.count 0 none) rest
    else if (c = '+' || c = '?') && dialect.hasPlainMarks then
      match countOf? c with
      | some lexeme => repeat? lexeme rest
      | none => plain c rest
    else if c = '\\' then
      match rest with
      | [] => .error .trailingBackslash
      | c :: rest =>
        if c.isDigit && c != '0' then more (.again (c.toNat - '0'.toNat)) rest
        else
          let control? := if dialect.knowsControls then controlOf? c else none
          match borderOf? c, kindOf? dialect c, control? with
          | some accepts, _, _ => more (.border accepts) rest
          | _, some kind, _ => more (.one kind) rest
          | _, _, some control => plain control rest
          | none, none, none =>
            if dialect.isExtended then plain c rest
            else
              match c with
              | '(' => more .opening rest
              | ')' => more .closing rest
              | '|' => more .bar rest
              | '\x7b' => if dialect.hasCounts then count rest else plain c rest
              | '+' | '?' =>
                match if dialect.hasPlainMarks then none else countOf? c with
                | some lexeme => if isLone then plain c rest else more lexeme rest
                | none => plain c rest
              | c => plain c rest
    else if dialect.isExtended then
      match c with
      | '(' => more .opening rest
      | ')' => more .closing rest
      | '|' => more .bar rest
      | '^' => more (startBorder dialect) rest
      | '$' => more (stopBorder dialect) rest
      | '\x7b' => if dialect.hasCounts then count rest else plain c rest
      | c => plain c rest
    else
      match c with
      | '^' => if isStart then more (startBorder dialect) rest else plain c rest
      | '$' => if isBasicEnd rest then more (stopBorder dialect) rest else plain c rest
      | c => plain c rest

def lexemes (dialect : Dialect) (text : List Char) : Except Fault (List Lexeme) :=
  lexemesUpTo dialect (text.length + 1) none text

/-! ## Expressions -/

def repeated (low : Nat) (high : Option Nat) (body : Regex) : Regex :=
  match low, high, body with
  | 0, none, .many _ none (.one accepts) => .many 0 none (.one accepts)
  | low, high, body => .many low high body

/-- An expression behind others. -/
def after (first second : Regex) : Regex :=
  match first with
  | .empty => second
  | first => .append first second

/-- How far reading lexemes has come. -/
structure Reading where
  /-- The alternatives that are complete. -/
  whole : Option Regex
  /-- What is complete of the alternative. -/
  done : Regex
  /-- The last part, which can still be repeated. -/
  last : Option Regex
  rest : List Lexeme
  /-- How many groups were opened. -/
  groups : Nat
  /-- The groups that were closed. -/
  closed : List Nat

namespace Reading

/-- The alternative so far. -/
def alternative (reading : Reading) : Regex :=
  match reading.last with
  | some last => after reading.done last
  | none => reading.done

def regex (reading : Reading) : Regex :=
  match reading.whole with
  | some whole => .either whole reading.alternative
  | none => reading.alternative

def push (reading : Reading) (part : Regex) : Reading :=
  { reading with done := reading.alternative, last := some part }

def start (rest : List Lexeme) (groups : Nat) (closed : List Nat) : Reading :=
  ⟨none, .empty, none, rest, groups, closed⟩

end Reading

/-- Read lexemes up to the end or, in a group, up to its bracket. -/
def readUpTo (allowsCloser : Bool) : Nat → Nat → Reading → Except Fault Reading
  | 0, _, reading => .ok reading
  | bound + 1, depth, reading =>
    match reading.rest with
    | [] => if depth = 0 then .ok reading else .error .openGroup
    | lexeme :: rest =>
      let reading := { reading with rest := rest }
      match lexeme with
      | .one accepts => readUpTo allowsCloser bound depth (reading.push (.one accepts))
      | .border accepts => readUpTo allowsCloser bound depth (reading.push (.border accepts))
      | .again number =>
        if reading.closed.contains number then
          readUpTo allowsCloser bound depth (reading.push (.again number))
        else .error .badReference
      | .count low high =>
        match reading.last with
        | some last =>
          readUpTo allowsCloser bound depth { reading with last := some (repeated low high last) }
        | none => readUpTo allowsCloser bound depth reading
      | .bar =>
        readUpTo allowsCloser bound depth
          { reading with whole := some reading.regex, done := .empty, last := none }
      | .opening => do
        let number := reading.groups + 1
        let inside ←
          readUpTo allowsCloser bound (depth + 1) (Reading.start rest number reading.closed)
        readUpTo allowsCloser bound depth
          { reading.push (.group number inside.regex) with
            rest := inside.rest, groups := inside.groups, closed := number :: inside.closed }
      | .closing =>
        if depth != 0 then .ok reading
        else if allowsCloser then
          readUpTo allowsCloser bound depth (reading.push (.one (· == ')')))
        else .error .closedGroup

/-- The expression that a text spells, and how many groups it has. -/
def ofText (dialect : Dialect) (text : List Char) : Except Fault (Regex × Nat) := do
  let lexemes ← lexemes dialect text
  let reading ← readUpTo dialect.allowsCloser (lexemes.length + 1) 0 (Reading.start lexemes 0 [])
  return (reading.regex, reading.groups)

/-- The expression that fits just a text. -/
def ofPlainText (dialect : Dialect) (text : List Char) : Regex :=
  text.foldl (fun regex c => after regex (.one (acceptChar dialect c))) .empty

end Regex

end TestCursor
