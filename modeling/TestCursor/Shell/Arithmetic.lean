import TestCursor.Shell.Stream

/-!
# Expressions

The text of an expression is read to a tree, which is evaluated with integers of 64 bits. What a
variable is worth and what assigning to it does is left open.
-/

namespace TestCursor

namespace Shell

/-- An operation on two integers. -/
inductive Operation
  | times | divide | modulo | plus | minus | shiftLeft | shiftRight
  | less | atMost | greater | atLeast | equal | unequal | and | exclusive | or
  deriving DecidableEq, Repr

inductive Expression
  | number (value : Int)
  | variable (name : String)
  | negative (operand : Expression)
  | negation (operand : Expression)
  | complement (operand : Expression)
  | binary (operation : Operation) (left right : Expression)
  | both (left right : Expression)
  | either (left right : Expression)
  | choice (test yes no : Expression)
  /-- An operation with the old value comes before the assignment. -/
  | assign (name : String) (operation : Option Operation) (value : Expression)
  deriving Repr

namespace Expression

/-- An integer brought into the range of 64 bits. -/
def wrap (value : Int) : Int := Int.bmod value 18446744073709551616

def largest : Int := 9223372036854775807

def digitValue (c : Char) : Nat :=
  if c.isDigit then c.toNat - '0'.toNat
  else if 'a' ≤ c && c ≤ 'z' then c.toNat - 'a'.toNat + 10
  else if 'A' ≤ c && c ≤ 'Z' then c.toNat - 'A'.toNat + 10
  else 99

def isDigitOf (base : Nat) (c : Char) : Bool := digitValue c < base

def numberOf (base : Nat) (digits : List Char) : Nat :=
  digits.foldl (fun value c => value * base + digitValue c) 0

/-- The number at the front of a text, as it is spelled in a script, and what follows. A leading
zero means octal, and with an x hexadecimal. Without digits there is no number. -/
def leadingNumber? (text : List Char) : Option (Nat × List Char) :=
  match text with
  | '0' :: x :: c :: rest =>
    if (x = 'x' || x = 'X') && isDigitOf 16 c then
      let digits := (c :: rest).takeWhile (isDigitOf 16)
      some (numberOf 16 digits, (c :: rest).drop digits.length)
    else octal (x :: c :: rest)
  | '0' :: rest => octal rest
  | text =>
    let digits := text.takeWhile Char.isDigit
    if digits.isEmpty then none else some (numberOf 10 digits, text.drop digits.length)
where
  /-- The number behind a zero. -/
  octal (rest : List Char) : Option (Nat × List Char) :=
    let digits := rest.takeWhile (isDigitOf 8)
    some (numberOf 8 digits, rest.drop digits.length)

/-- A character between words. -/
def isSpace (c : Char) : Bool := c == ' ' || ('\t' ≤ c && c ≤ '\r')

/-- The integer at the front of a text, perhaps behind blanks and a sign, and what follows. -/
def leadingInteger? (text : List Char) : Option (Int × List Char) :=
  match text.dropWhile isSpace with
  | '-' :: rest => (leadingNumber? rest).map fun (value, after) => (-(value : Int), after)
  | '+' :: rest => (leadingNumber? rest).map fun (value, after) => ((value : Int), after)
  | rest => (leadingNumber? rest).map fun (value, after) => ((value : Int), after)

/-- The value of a variable as an integer; nothing if the text spells none. -/
def ofText? (text : String) : Option Int :=
  if text.toList.all isSpace then some 0
  else
    match leadingInteger? text.toList with
    | some (value, after) =>
      if after.all isSpace && -largest - 1 ≤ value && value ≤ largest then some value else none
    | none => none

/-- A token of an expression. -/
inductive Lexeme
  | number (value : Int)
  | name (text : String)
  | symbol (text : String)
  deriving DecidableEq, Repr

/-- The symbols, longer ones first. -/
def symbols : List String :=
  ["<<=", ">>=", "==", "!=", "<=", ">=", "&&", "||", "<<", ">>", "+=", "-=", "*=", "/=", "%=",
   "&=", "|=", "^=", "=", "<", ">", "&", "|", "!", "(", ")", "*", "/", "%", "+", "-", "~", "?",
   ":", "^"]

/-- The tokens of an expression. What is no token ends it. -/
def lexemes : Nat → List Char → List Lexeme
  | 0, _ => []
  | _, [] => []
  | fuel + 1, c :: rest =>
    if c = ' ' || c = '\t' || c = '\n' then lexemes fuel rest
    else if c.isDigit then
      match leadingNumber? (c :: rest) with
      | some (value, after) => .number (min (value : Int) largest) :: lexemes fuel after
      | none => [.symbol ""]
    else if startsName c then
      .name (String.ofList (c :: rest.takeWhile isNameChar)) ::
        lexemes fuel (rest.dropWhile isNameChar)
    else
      match symbols.find? fun symbol => symbol.toList.isPrefixOf (c :: rest) with
      | some symbol => .symbol symbol :: lexemes fuel ((c :: rest).drop symbol.length)
      | none => [.symbol ""]

/-- Why tokens are no expression. -/
structure Malformed where
  /-- What is evaluated before that is found out. -/
  begun : Expression
  reason : String
  deriving Repr

/-- Nothing was begun before something was found to be missing. -/
def Malformed.bare (reason : String) : Malformed := ⟨.number 0, reason⟩

/-- What reads an expression from tokens. -/
abbrev Parser := List Lexeme → Except Malformed (Expression × List Lexeme)

/-- The operations by their symbols, those that bind most tightly first. -/
def levels : List (List (String × Operation)) :=
  [[("*", .times), ("/", .divide), ("%", .modulo)],
   [("+", .plus), ("-", .minus)],
   [("<<", .shiftLeft), (">>", .shiftRight)],
   [("<", .less), ("<=", .atMost), (">", .greater), (">=", .atLeast)],
   [("==", .equal), ("!=", .unequal)],
   [("&", .and)], [("^", .exclusive)], [("|", .or)]]

/-- The operations that an assignment can have in front of it. -/
def assignments : List (String × Option Operation) :=
  [("=", none), ("*=", some .times), ("/=", some .divide), ("%=", some .modulo),
   ("+=", some .plus), ("-=", some .minus), ("<<=", some .shiftLeft), (">>=", some .shiftRight),
   ("&=", some .and), ("^=", some .exclusive), ("|=", some .or)]

def operand (whole : Parser) : Parser
  | .number value :: rest => .ok (.number value, rest)
  | .name name :: rest => .ok (.variable name, rest)
  | .symbol "(" :: rest =>
    match whole rest with
    | .ok (inside, .symbol ")" :: after) => .ok (inside, after)
    | .ok (inside, _) => .error ⟨inside, "expecting ')'"⟩
    | .error e => .error e
  | .symbol "+" :: rest => operand whole rest
  | .symbol "-" :: rest => (operand whole rest).map fun (e, after) => (.negative e, after)
  | .symbol "!" :: rest => (operand whole rest).map fun (e, after) => (.negation e, after)
  | .symbol "~" :: rest => (operand whole rest).map fun (e, after) => (.complement e, after)
  | _ => .error (.bare "expecting primary")

/-- How two operands are joined. -/
structure Joint where
  join : Expression → Expression → Expression
  /-- What is evaluated of a left operand and of the beginning of a right one. -/
  begin : Expression → Expression → Expression

/-- Operands that are joined by symbols, from the left. -/
def joined (part : Parser) (joint? : String → Option Joint) : Nat → Expression → Parser
  | 0, left, tokens => .ok (left, tokens)
  | bound + 1, left, .symbol symbol :: rest =>
    match joint? symbol with
    | none => .ok (left, .symbol symbol :: rest)
    | some joint =>
      match part rest with
      | .ok (right, after) => joined part joint? bound (joint.join left right) after
      | .error e => .error { e with begun := joint.begin left e.begun }
  | _, left, tokens => .ok (left, tokens)

/-- Operands of a kind that are joined by symbols, from the left. -/
def chain (part : Parser) (joint? : String → Option Joint) : Parser := fun tokens =>
  match part tokens with
  | .ok (left, rest) => joined part joint? (rest.length + 1) left rest
  | .error e => .error e

/-- Operations on integers. An operation without its right operand is not done. -/
def binaries (whole : Parser) : Parser :=
  levels.foldl
    (fun part level => chain part fun symbol =>
      (level.lookup symbol).map fun operation => ⟨.binary operation, .binary .or⟩)
    (operand whole)

def disjunction (whole : Parser) : Parser :=
  chain (chain (binaries whole) fun symbol => if symbol = "&&" then some ⟨.both, .both⟩ else none)
    fun symbol => if symbol = "||" then some ⟨.either, .either⟩ else none

/-- A choice, or what can be its test. At most so many choices follow one another. -/
def choices (whole : Parser) : Nat → Parser
  | 0, tokens => disjunction whole tokens
  | bound + 1, tokens =>
    match disjunction whole tokens with
    | .ok (test, .symbol "?" :: rest) =>
      match whole rest with
      | .ok (yes, .symbol ":" :: after) =>
        match choices whole bound after with
        | .ok (no, after) => .ok (.choice test yes no, after)
        | .error e => .error { e with begun := .choice test yes e.begun }
      | .ok (yes, _) => .error ⟨.both test yes, "expecting ':'"⟩
      | .error e => .error { e with begun := .both test e.begun }
    | result => result

/-- An expression that is nested at most so deep. -/
def wholeUpTo : Nat → Parser
  | 0, _ => .error (.bare "expecting primary")
  | bound + 1, .name name :: .symbol symbol :: rest =>
    match assignments.lookup symbol with
    | some operation =>
      (wholeUpTo bound rest).map fun (value, after) => (.assign name operation value, after)
    | none => choices (wholeUpTo bound) (rest.length + 2) (.name name :: .symbol symbol :: rest)
  | bound + 1, tokens => choices (wholeUpTo bound) tokens.length tokens

/-- The expression that a text spells, or what is missing in it. -/
def parse (text : String) : Except Malformed Expression :=
  let tokens := lexemes (text.length + 1) text.toList
  match wholeUpTo (tokens.length + 1) tokens with
  | .ok (expression, []) => .ok expression
  | .ok (expression, _) => .error ⟨expression, "expecting EOF"⟩
  | .error e => .error e

/-- The integer for a truth value. -/
def ofBool (value : Bool) : Int := if value then 1 else 0

/-- A bit operation on integers of 64 bits. -/
def bitwise (operation : UInt64 → UInt64 → UInt64) (x y : Int) : Int :=
  wrap ((operation (UInt64.ofInt x) (UInt64.ofInt y)).toNat : Int)

def apply (operation : Operation) (x y : Int) : Int :=
  match operation with
  | .times => wrap (x * y)
  | .divide => wrap (x.tdiv y)
  | .modulo => x.tmod y
  | .plus => wrap (x + y)
  | .minus => wrap (x - y)
  | .shiftLeft => bitwise (fun a b => a <<< (b % 64)) x y
  | .shiftRight => x / (Nat.pow 2 (y % 64).toNat : Nat)
  | .less => ofBool (decide (x < y))
  | .atMost => ofBool (decide (x ≤ y))
  | .greater => ofBool (decide (y < x))
  | .atLeast => ofBool (decide (y ≤ x))
  | .equal => ofBool (x == y)
  | .unequal => ofBool (x != y)
  | .and => bitwise (· &&& ·) x y
  | .exclusive => bitwise (· ^^^ ·) x y
  | .or => bitwise (· ||| ·) x y

/-- The operation has no result for a right operand. -/
def isUndefined (operation : Operation) (y : Int) : Bool :=
  (operation == .divide || operation == .modulo) && y == 0

/-- What an expression needs to know about variables, and what it does when it has no value. -/
structure Scope where
  value : String → Act Int
  assign : String → Int → Act Unit
  divisionByZero : Act Int

def Scope.apply (scope : Scope) (operation : Operation) (x y : Int) : Act Int :=
  if isUndefined operation y then scope.divisionByZero
  else return Expression.apply operation x y

def evaluate (scope : Scope) : Expression → Act Int
  | .number value => return value
  | .variable name => scope.value name
  | .negative operand => return wrap (-(← evaluate scope operand))
  | .negation operand => return ofBool ((← evaluate scope operand) == 0)
  | .complement operand => return -1 - (← evaluate scope operand)
  | .binary operation left right => do
    let x ← evaluate scope left
    let y ← evaluate scope right
    scope.apply operation x y
  | .both left right => do
    if (← evaluate scope left) = 0 then return 0
    else return ofBool ((← evaluate scope right) != 0)
  | .either left right => do
    if (← evaluate scope left) != 0 then return 1
    else return ofBool ((← evaluate scope right) != 0)
  | .choice test yes no => do
    if (← evaluate scope test) != 0 then evaluate scope yes else evaluate scope no
  | .assign name operation value => do
    let right ← evaluate scope value
    let result ← match operation with
      | none => pure right
      | some operation => do scope.apply operation (← scope.value name) right
    scope.assign name result
    return result

end Expression

end Shell

end TestCursor
