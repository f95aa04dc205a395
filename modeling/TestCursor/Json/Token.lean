import TestCursor.Scope.Line

/-!
# Tokens of JSON text

A JSON text is a sequence of tokens with insignificant blanks between them. Strings are decoded
here; a string whose escapes leave half of a surrogate pair is a token without a text.
-/

namespace TestCursor

namespace Json

/-- A token of JSON text. -/
inductive Token
  | arrayOpen
  | arrayClose
  | objectOpen
  | objectClose
  | comma
  | colon
  | null
  | bool (value : Bool)
  /-- A number, as it is spelled. -/
  | number (spelling : String)
  /-- A string. There is no text when an escape stands for half of a surrogate pair. -/
  | string (text : Option String)
  deriving DecidableEq, Repr

/-- The blanks between tokens. -/
def isBlank (c : Char) : Bool := c == ' ' || c == '\t' || c == '\n' || c == '\r'

/-- The value of a hexadecimal digit. -/
def hexDigit? (c : Char) : Option Nat :=
  if '0' ≤ c ∧ c ≤ '9' then some (c.toNat - 48)
  else if 'a' ≤ c ∧ c ≤ 'f' then some (c.toNat - 87)
  else if 'A' ≤ c ∧ c ≤ 'F' then some (c.toNat - 55)
  else none

/-- The number that digits spell, the most significant first. -/
def hexNumber? (digits : List Char) : Option Nat :=
  digits.foldlM (fun value c => (hexDigit? c).map fun digit => 16 * value + digit) 0

/-- The character that a short escape stands for. -/
def shortEscape? : Char → Option Char
  | '"' => some '"'
  | '\\' => some '\\'
  | '/' => some '/'
  | 'b' => some '\x08'
  | 'f' => some '\x0c'
  | 'n' => some '\n'
  | 'r' => some '\r'
  | 't' => some '\t'
  | _ => none

/-- The codes of a string up to its closing quote, and what follows. An escape with four digits
gives the number it spells, every other character its code point. -/
def stringCodes : List Char → Option (List Nat × List Char)
  | [] => none
  | '"' :: rest => some ([], rest)
  | '\\' :: 'u' :: a :: b :: c :: d :: rest =>
    match hexNumber? [a, b, c, d], stringCodes rest with
    | some code, some (codes, after) => some (code :: codes, after)
    | _, _ => none
  | '\\' :: e :: rest =>
    match shortEscape? e, stringCodes rest with
    | some c, some (codes, after) => some (c.toNat :: codes, after)
    | _, _ => none
  | c :: rest =>
    if c.toNat < 32 || c == '\\' then none
    else
      match stringCodes rest with
      | some (codes, after) => some (c.toNat :: codes, after)
      | none => none

/-- The first half of a surrogate pair. -/
def isHighHalf (code : Nat) : Bool := 0xD800 ≤ code && code ≤ 0xDBFF

/-- The second half of a surrogate pair. -/
def isLowHalf (code : Nat) : Bool := 0xDC00 ≤ code && code ≤ 0xDFFF

/-- The characters that codes stand for. Two halves of a pair stand for one character; a half
alone stands for none. -/
def charsOfCodes? : List Nat → Option (List Char)
  | [] => some []
  | [code] =>
    if isHighHalf code || isLowHalf code then none else some [Char.ofNat code]
  | code :: next :: rest =>
    if isHighHalf code && isLowHalf next then
      (charsOfCodes? rest).map
        (Char.ofNat (0x10000 + (code - 0xD800) * 0x400 + (next - 0xDC00)) :: ·)
    else if isHighHalf code || isLowHalf code then none
    else (charsOfCodes? (next :: rest)).map (Char.ofNat code :: ·)

/-- The digits in front of a text, at least one, and what follows. -/
def digits? (text : List Char) : Option (List Char × List Char) :=
  let digits := text.takeWhile Char.isDigit
  if digits.isEmpty then none else some (digits, text.dropWhile Char.isDigit)

/-- The whole part of a number: `0`, or digits that do not begin with `0`. -/
def wholePart? : List Char → Option (List Char × List Char)
  | '0' :: rest => some (['0'], rest)
  | text => digits? text

/-- The fraction behind a whole part, if there is one. -/
def fraction? : List Char → Option (List Char × List Char)
  | '.' :: rest => (digits? rest).map fun (digits, after) => ('.' :: digits, after)
  | text => some ([], text)

def exponentSign : List Char → List Char × List Char
  | '+' :: rest => (['+'], rest)
  | '-' :: rest => (['-'], rest)
  | text => ([], text)

/-- The exponent behind a number, if there is one. -/
def exponent? : List Char → Option (List Char × List Char)
  | [] => some ([], [])
  | c :: rest =>
    if c == 'e' || c == 'E' then
      let (sign, rest) := exponentSign rest
      (digits? rest).map fun (digits, after) => (c :: sign ++ digits, after)
    else some ([], c :: rest)

/-- The number without its sign in front of a text, as it is spelled, and what follows. -/
def unsigned? (text : List Char) : Option (List Char × List Char) :=
  match wholePart? text with
  | none => none
  | some (whole, rest) =>
    match fraction? rest with
    | none => none
    | some (fraction, rest) =>
      (exponent? rest).map fun (exponent, rest) => (whole ++ fraction ++ exponent, rest)

/-- The number in front of a text, as it is spelled, and what follows. -/
def number? : List Char → Option (List Char × List Char)
  | '-' :: rest => (unsigned? rest).map fun (spelling, after) => ('-' :: spelling, after)
  | text => unsigned? text

def wordToken? (text : List Char) : Option (Token × List Char) :=
  match after? "null".toList text with
  | some rest => some (.null, rest)
  | none =>
    match after? "true".toList text with
    | some rest => some (.bool true, rest)
    | none => (after? "false".toList text).map fun rest => (.bool false, rest)

/-- The token that a text begins with, and what follows. -/
def token? : List Char → Option (Token × List Char)
  | '[' :: rest => some (.arrayOpen, rest)
  | ']' :: rest => some (.arrayClose, rest)
  | '{' :: rest => some (.objectOpen, rest)
  | '}' :: rest => some (.objectClose, rest)
  | ',' :: rest => some (.comma, rest)
  | ':' :: rest => some (.colon, rest)
  | '"' :: rest =>
    (stringCodes rest).map fun (codes, after) =>
      (.string ((charsOfCodes? codes).map String.ofList), after)
  | text =>
    match wordToken? text with
    | some found => some found
    | none => (number? text).map fun (spelling, after) => (.number (String.ofList spelling), after)

end Json

end TestCursor
