import TestCursor.Toml.Text

/-!
# Numbers of TOML

Integers fit in 64 bits with a sign. The value of a float does not matter, but one that would be
rounded to positive infinity is no float.
-/

namespace TestCursor

namespace Toml

/-- The sign in front of a text, if there is one. -/
def sign : List Char → List Char × List Char
  | '+' :: rest => (['+'], rest)
  | '-' :: rest => (['-'], rest)
  | text => ([], text)

/-- Digits that go on after a first one, with single underscores between digits. The underscores
are left out. -/
def moreDigits (isDigit : Char → Bool) : List Char → List Char × List Char
  | '_' :: c :: rest =>
    if isDigit c then
      let (digits, after) := moreDigits isDigit rest
      (c :: digits, after)
    else ([], '_' :: c :: rest)
  | c :: rest =>
    if isDigit c then
      let (digits, after) := moreDigits isDigit rest
      (c :: digits, after)
    else ([], c :: rest)
  | [] => ([], [])

/-- Digits in front of a text, at least one, with single underscores between digits. -/
def digits? (isDigit : Char → Bool) : List Char → Option (List Char × List Char)
  | c :: rest =>
    if isDigit c then
      let (digits, after) := moreDigits isDigit rest
      some (c :: digits, after)
    else none
  | [] => none

/-- The whole part of a decimal number: `0`, or digits that do not begin with `0`. -/
def wholeDigits? : List Char → Option (List Char × List Char)
  | '0' :: rest => some (['0'], rest)
  | text => digits? Char.isDigit text

/-- The number that decimal digits spell. -/
def decimal (digits : List Char) : Nat :=
  digits.foldl (fun value c => 10 * value + (c.toNat - 48)) 0

/-- The value of a digit in any base up to 16. -/
def digitValue (c : Char) : Nat := (Json.hexDigit? c).getD 0

def numberInBase (base : Nat) (digits : List Char) : Nat :=
  digits.foldl (fun value c => base * value + digitValue c) 0

/-- An integer within the 64 bits that hold it. -/
def checkedInteger? (value : Int) : Option Int :=
  if Int64.minValue.toInt ≤ value ∧ value ≤ Int64.maxValue.toInt then some value else none

/-- The integer that digits after a base mark spell. -/
def integerInBase? (base : Nat) (isDigit : Char → Bool) (text : List Char) :
    Option (Int × List Char) :=
  match digits? isDigit text with
  | none => none
  | some (digits, rest) =>
    (checkedInteger? (numberInBase base digits)).map fun value => (value, rest)

/-- The integer that a text begins with. -/
def integer? : List Char → Option (Int × List Char)
  | '0' :: 'x' :: rest => integerInBase? 16 (fun c => (Json.hexDigit? c).isSome) rest
  | '0' :: 'o' :: rest => integerInBase? 8 (fun c => '0' ≤ c && c ≤ '7') rest
  | '0' :: 'b' :: rest => integerInBase? 2 (fun c => c == '0' || c == '1') rest
  | text =>
    let (sign, rest) := sign text
    match wholeDigits? rest with
    | none => none
    | some (digits, rest) =>
      let value : Int := decimal digits
      (checkedInteger? (if sign = ['-'] then -value else value)).map fun value => (value, rest)

/-- The exponent in front of a text. -/
def exponent? : List Char → Option (Int × List Char)
  | c :: rest =>
    if c == 'e' || c == 'E' then
      let (sign, rest) := sign rest
      match digits? Char.isDigit rest with
      | none => none
      | some (digits, rest) =>
        let value : Int := decimal digits
        some (if sign = ['-'] then -value else value, rest)
    else none
  | [] => none

/-- The least positive number that is rounded to infinity: halfway between the largest finite
number of 53 binary digits and the next power of two. -/
def overflow : Nat := Nat.pow 2 1024 - Nat.pow 2 970

/-- How many decimal digits the overflow bound has. -/
def overflowDigits : Nat := 309

/-- The number that `digits` and a power of ten spell is rounded to infinity. Far from the bound
the number of digits decides. -/
def overflows (digits : List Char) (exponent : Int) : Bool :=
  let digits := digits.dropWhile (· == '0')
  let size : Int := digits.length + exponent
  if digits.isEmpty || size < overflowDigits then false
  else if overflowDigits < size then true
  else if exponent < 0 then overflow * Nat.pow 10 exponent.natAbs ≤ decimal digits
  else overflow ≤ decimal digits * Nat.pow 10 exponent.natAbs

/-- The fraction in front of a text. -/
def fraction? : List Char → Option (List Char × List Char)
  | '.' :: rest => digits? Char.isDigit rest
  | _ => none

/-- What follows the number with a fraction or an exponent that a text begins with. -/
def finiteFloat? (text : List Char) : Option (List Char) :=
  let (sign, rest) := sign text
  match wholeDigits? rest with
  | none => none
  | some (whole, rest) =>
    let (fraction, rest, isFraction) := match fraction? rest with
      | some (fraction, rest) => (fraction, rest, true)
      | none => ([], rest, false)
    let (exponent, rest, isExponent) := match exponent? rest with
      | some (exponent, rest) => (exponent, rest, true)
      | none => (0, rest, false)
    if !isFraction && !isExponent then none
    else if sign != ['-'] && overflows (whole ++ fraction) (exponent - fraction.length) then none
    else some rest

/-- What follows the infinity or the missing number that a text begins with. -/
def specialFloat? (text : List Char) : Option (List Char) :=
  let rest := (sign text).2
  match after? ['i', 'n', 'f'] rest with
  | some rest => some rest
  | none => after? ['n', 'a', 'n'] rest

end Toml

end TestCursor
