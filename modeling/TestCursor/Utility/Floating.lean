import TestCursor.Shell.Arithmetic

/-!
# Numbers with a fraction

A number of double precision is taken apart to an integer and a power of two, so that its digits
are exact. It is written with a fixed number of digits behind the point, or with an exponent.
-/

namespace TestCursor

namespace Floating

/-- The largest exponent of a number that is finite. -/
def biasedLimit : Nat := 2047

/-- A number is the sign, and an integer times a power of two. Nothing for one that is not
finite. -/
def parts? (value : Float) : Option (Bool × Nat × Int) :=
  let bits := value.toBits.toNat
  let isNegative := bits / Nat.pow 2 63 % 2 == 1
  let exponent := bits / Nat.pow 2 52 % 2048
  let fraction := bits % Nat.pow 2 52
  if exponent = biasedLimit then none
  else if exponent = 0 then some (isNegative, fraction, -1074)
  else some (isNegative, fraction + Nat.pow 2 52, (exponent : Int) - 1075)

/-- A quotient rounded to the nearest integer, and to an even one in the middle. -/
def roundedQuotient (numerator denominator : Nat) : Nat :=
  let quotient := numerator / denominator
  let remainder := numerator % denominator
  if denominator < 2 * remainder || (2 * remainder == denominator && quotient % 2 == 1) then
    quotient + 1
  else quotient

/-- An integer times a power of two and a power of ten, rounded to an integer. -/
def scaled (mantissa : Nat) (binary decimal : Int) : Nat :=
  roundedQuotient
    (mantissa * Nat.pow 2 binary.toNat * Nat.pow 10 decimal.toNat)
    (Nat.pow 2 (-binary).toNat * Nat.pow 10 (-decimal).toNat)

def digits (value : Nat) : List Char := (toString value).toList

/-- Zeros in front of digits up to a width. -/
def padded (width : Nat) (digits : List Char) : List Char :=
  List.replicate (width - digits.length) '0' ++ digits

def fractionPart (keepsPoint : Bool) (digits : List Char) : List Char :=
  if digits.isEmpty then (if keepsPoint then ['.'] else []) else '.' :: digits

/-- A number with so many digits behind the point. -/
def fixed (mantissa : Nat) (binary : Int) (precision : Nat) (keepsPoint : Bool) : List Char :=
  let all := padded (precision + 1) (digits (scaled mantissa binary precision))
  let whole := all.take (all.length - precision)
  whole ++ fractionPart keepsPoint (all.drop whole.length)

/-- The power of ten of the first digit of a number, estimated from below and corrected. -/
def decimalExponent (mantissa : Nat) (binary : Int) : Int :=
  if mantissa = 0 then 0
  else
    let top : Int := (Nat.log2 mantissa : Int) + binary
    let guess : Int := top * 30103 / 100000 - 1
    let isAtLeast (exponent : Int) : Bool :=
      Nat.pow 10 exponent.toNat * Nat.pow 2 (-binary).toNat ≤
        mantissa * Nat.pow 2 binary.toNat * Nat.pow 10 (-exponent).toNat
    if isAtLeast (guess + 3) then guess + 3
    else if isAtLeast (guess + 2) then guess + 2
    else if isAtLeast (guess + 1) then guess + 1
    else guess

/-- The digits of a number with an exponent: so many behind the first one, and the exponent. -/
def scientificParts (mantissa : Nat) (binary : Int) (precision : Nat) : List Char × Int :=
  let exponent := decimalExponent mantissa binary
  let all := digits (scaled mantissa binary ((precision : Int) - exponent))
  if precision + 1 < all.length then (all.take (precision + 1), exponent + 1)
  else (padded (precision + 1) all, exponent)

/-- An exponent with its sign and at least two digits. -/
def exponentText (letter : Char) (exponent : Int) : List Char :=
  letter :: (if exponent < 0 then '-' else '+') :: padded 2 (digits exponent.natAbs)

/-- A number with an exponent. -/
def scientific (mantissa : Nat) (binary : Int) (precision : Nat) (keepsPoint : Bool)
    (letter : Char) : List Char :=
  let (all, exponent) := scientificParts mantissa binary precision
  all.take 1 ++ fractionPart keepsPoint (all.drop 1) ++ exponentText letter exponent

/-- A text with a point and without the zeros at its end. -/
def dropZeros (text : List Char) : List Char :=
  if text.contains '.' then
    let text := (text.reverse.dropWhile (· == '0')).reverse
    if text.getLast? = some '.' then text.dropLast else text
  else text

/-- A number with so many digits in all, with or without an exponent. -/
def general (mantissa : Nat) (binary : Int) (precision : Nat) (keepsZeros : Bool)
    (letter : Char) : List Char :=
  let precision := max precision 1
  let (all, exponent) := scientificParts mantissa binary (precision - 1)
  if -4 ≤ exponent && exponent < precision then
    let text := fixed mantissa binary ((precision : Int) - 1 - exponent).toNat keepsZeros
    if keepsZeros then text else dropZeros text
  else
    let text := all.take 1 ++ fractionPart keepsZeros (all.drop 1)
    (if keepsZeros then text else dropZeros text) ++ exponentText letter exponent

/-- How many digits of base 16 a number has behind the point. -/
def hexadecimalPlaces : Nat := 13

/-- A number in base 16 with an exponent of base 2, and so many digits behind the point. -/
def hexadecimal (mantissa : Nat) (binary : Int) (precision : Option Nat) (keepsPoint : Bool) :
    List Char :=
  let places := precision.getD hexadecimalPlaces
  let rounded := roundedQuotient (mantissa * Nat.pow 16 places) (Nat.pow 16 hexadecimalPlaces)
  let behind := padded places (Nat.toDigits 16 (rounded % Nat.pow 16 places))
  let behind := if places = 0 then [] else behind
  let shown := if precision.isSome then behind
    else (behind.reverse.dropWhile (· == '0')).reverse
  let exponent : Int := if mantissa = 0 then 0 else binary + 4 * hexadecimalPlaces
  digits (rounded / Nat.pow 16 places) ++ fractionPart keepsPoint shown ++
    'p' :: (if exponent < 0 then '-' else '+') :: digits exponent.natAbs

/-- A number in the form of a conversion, without its sign; and whether it is negative. -/
def format (value : Float) (conversion : Char) (precision : Option Nat) (isAlternative : Bool) :
    Bool × List Char :=
  match parts? value with
  | none =>
    let text := if value.isNaN then "nan" else "inf"
    (!value.isNaN && value < 0,
      if conversion.isUpper then text.toList.map Char.toUpper else text.toList)
  | some (isNegative, mantissa, binary) =>
    let places := precision.getD 6
    (isNegative,
      match conversion with
      | 'a' => hexadecimal mantissa binary precision isAlternative
      | 'A' => (hexadecimal mantissa binary precision isAlternative).map Char.toUpper
      | 'f' | 'F' => fixed mantissa binary places isAlternative
      | 'e' => scientific mantissa binary places isAlternative 'e'
      | 'E' => scientific mantissa binary places isAlternative 'E'
      | 'G' => general mantissa binary places isAlternative 'E'
      | _ => general mantissa binary places isAlternative 'e')

/-- A number that a text begins with. -/
structure Reading where
  value : Float
  /-- The number is too large, or too near to zero, to be more than roughly right. -/
  isOutOfRange : Bool
  /-- What follows the number. -/
  rest : List Char

/-- The exponent at the front of a text behind one of two letters, and what follows it. -/
def exponentOf (small large : Char) (text : List Char) : Int × List Char :=
  match text with
  | letter :: rest =>
    if letter = small || letter = large then
      let (sign, more) : Int × List Char := match rest with
        | '-' :: more => (-1, more)
        | '+' :: more => (1, more)
        | more => (1, more)
      let power := more.takeWhile Char.isDigit
      if power.isEmpty then (0, text)
      else (sign * (min (Shell.Expression.numberOf 10 power) 9999 : Nat), more.drop power.length)
    else (0, text)
  | [] => (0, [])

/-- The digits of a number in front of the point and behind it, and what follows them. -/
def digitsOf (base : Nat) (text : List Char) : List Char × List Char × List Char :=
  let isDigit := Shell.Expression.isDigitOf base
  let whole := text.takeWhile isDigit
  match text.drop whole.length with
  | '.' :: more => (whole, more.takeWhile isDigit, more.dropWhile isDigit)
  | rest => (whole, [], rest)

/-- A number is an integer times a power of ten only roughly. -/
def isRough (value : Float) (mantissa : Nat) (exponent : Int) : Bool :=
  match parts? value with
  | none => true
  | some (_, found, binary) =>
    found < Nat.pow 2 52 && binary < 0 &&
      found * Nat.pow 10 (-exponent).toNat !=
        mantissa * Nat.pow 10 exponent.toNat * Nat.pow 2 (-binary).toNat

/-- The number in base 10 at the front of a text. -/
def decimal? (text : List Char) : Option Reading :=
  let (whole, fraction, rest) := digitsOf 10 text
  if whole.isEmpty && fraction.isEmpty then none
  else
    let mantissa := Shell.Expression.numberOf 10 (whole ++ fraction)
    let (exponent, rest) := exponentOf 'e' 'E' rest
    let exponent : Int := exponent - fraction.length
    let value := Float.ofScientific mantissa (decide (exponent < 0)) exponent.natAbs
    some ⟨value, mantissa != 0 && isRough value mantissa exponent, rest⟩

/-- The number in base 16 at the front of a text, behind its mark. -/
def hexadecimal? (text : List Char) : Option Reading :=
  let (whole, fraction, rest) := digitsOf 16 text
  if whole.isEmpty && fraction.isEmpty then none
  else
    let mantissa := Shell.Expression.numberOf 16 (whole ++ fraction)
    let (exponent, rest) := exponentOf 'p' 'P' rest
    let value := (Float.ofNat mantissa).scaleB (exponent - 4 * fraction.length)
    some ⟨value, mantissa != 0 && (value.isInf || value == 0), rest⟩

/-- A text without a word at its front, however its letters are written. -/
def afterWord? (word : String) (text : List Char) : Option (List Char) :=
  if (text.take word.length).map Char.toLower = word.toList then some (text.drop word.length)
  else none

/-- What is no finite number at the front of a text. -/
def special? (text : List Char) : Option Reading :=
  match (afterWord? "infinity" text).or (afterWord? "inf" text), afterWord? "nan" text with
  | some rest, _ => some ⟨1 / 0, false, rest⟩
  | none, some rest =>
    let inside := (rest.drop 1).takeWhile Shell.isNameChar
    let isMarked := rest.head? = some '(' && (rest.drop (inside.length + 1)).head? = some ')'
    some ⟨0 / 0, false, if isMarked then rest.drop (inside.length + 2) else rest⟩
  | none, none => none

/-- The number at the front of a text, behind blanks. -/
def leading? (text : List Char) : Option Reading :=
  let text := text.dropWhile Shell.Expression.isSpace
  let (isNegative, text) := match text with
    | '-' :: rest => (true, rest)
    | '+' :: rest => (false, rest)
    | rest => (false, rest)
  let found := match text with
    | '0' :: 'x' :: rest | '0' :: 'X' :: rest => (hexadecimal? rest).or (decimal? text)
    | text => (special? text).or (decimal? text)
  if isNegative then found.map fun reading => { reading with value := -reading.value } else found

end Floating

end TestCursor
