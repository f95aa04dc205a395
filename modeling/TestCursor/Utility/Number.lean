import TestCursor.Regex.Reader
import TestCursor.Utility.Basic
import TestCursor.Utility.Format

/-!
# Numbers

Programs that count and calculate.
-/

namespace TestCursor

open Shell

namespace Utility

/-! ## Sequences -/

/-- A number with a decimal fraction. -/
structure Decimal where
  /-- The number without its point. -/
  unscaled : Int
  /-- How many digits stand behind the point. -/
  places : Nat
  deriving Repr, Inhabited

namespace Decimal

/-- The number with that many places, which are no fewer than it has. -/
def scaledTo (places : Nat) (number : Decimal) : Int :=
  number.unscaled * Int.pow 10 (places - number.places)

/-- The number that a text spells. -/
def ofText? (text : String) : Option Decimal :=
  let text := text.toList.dropWhile Expression.isSpace
  let (isNegative, digits) := match text with
    | '-' :: rest => (true, rest)
    | '+' :: rest => (false, rest)
    | rest => (false, rest)
  let signed (value : Int) : Int := if isNegative then -value else value
  match digits with
  | '0' :: 'x' :: rest | '0' :: 'X' :: rest =>
    if !rest.isEmpty && rest.all (Expression.isDigitOf 16) then
      some ⟨signed (Expression.numberOf 16 rest), 0⟩
    else none
  | digits =>
    let whole := digits.takeWhile Char.isDigit
    let rest := digits.drop whole.length
    let (fraction, rest) := match rest with
      | '.' :: rest => (rest.takeWhile Char.isDigit, rest.dropWhile Char.isDigit)
      | rest => ([], rest)
    let plain : Decimal := ⟨signed (Expression.numberOf 10 (whole ++ fraction)), fraction.length⟩
    if whole.isEmpty && fraction.isEmpty then none
    else
      match rest with
      | [] => some plain
      | e :: rest =>
        let exponent := (String.ofList (match rest with
          | '+' :: rest => rest
          | rest => rest)).toInt?
        match if e = 'e' || e = 'E' then exponent else none with
        | some exponent =>
          if 0 ≤ exponent then
            let zeros := exponent.toNat
            some ⟨plain.unscaled * Int.pow 10 (zeros - plain.places), plain.places - zeros⟩
          else some ⟨plain.unscaled, plain.places + exponent.natAbs⟩
        | none => none

/-- The text of a number that is given without its point. -/
def text (places : Nat) (unscaled : Int) : String :=
  let digits := Floating.padded (places + 1) (Floating.digits unscaled.natAbs)
  let whole := digits.take (digits.length - places)
  let fraction := digits.drop (digits.length - places)
  (if unscaled < 0 then "-" else "") ++ String.ofList whole ++
    (if places = 0 then "" else "." ++ String.ofList fraction)

end Decimal

/-- A text brought to a width with zeros behind its sign. -/
def padZeros (width : Nat) (text : String) : String :=
  let (sign, digits) := match text.toList with
    | '-' :: digits => (['-'], digits)
    | digits => ([], digits)
  String.ofList (sign ++ Floating.padded (width - sign.length) digits)

def sequenceOf (first step last : Int) : List Int :=
  if step = 0 then []
  else
    let count := if 0 < step then (last - first) / step else (first - last) / (-step)
    if count < 0 then []
    else (List.range (count.toNat + 1)).map fun index : Nat => first + step * (index : Int)

/-- The arguments of a sequence: the options stand in front, and a number is none. -/
def sequenceArguments : Nat → List String → List String × List String
  | 0, args => ([], args)
  | _, [] => ([], [])
  | bound + 1, arg :: rest =>
    let isNumber := match arg.toList with
      | '-' :: c :: _ => c.isDigit || c == '.'
      | _ => true
    if isNumber then ([], arg :: rest)
    else if arg = "--" then ([], rest)
    else
      match arg, rest with
      | "-s", value :: rest | "-f", value :: rest | "--separator", value :: rest
      | "--format", value :: rest =>
        let (options, rest) := sequenceArguments bound rest
        (arg :: value :: options, rest)
      | arg, rest =>
        let (options, rest) := sequenceArguments bound rest
        (arg :: options, rest)

/-- Print a sequence of numbers. -/
def seq : Utility := fun _ args =>
  let (options, numbers) := sequenceArguments args.length args
  let flags := flagsOf "ws:f:".toList ++
    [⟨'w', "equal-width", false⟩, ⟨'s', "separator", true⟩, ⟨'f', "format", true⟩]
  withOptions flags false 1 options fun given => do
    let failed (reason : String) : Act Nat := do
      complain reason
      hint
      return 1
    match numbers.find? fun number => (Decimal.ofText? number).isNone with
    | some bad => failed ("invalid floating point argument: " ++ quoted bad)
    | none =>
      let values := numbers.filterMap Decimal.ofText?
      let run (first step last : Decimal) : Act Nat := do
        let shown := max first.places step.places
        let places := max shown last.places
        if step.unscaled = 0 then
          failed ("invalid Zero increment value: " ++ quoted (numbers[1]?.getD ""))
        else
          let values := sequenceOf (first.scaledTo places) (step.scaledTo places)
            (last.scaledTo places)
          let texts := values.map fun value =>
            Decimal.text shown (value / Int.pow 10 (places - shown))
          let width := [Decimal.text shown (first.scaledTo shown),
              Decimal.text shown (last.scaledTo places / Int.pow 10 (places - shown))].foldl
            (fun width text => max width text.length) 0
          let texts := match given.value? 'f' with
            | some format => texts.map fun text => (Format.print format [text]).text
            | none => if given.has 'w' then texts.map (padZeros width) else texts
          if !texts.isEmpty then
            print ((((given.value? 's').getD "\n").intercalate texts) ++ "\n")
          return 0
      match values with
      | [last] => run ⟨1, 0⟩ ⟨1, 0⟩ last
      | [first, last] => run first ⟨1, 0⟩ last
      | [first, step, last] => run first step last
      | [] => failed "missing operand"
      | _ => failed ("extra operand " ++ quoted (numbers[3]?.getD ""))

/-! ## Expressions of words -/

/-- What is wrong with an expression of words. -/
inductive WordFault
  | missing (last : String)
  | unexpected (word : String)
  | unclosed (last : String)
  | noInteger
  | divisionByZero
  | badRegex (fault : Regex.Fault)
  deriving Repr

def WordFault.text : WordFault → String
  | .missing last => "syntax error: missing argument after " ++ quoted last
  | .unexpected word => "syntax error: unexpected argument " ++ quoted word
  | .unclosed last => "syntax error: expecting ')' after " ++ quoted last
  | .noInteger => "non-integer argument"
  | .divisionByZero => "division by zero"
  | .badRegex fault => fault.text

namespace WordExpression

/-- A part of an expression: whether it is computed at all, the last word in front, and its words.
What is given is its value, the last word of it and the words behind it. -/
abbrev Part := Bool → String → List String → Except WordFault (String × String × List String)

def integer? (value : String) : Option Int :=
  match value.toList with
  | '-' :: digits =>
    if !digits.isEmpty && digits.all Char.isDigit then
      some (-(Expression.numberOf 10 digits : Int))
    else none
  | digits =>
    if !digits.isEmpty && digits.all Char.isDigit then some (Expression.numberOf 10 digits)
    else none

/-- A value that counts as false: an empty one, or zeros. -/
def isNull (value : String) : Bool :=
  match value.toList with
  | [] => true
  | '-' :: c :: digits => (c :: digits).all (· == '0')
  | digits => digits.all (· == '0')

def fitStart (value pattern : String) : Except WordFault String :=
  let dialect : Regex.Dialect := { isExtended := false, allowsEmptyRange := true }
  match Regex.ofText dialect pattern.toList with
  | .error fault => .error (.badRegex fault)
  | .ok (regex, groups) =>
    let text := value.toList.toArray
    match regex.fitAt? text 0 with
    | none => .ok (if groups = 0 then "0" else "")
    | some fit =>
      .ok (if groups = 0 then toString (fit.stop - fit.start)
        else String.ofList (fit.group text 1))

/-- A part of a value, from a position that is counted from one. -/
def piece (value position length : String) : String :=
  match integer? position, integer? length with
  | some position, some length =>
    if position ≤ 0 || length ≤ 0 then ""
    else String.ofList ((value.toList.drop (position.toNat - 1)).take length.toNat)
  | _, _ => ""

def firstOf (value characters : String) : Nat :=
  match value.toList.findIdx? characters.toList.contains with
  | some index => index + 1
  | none => 0

def operand (whole : Part) : Nat → Part
  | 0, _, last, _ => .error (.missing last)
  | _, _, last, [] => .error (.missing last)
  | bound + 1, isUsed, _, word :: rest => do
    match word with
    | "(" =>
      let (value, last, rest) ← whole isUsed word rest
      match rest with
      | ")" :: rest => return (value, ")", rest)
      | [] => .error (.unclosed last)
      | other :: _ => .error (.unexpected other)
    | ")" => .error (.unexpected ")")
    | "+" =>
      match rest with
      | value :: rest => return (value, value, rest)
      | [] => .error (.missing "+")
    | "length" =>
      let (value, last, rest) ← operand whole bound isUsed word rest
      return (toString value.length, last, rest)
    | "match" =>
      let (value, last, rest) ← operand whole bound isUsed word rest
      let (pattern, last, rest) ← operand whole bound isUsed last rest
      if isUsed then return (← fitStart value pattern, last, rest) else return ("", last, rest)
    | "index" =>
      let (value, last, rest) ← operand whole bound isUsed word rest
      let (characters, last, rest) ← operand whole bound isUsed last rest
      return (toString (firstOf value characters), last, rest)
    | "substr" =>
      let (value, last, rest) ← operand whole bound isUsed word rest
      let (position, last, rest) ← operand whole bound isUsed last rest
      let (length, last, rest) ← operand whole bound isUsed last rest
      return (piece value position length, last, rest)
    | value => return (value, value, rest)

/-- Parts joined by operators of one level, from the left on. -/
def joined (part : Part) (operators : List String)
    (join : Bool → String → String → String → Except WordFault String)
    (uses : String → String → Bool) :
    Nat → String → Part
  | 0, value, _, last, rest => .ok (value, last, rest)
  | _, value, _, last, [] => .ok (value, last, [])
  | bound + 1, value, isUsed, last, operator :: rest => do
    if operators.contains operator then
      let (right, last, rest) ← part (isUsed && uses operator value) operator rest
      let value ← join isUsed operator value right
      joined part operators join uses bound value isUsed last rest
    else return (value, last, operator :: rest)

def level (part : Part) (operators : List String)
    (join : Bool → String → String → String → Except WordFault String)
    (uses : String → String → Bool) : Part := fun isUsed last words => do
  let (value, last, rest) ← part isUsed last words
  joined part operators join uses (rest.length + 1) value isUsed last rest

/-- Calculate with two integers. -/
def calculate (isUsed : Bool) (operator left right : String) : Except WordFault String :=
  if !isUsed then .ok ""
  else
    match integer? left, integer? right with
    | some x, some y =>
      match operator with
      | "+" => .ok (toString (x + y))
      | "-" => .ok (toString (x - y))
      | "*" => .ok (toString (x * y))
      | operator =>
        if y = 0 then .error .divisionByZero
        else if operator = "/" then .ok (toString (Int.tdiv x y))
        else .ok (toString (Int.tmod x y))
    | _, _ => .error .noInteger

/-- Compare two values, as integers if they are such. -/
def compare (_ : Bool) (operator left right : String) : Except WordFault String :=
  let order := match integer? left, integer? right with
    | some x, some y => Ord.compare x y
    | _, _ => Ord.compare left right
  let isTrue : Bool := match operator with
    | "<" => order == .lt
    | "<=" => order != .gt
    | "=" | "==" => order == .eq
    | "!=" => order != .eq
    | ">=" => order != .lt
    | _ => order == .gt
  .ok (if isTrue then "1" else "0")

/-- A whole expression in brackets at most so deep. -/
def whole : Nat → Part
  | 0 => fun _ last _ => .error (.missing last)
  | depth + 1 =>
    let always (_ _ : String) : Bool := true
    let simple : Part := fun isUsed last words =>
      operand (whole depth) (words.length + 1) isUsed last words
    let matching := level simple [":"]
      (fun isUsed _ value pattern => if isUsed then fitStart value pattern else .ok "") always
    let products := level matching ["*", "/", "%"] calculate always
    let sums := level products ["+", "-"] calculate always
    let comparisons := level sums ["<", "<=", "=", "==", "!=", ">=", ">"] compare always
    let both := level comparisons ["&"]
      (fun _ _ left right => .ok (if isNull left || isNull right then "0" else left))
      (fun _ left => !isNull left)
    level both ["|"]
      (fun _ _ left right =>
        .ok (if !isNull left then left else if isNull right then "0" else right))
      (fun _ left => isNull left)

/-- The value of an expression. -/
def evaluate (words : List String) : Except WordFault String := do
  let (value, _, rest) ← whole (words.length + 1) true "" words
  match rest with
  | [] => return value
  | word :: _ => .error (.unexpected word)

end WordExpression

/-- Print the value of an expression of words. -/
def expr : Utility := fun _ args => do
  let words := if args.head? = some "--" then args.drop 1 else args
  if words.isEmpty then
    complain "missing operand"
    hint
    return 2
  else
    match WordExpression.evaluate words with
    | .ok value =>
      print (value ++ "\n")
      return if WordExpression.isNull value then 1 else 0
    | .error fault =>
      complain fault.text
      return 2

/-- The prime factors of a number from a candidate on. -/
def factorsFrom : Nat → Nat → Nat → List Nat
  | 0, _, number => if number = 1 then [] else [number]
  | bound + 1, candidate, number =>
    if number ≤ 1 then []
    else if number < candidate * candidate then [number]
    else if number % candidate = 0 then
      candidate :: factorsFrom bound candidate (number / candidate)
    else factorsFrom bound (candidate + 1) number

/-- Print the prime factors of numbers. -/
def factor : Utility := fun _ args => do
  let words ← if args.isEmpty then
      let text := (← readAllInput).map fun c => if Expression.isSpace c then ' ' else c
      pure ((text.splitOn " ").filter fun word => !word.isEmpty)
    else pure args
  forEach words fun word => do
    match natural? word with
    | some number =>
      let factors := factorsFrom 10000000 2 number
      print (" ".intercalate ((word ++ ":") :: factors.map toString) ++ "\n")
      return true
    | none =>
      complain (quoted word ++ " is not a valid positive integer")
      return false

end Utility

end TestCursor
