import TestCursor.Shell.Expansion

/-!
# Conditions

A condition asks about texts, numbers and files. Its words are read from the left; whether a word
is an operator can depend on what follows it.
-/

namespace TestCursor

namespace Shell

namespace Condition

/-- What a word of a condition is. -/
inductive Kind
  | finish
  | operand
  | question
  | comparison
  | not
  | and
  | or
  | opening
  | closing
  deriving DecidableEq, Repr

/-- The questions about one operand. -/
def questions : List String :=
  ["-r", "-w", "-x", "-e", "-f", "-d", "-c", "-b", "-p", "-u", "-g", "-k", "-s", "-t", "-z", "-n",
   "-h", "-L", "-O", "-G", "-S"]

/-- The comparisons of two operands. -/
def comparisons : List String :=
  ["=", "!=", "<", ">", "-eq", "-ne", "-ge", "-gt", "-le", "-lt", "-nt", "-ot", "-ef"]

def kindOf (word : String) : Kind :=
  match word with
  | "!" => .not
  | "-a" => .and
  | "-o" => .or
  | "(" => .opening
  | ")" => .closing
  | word =>
    if questions.contains word then .question
    else if comparisons.contains word then .comparison
    else .operand

/-- What the first of some words is where it stands. -/
def kindAt : List String → Kind
  | [] => .finish
  | word :: rest =>
    match kindOf word, rest with
    | .question, [] => .operand
    | .question, [_] => .question
    | .question, next :: _ => if kindOf next = .comparison then .operand else .question
    | .opening, [] => .operand
    | kind, _ => kind

def integer (word : String) : Act Int := do
  let text := word.toList.dropWhile Expression.isSpace
  let (isNegative, digits) := match text with
    | '-' :: rest => (true, rest)
    | '+' :: rest => (false, rest)
    | rest => (false, rest)
  let number := digits.takeWhile Char.isDigit
  if number.isEmpty || !(digits.drop number.length).all Expression.isSpace then
    Act.fail ("Illegal number: " ++ word)
  else
    let value : Int := if isNegative then -(Expression.numberOf 10 number : Int)
      else Expression.numberOf 10 number
    if Expression.wrap value = value then return value
    else Act.fail ("Illegal number: " ++ word)

def isLink (path : String) : Act Bool := do
  match ← Act.find .entry path with
  | .ok (_, .link _) => return true
  | _ => return false

/-- Some permission bit lets a file be run. -/
def isExecutable (mode : Nat) : Bool := mode &&& 0o111 != 0

/-- What is asked about one operand. -/
def answer (question operand : String) : Act Bool := do
  match question with
  | "-n" => return !operand.isEmpty
  | "-z" => return operand.isEmpty
  | "-t" =>
    let _ ← integer operand
    return false
  | "-h" | "-L" => isLink operand
  | _ =>
    match ← Act.node? operand with
    | none => return false
    | some node =>
      return match question, node with
        | "-f", .file _ _ => true
        | "-f", _ => false
        | "-d", .dir _ => true
        | "-d", _ => false
        | "-p", .device (.stream _) => true
        | "-p", _ => false
        | "-c", .device (.stream _) => false
        | "-c", .device _ => true
        | "-c", _ => false
        | "-x", .file _ mode => isExecutable mode
        | "-x", .dir _ => true
        | "-x", _ => false
        | "-s", .file content _ => !content.isEmpty
        | "-s", .dir _ => true
        | "-s", _ => false
        | "-u", .file _ mode => mode &&& 0o4000 != 0
        | "-g", .file _ mode => mode &&& 0o2000 != 0
        | "-k", .file _ mode => mode &&& 0o1000 != 0
        | question, _ => ["-e", "-r", "-w", "-O", "-G"].contains question

/-- A comparison of two operands. -/
def compare (left comparison right : String) : Act Bool := do
  let numbers (holds : Int → Int → Bool) : Act Bool := do
    let x ← integer left
    let y ← integer right
    return holds x y
  match comparison with
  | "=" => return left == right
  | "!=" => return left != right
  | "<" => return decide (left < right)
  | ">" => return decide (right < left)
  | "-eq" => numbers fun x y => x == y
  | "-ne" => numbers fun x y => x != y
  | "-lt" => numbers fun x y => decide (x < y)
  | "-le" => numbers fun x y => decide (x ≤ y)
  | "-gt" => numbers fun x y => decide (y < x)
  | "-ge" => numbers fun x y => decide (y ≤ x)
  | "-ef" =>
    match ← Act.find .target left, ← Act.find .target right with
    | .ok (place, _), .ok (other, _) =>
      return ((← get).attributes.placesOf place).contains other
    | _, _ => return false
  | comparison =>
    match ← Act.find .target left, ← Act.find .target right with
    | .ok (place, _), .ok (other, _) =>
      let attributes := (← get).attributes
      let (x, y) := (attributes.timeOf place, attributes.timeOf other)
      return if comparison = "-nt" then x.isAfter y else y.isAfter x
    | _, _ => return false

/-- The value of the condition at the front of some words, and the words from its last one on. -/
abbrev Part := List String → Act (Bool × List String)

/-- A condition without operators, and whether its first word has to be an operand. -/
def primary (whole : Part) (isOperand : Bool) : Part := fun words => do
  match if isOperand then Kind.operand else kindAt words, words with
  | .finish, words => return (false, words)
  | .opening, _ :: rest =>
    if kindAt rest = .closing then return (false, rest)
    else
      let (value, rest) ← whole rest
      match rest with
      | _ :: ")" :: after => return (value, ")" :: after)
      | _ => Act.fail "closing paren expected"
  | .question, [question] => Act.fail (question ++ ": argument expected")
  | .question, question :: operand :: rest => return (← answer question operand, operand :: rest)
  | _, left :: comparison :: rest =>
    if kindAt (comparison :: rest) = .comparison then
      match rest with
      | [] => Act.fail (comparison ++ ": argument expected")
      | right :: after => return (← compare left comparison right, right :: after)
    else return (!left.isEmpty, left :: comparison :: rest)
  | _, [word] => return (!word.isEmpty, [word])
  | _, [] => return (false, [])

/-- A condition that may be negated. -/
def negated (whole : Part) : Nat → Part
  | 0, words => primary whole false words
  | bound + 1, words => do
    if kindAt words = .not then
      let (value, rest) ← if words.length = 1 then pure (false, words)
        else negated whole bound (words.drop 1)
      return (!value, rest)
    else primary whole false words

/-- Conditions joined by an operator. The first one has already a value. -/
def joined (part : Part) (operator : Kind) (join : Bool → Bool → Bool) :
    Nat → Bool → Part
  | 0, value, words => return (value, words)
  | bound + 1, value, words => do
    if kindAt (words.drop 1) = operator then
      let (next, rest) ← part (words.drop 2)
      joined part operator join bound (join value next) rest
    else return (value, words)

/-- All conditions that hold together. -/
def conjunction (whole : Part) (first : Part) : Part := fun words => do
  let (value, rest) ← first words
  joined (negated whole words.length) .and (· && ·) words.length value rest

/-- Conditions of which one has to hold, with at most so many brackets inside one another. -/
def disjunction : Nat → Part
  | 0, words => return (false, words)
  | depth + 1, words => do
    let whole := disjunction depth
    let part := conjunction whole (negated whole words.length)
    let (value, rest) ← part words
    joined part .or (· || ·) words.length value rest

/-- The value of a condition of which a part of the words were taken off at the front. -/
def evaluate : Nat → Bool → List String → Act Bool
  | 0, expected, _ => return !expected
  | _, expected, [] => return !expected
  | bound + 1, expected, words => do
    let depth := words.length + 1
    let result (value : Bool) (rest : List String) : Act Bool := do
      match rest with
      | word :: _ :: _ => Act.fail (word ++ ": unexpected operator")
      | _ => return value == expected
    match words with
    | [_, comparison, _] =>
      if kindOf comparison = .comparison then
        let whole := disjunction depth
        let first := conjunction whole (primary whole true)
        let (value, rest) ← first words
        result value rest
      else shortened bound expected words result
    | [_, _, _, _] => shortened bound expected words result
    | words =>
      let (value, rest) ← disjunction depth words
      result value rest
where
  /-- Three or four words, of which brackets or a negation are taken off. -/
  shortened (bound : Nat) (expected : Bool) (words : List String)
      (result : Bool → List String → Act Bool) : Act Bool := do
    let depth := words.length + 1
    if words.head? = some "(" && words.getLast? = some ")" then
      let inside := (words.drop 1).dropLast
      let (value, rest) ← disjunction depth inside
      result value rest
    else if words.head? = some "!" then evaluate bound (!expected) (words.drop 1)
    else
      let (value, rest) ← disjunction depth words
      result value rest

end Condition

def testCondition (words : List String) : Act Nat := do
  return if ← Condition.evaluate 10 true words then 0 else 1

/-- The status of a condition between square brackets. -/
def testBracketed (words : List String) : Act Nat := do
  if words.getLast? = some "]" then testCondition words.dropLast
  else Act.fail "missing ]"

end Shell

end TestCursor
