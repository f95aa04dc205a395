import TestCursor.Text.Word

/-!
# What a source line says about scopes

A line can define a test method, open a class, or do neither. Only the text after its indentation
decides; a comment or a string never counts, because the keyword has to come first.
-/

namespace TestCursor

/-- The rest of a text that begins with the given characters. -/
def after? : List Char → List Char → Option (List Char)
  | [], text => some text
  | _ :: _, [] => none
  | c :: start, d :: text => if c = d then after? start text else none

theorem after?_eq_some_iff {start text rest : List Char} :
    after? start text = some rest ↔ text = start ++ rest := by
  induction start generalizing text with
  | nil => simp [after?, eq_comm]
  | cons c start ih =>
    cases text with
    | nil => simp [after?]
    | cons d text =>
      by_cases h : c = d
      · simp [after?, h, ih]
      · simp [after?, h, Ne.symm h]

/-- What follows a keyword at the head of a line, from the first character that is not blank.
The keyword is followed by at least one blank. -/
def afterKeyword (keyword line : List Char) : Option (List Char) :=
  match after? keyword (trimStart line) with
  | some (c :: rest) => if isBlank c then some (trimStart rest) else none
  | _ => none

/-- The name of a test method begins with these characters and has at least one more. -/
def testMarker : List Char := ['t', 'e', 's', 't', '_']

/-- A word that can name a test method. -/
def isTestName (name : List Char) : Bool :=
  match after? testMarker name with
  | some (_ :: _) => true
  | _ => false

/-- The name of the test method that a line defines. -/
def testDefName? (line : List Char) : Option (List Char) :=
  match afterKeyword ['d', 'e', 'f'] line with
  | none => none
  | some rest =>
    if isTestName (leadingWord rest) && (trimStart (afterWord rest)).head? == some '(' then
      some (leadingWord rest)
    else none

def classDefName? (line : List Char) : Option (List Char) :=
  match afterKeyword ['c', 'l', 'a', 's', 's'] line with
  | none => none
  | some rest => if (leadingWord rest).isEmpty then none else some (leadingWord rest)

/-- What a line says about scopes. -/
inductive LineKind
  /-- The line defines a test method. -/
  | testDef (name : String)
  /-- The line opens a class. -/
  | classDef (name : String)
  /-- The line says nothing about scopes. -/
  | other
  deriving DecidableEq, Repr

def LineKind.of (line : String) : LineKind :=
  match testDefName? line.toList with
  | some name => .testDef (String.ofList name)
  | none =>
    match classDefName? line.toList with
    | some name => .classDef (String.ofList name)
    | none => .other

/-- A line without code: blank, or a comment. -/
def isCodeless (line : String) : Bool :=
  match trimStart line.toList with
  | [] => true
  | c :: _ => c == '#'

/-- The number of blank characters in front of a line's text. -/
def indentWidth (line : String) : Nat := indent line.toList

end TestCursor
