import TestCursor.Error
import TestCursor.Text.Lines

/-!
# Locations on the command line

A location is a file, with the number of a line behind a colon if it is to be narrowed down. Line
numbers count from 1. What stands behind the last colon and is no number belongs to the file.
-/

namespace TestCursor

/-- A file, and the line in it that the cursor stands on. -/
structure Place where
  file : String
  cursor : Option Cursor
  deriving DecidableEq, Repr

namespace Place

/-- The text before the last colon and the text behind it. -/
def splitAtLastColon? (text : List Char) : Option (List Char × List Char) :=
  match text.reverse.dropWhile (· != ':') with
  | [] => none
  | _ :: before => some (before.reverse, (text.reverse.takeWhile (· != ':')).reverse)

/-- The number that decimal digits spell. -/
def numberOf (digits : List Char) : Nat :=
  digits.foldl (fun value c => 10 * value + (c.toNat - '0'.toNat)) 0

/-- The digits of a number without the plus sign it can begin with. -/
def dropPlus : List Char → List Char
  | '+' :: digits => digits
  | digits => digits

/-- The number that a text spells: decimal digits, at least one, with a plus sign in front or
without. It has to fit in a word of 64 bits. -/
def word? (text : List Char) : Option Nat :=
  let digits := dropPlus text
  if digits.isEmpty || !digits.all Char.isDigit then none
  else if numberOf digits < UInt64.size then some (numberOf digits) else none

def parse (argument : String) : Except Failure Place :=
  match splitAtLastColon? argument.toList with
  | none => .ok ⟨argument, none⟩
  | some (file, line) =>
    match word? line with
    | none => .ok ⟨argument, none⟩
    | some 0 => .error (.plain ("Line numbers start at 1: " ++ argument))
    | some (index + 1) => .ok ⟨String.ofList file, some (UInt64.ofNat index)⟩

/-- A place as it is shown: the file, and the number of the line behind a colon. -/
def text (place : Place) : String :=
  match place.cursor with
  | some cursor => place.file ++ ":" ++ toString (cursor + 1).toNat
  | none => place.file

end Place

end TestCursor
