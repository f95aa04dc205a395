/-!
# Lines of a text

A line ends at a line feed; a carriage return right before the line feed belongs to the ending.
What follows the last line feed is a line of its own unless it is empty, and keeps a carriage
return that stands at its end.
-/

namespace TestCursor

/-- A reversed line without the carriage return of its ending. -/
def dropReturn : List Char → List Char
  | '\r' :: rest => rest
  | line => line

/-- The lines of a text, given the reversed part of the first one that was read already. -/
def linesFrom (read : List Char) : List Char → List (List Char)
  | [] => if read.isEmpty then [] else [read.reverse]
  | '\n' :: rest => (dropReturn read).reverse :: linesFrom [] rest
  | c :: rest => linesFrom (c :: read) rest

/-- The lines of a text, without their endings. -/
def linesOf (text : List Char) : List (List Char) := linesFrom [] text

/-- A position in a text: the index of a line, counted from 0, in a 64-bit word. -/
abbrev Cursor := UInt64

/-- The last line that a cursor can name. -/
def Cursor.last : Cursor := 18446744073709551615

/-- How many lines a cursor takes in, itself included. The count stops at the largest word. -/
def Cursor.count (cursor : Cursor) : Nat := min (cursor.toNat + 1) Cursor.last.toNat

/-- The lines from the cursor back to the top of the text, nearest first. A cursor past the end
stands on the last line. -/
def linesToCursor (text : String) (cursor : Cursor) : List String :=
  (((linesOf text.toList).take cursor.count).map String.ofList).reverse

@[simp] theorem linesOf_nil : linesOf [] = [] := rfl

end TestCursor
