import TestCursor.Toml.Number

/-!
# Dates and times of TOML

Only whether a text is a date or a time matters, not which one it is. Each function gives what
follows.
-/

namespace TestCursor

namespace Toml

/-- The number that exactly `count` digits in front of a text spell. -/
def fixedDigits? (count : Nat) (text : List Char) : Option (Nat × List Char) :=
  let digits := text.take count
  if digits.length = count && digits.all Char.isDigit then
    some (decimal digits, text.drop count)
  else none

/-- A number of two digits within bounds. -/
def twoDigits? (low high : Nat) (text : List Char) : Option (Nat × List Char) :=
  match fixedDigits? 2 text with
  | some (value, rest) => if low ≤ value ∧ value ≤ high then some (value, rest) else none
  | none => none

def daysInMonth (year month : Nat) : Nat :=
  if month = 2 then
    if year % 4 = 0 ∧ (year % 100 ≠ 0 ∨ year % 400 = 0) then 29 else 28
  else if month ∈ [4, 6, 9, 11] then 30
  else 31

def date? (text : List Char) : Option (List Char) := do
  let (year, rest) ← fixedDigits? 4 text
  let rest ← after? ['-'] rest
  let (month, rest) ← twoDigits? 1 12 rest
  let rest ← after? ['-'] rest
  let (_, rest) ← twoDigits? 1 (daysInMonth year month) rest
  pure rest

/-- A fraction of a second, if there is one. -/
def dropSecondFraction (text : List Char) : List Char :=
  match text with
  | '.' :: c :: rest => if c.isDigit then rest.dropWhile Char.isDigit else text
  | _ => text

/-- A time of day with seconds. The last minute of a day may have one second more. -/
def timeOfDay? (text : List Char) : Option (List Char) := do
  let (_, rest) ← twoDigits? 0 23 text
  let rest ← after? [':'] rest
  let (_, rest) ← twoDigits? 0 59 rest
  let rest ← after? [':'] rest
  let (_, rest) ← twoDigits? 0 60 rest
  pure (dropSecondFraction rest)

/-- A distance from universal time with a sign. -/
def offset? (text : List Char) : Option (List Char) := do
  let (_, rest) ← twoDigits? 0 23 text
  let rest ← after? [':'] rest
  let (_, rest) ← twoDigits? 0 59 rest
  pure rest

/-- The distance from universal time behind a time of day, if there is one. -/
def dropOffset : List Char → List Char
  | [] => []
  | c :: rest =>
    if c == 'Z' || c == 'z' then rest
    else if c == '+' || c == '-' then (offset? rest).getD (c :: rest)
    else c :: rest

/-- The time of day behind a date, if there is one. -/
def dropTimeOfDay : List Char → List Char
  | [] => []
  | c :: rest =>
    if c == 'T' || c == 't' || c == ' ' then
      match timeOfDay? rest with
      | some rest => dropOffset rest
      | none => c :: rest
    else c :: rest

/-- A date with or without a time of day, or a time of day alone. -/
def time? (text : List Char) : Option (List Char) :=
  match date? text with
  | some rest => some (dropTimeOfDay rest)
  | none => timeOfDay? text

end Toml

end TestCursor
