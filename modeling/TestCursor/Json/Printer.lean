import TestCursor.Json.Reader

/-!
# Printing JSON values

Values are printed over several lines, each level two spaces further to the right. In strings
only the quote, the backslash and the control characters below 32 are escaped.
-/

namespace TestCursor

namespace Json

/-- The digit for a value below 16, in lower case. -/
def lowerHexDigit (value : Nat) : Char :=
  if value < 10 then Char.ofNat (48 + value) else Char.ofNat (87 + value)

/-- A character as it stands in a string. -/
def escapeChar (c : Char) : List Char :=
  if c = '"' then ['\\', '"']
  else if c = '\\' then ['\\', '\\']
  else if c = '\x08' then ['\\', 'b']
  else if c = '\x0c' then ['\\', 'f']
  else if c = '\n' then ['\\', 'n']
  else if c = '\r' then ['\\', 'r']
  else if c = '\t' then ['\\', 't']
  else if c.toNat < 32 then
    ['\\', 'u', '0', '0', lowerHexDigit (c.toNat / 16), lowerHexDigit (c.toNat % 16)]
  else [c]

/-- A text between quotes. -/
def quoted (text : String) : List Char := '"' :: text.toList.flatMap escapeChar ++ ['"']

/-- A line break and the indentation of a level. -/
def newLine (level : Nat) : List Char := '\n' :: List.replicate (2 * level) ' '

mutual

/-- A value at a level of indentation. A string or key without a text is printed as empty. -/
def printAt (level : Nat) : Json → List Char
  | .null => "null".toList
  | .bool true => "true".toList
  | .bool false => "false".toList
  | .number spelling => spelling.toList
  | .string text => quoted (text.getD "")
  | .array elements =>
    match elements with
    | [] => ['[', ']']
    | first :: rest =>
      '[' :: newLine (level + 1) ++ printAt (level + 1) first
        ++ printElements (level + 1) rest ++ newLine level ++ [']']
  | .object members =>
    match members with
    | [] => ['{', '}']
    | (key, value) :: rest =>
      '{' :: newLine (level + 1) ++ quoted (key.getD "") ++ [':', ' '] ++ printAt (level + 1) value
        ++ printMembers (level + 1) rest ++ newLine level ++ ['}']

/-- The elements of an array after the first. -/
def printElements (level : Nat) : List Json → List Char
  | [] => []
  | element :: rest =>
    ',' :: newLine level ++ printAt level element ++ printElements level rest

/-- The members of an object after the first. -/
def printMembers (level : Nat) : List (Option String × Json) → List Char
  | [] => []
  | (key, value) :: rest =>
    ',' :: newLine level ++ quoted (key.getD "") ++ [':', ' '] ++ printAt level value
      ++ printMembers level rest

end

def print (value : Json) : String := String.ofList (printAt 0 value)

/-- An object with the given texts as keys. -/
def ofMembers (members : List (String × Json)) : Json :=
  .object (members.map fun member => (some member.1, member.2))

def text (content : String) : Json := .string (some content)

end Json

end TestCursor
