import TestCursor.Toml.Table
import TestCursor.Toml.Time

/-!
# Reading TOML documents

A document is a sequence of lines, each a header, a key with a value, a comment or blank. The
value of a key can take several lines. The statements are read first and put into tables after.
-/

namespace TestCursor

namespace Toml

/-- The elements of an array after its opening bracket or a comma, at most `fuel` of them. -/
def elements? (value? : List Char → Option (Toml × List Char)) :
    Nat → List Char → Option (List Toml × List Char)
  | fuel, text =>
    match skipFill false text with
    | ']' :: rest => some ([], rest)
    | start =>
      match fuel, value? start with
      | fuel + 1, some (element, rest) =>
        match skipFill false rest with
        | ']' :: rest => some ([element], rest)
        | ',' :: rest =>
          (elements? value? fuel rest).map fun (elements, after) => (element :: elements, after)
        | _ => none
      | _, _ => none

/-- A key, its sign of equality and its value. -/
def assignment? (value? : List Char → Option (Toml × List Char)) (text : List Char) :
    Option ((List String × String × Toml) × List Char) :=
  match key? text with
  | some ((parts, last), '=' :: rest) =>
    (value? (skipBlanks rest)).map fun (value, after) => ((parts, last, value), after)
  | _ => none

/-- The pairs of an inline table after its opening brace or a comma, at most `fuel` of them. -/
def pairs? (value? : List Char → Option (Toml × List Char)) :
    Nat → Entries → List Char → Option (Entries × List Char)
  | 0, _, _ => none
  | fuel + 1, entries, text =>
    match assignment? value? text with
    | none => none
    | some ((parts, last, value), rest) =>
      match addDotted? true parts last value entries with
      | none => none
      | some entries =>
        match skipBlanks rest with
        | '}' :: rest => some (entries, rest)
        | ',' :: rest => pairs? value? fuel entries rest
        | _ => none

/-- An inline table after its opening brace. -/
def inlineTable? (value? : List Char → Option (Toml × List Char)) (text : List Char) :
    Option (Toml × List Char) :=
  match skipBlanks text with
  | '}' :: rest => some (.table .inline [], rest)
  | start =>
    (pairs? value? start.length [] start).map fun (entries, rest) =>
      (.table .inline entries, rest)

/-- A number, a date or a time. -/
def numeral? (text : List Char) : Option (Toml × List Char) :=
  match time? text with
  | some rest => some (.time, rest)
  | none =>
    match finiteFloat? text with
    | some rest => some (.float, rest)
    | none =>
      match specialFloat? text with
      | some rest => some (.float, rest)
      | none => (integer? text).map fun (value, rest) => (.integer value, rest)

/-- A value that holds no others. -/
def scalar? (text : List Char) : Option (Toml × List Char) :=
  match text with
  | [] => none
  | c :: _ =>
    if c == '"' || c == '\'' then
      (string? text).map fun (chars, rest) => (.string (String.ofList chars), rest)
    else if c == 't' then
      (after? ['t', 'r', 'u', 'e'] text).map fun rest => (.bool true, rest)
    else if c == 'f' then
      (after? ['f', 'a', 'l', 's', 'e'] text).map fun rest => (.bool false, rest)
    else if c == 'i' || c == 'n' then (specialFloat? text).map fun rest => (.float, rest)
    else if c == '+' || c == '-' || c.isDigit then numeral? text
    else none

/-- The value that a text begins with, nested at most `depth` deep. -/
def value? : Nat → List Char → Option (Toml × List Char)
  | 0, text => scalar? text
  | depth + 1, '[' :: rest =>
    (elements? (value? depth) rest.length rest).map fun (elements, after) =>
      (.array elements, after)
  | depth + 1, '{' :: rest => inlineTable? (value? depth) rest
  | _ + 1, text => scalar? text

/-- What a line of a document says. -/
inductive Statement
  /-- The following keys belong to the table at a path. -/
  | header (parts : List String) (last : String)
  /-- The following keys belong to a further table of the array at a path. -/
  | elementHeader (parts : List String) (last : String)
  /-- A value for a key of the table at hand. -/
  | assign (parts : List String) (last : String) (value : Toml)

/-- The statement that a text begins with, and what follows its line. -/
def statement? : List Char → Option (Statement × List Char)
  | '[' :: '[' :: rest =>
    match key? rest with
    | some ((parts, last), ']' :: ']' :: rest) =>
      (endOfLine? rest).map fun rest => (.elementHeader parts last, rest)
    | _ => none
  | '[' :: rest =>
    match key? rest with
    | some ((parts, last), ']' :: rest) =>
      (endOfLine? rest).map fun rest => (.header parts last, rest)
    | _ => none
  | text =>
    match assignment? (value? (maxDepth - 1)) text with
    | some ((parts, last, value), rest) =>
      (endOfLine? rest).map fun rest => (.assign parts last value, rest)
    | none => none

/-- The statements of a text, at most `fuel` lines. -/
def statements? : Nat → List Char → Option (List Statement)
  | fuel, text =>
    match skipBlanks text with
    | [] => some []
    | c :: rest =>
      match fuel with
      | 0 => none
      | fuel + 1 =>
        if c == '#' || c == '\n' || c == '\r' then
          (endOfLine? (c :: rest)).bind fun rest => statements? fuel rest
        else
          match statement? (c :: rest) with
          | some (statement, rest) => (statements? fuel rest).map (statement :: ·)
          | none => none

/-- A document as far as it was put together: all tables but the one at hand, the header of that
one, and its entries. -/
structure Draft where
  root : Entries
  /-- Where the table at hand belongs; nowhere for the top one. -/
  place : Option (List String × String)
  /-- The table at hand is a further element of an array. -/
  isElement : Bool
  table : Entries

namespace Draft

/-- Nothing was put together. -/
def start : Draft := ⟨[], none, false, []⟩

/-- All tables, that at hand put in its place. -/
def close? (draft : Draft) : Option Entries :=
  match draft.place with
  | none => some draft.table
  | some (parts, last) =>
    changeAt?
      (fun entries =>
        some (if draft.isElement then closeElement last draft.table entries
          else closeTable last draft.table entries))
      parts draft.root

def add? (draft : Draft) : Statement → Option Draft
  | .assign parts last value =>
    (addDotted? true parts last value draft.table).map fun table => { draft with table := table }
  | .header parts last =>
    match draft.close? with
    | none => none
    | some root =>
      (lookAt? (openTable? last) parts root).map fun table =>
        ⟨root, some (parts, last), false, table⟩
  | .elementHeader parts last =>
    match draft.close? with
    | none => none
    | some root =>
      (lookAt? (openElement? last) parts root).map fun table =>
        ⟨root, some (parts, last), true, table⟩

end Draft

/-- A text without a byte order mark in front. -/
def dropMark : List Char → List Char
  | '\uFEFF' :: rest => rest
  | text => text

/-- The top table of the document that a text spells. -/
def document? (text : String) : Option Entries :=
  let chars := dropMark text.toList
  match statements? chars.length chars with
  | none => none
  | some statements => (statements.foldlM Draft.add? Draft.start).bind Draft.close?

end Toml

end TestCursor
