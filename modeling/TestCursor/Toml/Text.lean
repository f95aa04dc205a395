import TestCursor.Json.Token

/-!
# Strings, keys and blanks of TOML

Strings come in four spellings: between one or three quotes, with escapes or without. A key is
one part or several with dots between them; a part is a bare word or a string on one line.
-/

namespace TestCursor

namespace Toml

/-- A blank within a line. -/
def isBlank (c : Char) : Bool := c == ' ' || c == '\t'

/-- A character that can stand in a comment and, quotes and backslashes apart, in a string. -/
def isPrintable (c : Char) : Bool := c == '\t' || (32 ≤ c.toNat && c.toNat != 127)

/-- The text from its first character that is no blank. -/
def skipBlanks (text : List Char) : List Char := text.dropWhile isBlank

/-- What follows a line break. -/
def afterBreak? : List Char → Option (List Char)
  | '\n' :: rest => some rest
  | '\r' :: '\n' :: rest => some rest
  | _ => none

/-- Skip blanks, line breaks and comments. -/
def skipFill (inComment : Bool) : List Char → List Char
  | [] => []
  | '\n' :: rest => skipFill false rest
  | '\r' :: '\n' :: rest => skipFill false rest
  | c :: rest =>
    if inComment then (if isPrintable c then skipFill true rest else c :: rest)
    else if isBlank c then skipFill false rest
    else if c = '#' then skipFill true rest
    else c :: rest

/-- The end of a line: blanks, a comment perhaps, and a line break or the end of the text. What
follows is given. -/
def endOfLine? (text : List Char) : Option (List Char) :=
  let rest := match skipBlanks text with
    | '#' :: comment => comment.dropWhile isPrintable
    | rest => rest
  if rest.isEmpty then some [] else afterBreak? rest

/-- The character that a short escape stands for. -/
def shortEscape? : Char → Option Char
  | '"' => some '"'
  | '\\' => some '\\'
  | 'b' => some '\x08'
  | 'f' => some '\x0c'
  | 'n' => some '\n'
  | 'r' => some '\r'
  | 't' => some '\t'
  | _ => none

/-- The character with a code point, which has to be a scalar value. -/
def charOfCode? (code : Nat) : Option Char :=
  if code.isValidChar then some (Char.ofNat code) else none

/-- The character that hexadecimal digits spell. -/
def charOfHex? (digits : List Char) : Option Char := (Json.hexNumber? digits).bind charOfCode?

/-- One more character in front of a string that was read. -/
def withChar (c : Option Char) (read : Option (List Char × List Char)) :
    Option (List Char × List Char) :=
  match c, read with
  | some c, some (chars, after) => some (c :: chars, after)
  | _, _ => none

/-- A string with escapes on one line, after its opening quote. -/
def basicBody : List Char → Option (List Char × List Char)
  | [] => none
  | '"' :: rest => some ([], rest)
  | '\\' :: 'u' :: a :: b :: c :: d :: rest =>
    withChar (charOfHex? [a, b, c, d]) (basicBody rest)
  | '\\' :: 'U' :: a :: b :: c :: d :: e :: f :: g :: h :: rest =>
    withChar (charOfHex? [a, b, c, d, e, f, g, h]) (basicBody rest)
  | '\\' :: e :: rest => withChar (shortEscape? e) (basicBody rest)
  | c :: rest =>
    if isPrintable c && c != '\\' then withChar (some c) (basicBody rest) else none

/-- A string without escapes on one line, after its opening quote. -/
def literalBody : List Char → Option (List Char × List Char)
  | [] => none
  | '\'' :: rest => some ([], rest)
  | c :: rest => if isPrintable c then withChar (some c) (literalBody rest) else none

/-- A backslash with this text behind it stands at the end of its line. -/
def endsLine (text : List Char) : Bool := (afterBreak? (skipBlanks text)).isSome

/-- A string with escapes over several lines, after its opening quotes. A backslash at the end of
a line drops the blanks and line breaks that follow, which `dropping` tells; up to two quotes can
stand in front of the closing ones. -/
def basicLines (dropping : Bool) : List Char → Option (List Char × List Char)
  | [] => none
  | '"' :: '"' :: '"' :: '"' :: '"' :: rest => some (['"', '"'], rest)
  | '"' :: '"' :: '"' :: '"' :: rest => some (['"'], rest)
  | '"' :: '"' :: '"' :: rest => some ([], rest)
  | '\\' :: 'u' :: a :: b :: c :: d :: rest =>
    withChar (charOfHex? [a, b, c, d]) (basicLines false rest)
  | '\\' :: 'U' :: a :: b :: c :: d :: e :: f :: g :: h :: rest =>
    withChar (charOfHex? [a, b, c, d, e, f, g, h]) (basicLines false rest)
  | '\\' :: e :: rest =>
    if endsLine (e :: rest) then basicLines true (e :: rest)
    else withChar (shortEscape? e) (basicLines false rest)
  | '\n' :: rest =>
    if dropping then basicLines true rest else withChar (some '\n') (basicLines false rest)
  | '\r' :: '\n' :: rest =>
    if dropping then basicLines true rest else withChar (some '\n') (basicLines false rest)
  | c :: rest =>
    if dropping && isBlank c then basicLines true rest
    else if isPrintable c && c != '\\' then withChar (some c) (basicLines false rest)
    else none

/-- A string without escapes over several lines, after its opening quotes. -/
def literalLines : List Char → Option (List Char × List Char)
  | [] => none
  | '\'' :: '\'' :: '\'' :: '\'' :: '\'' :: rest => some (['\'', '\''], rest)
  | '\'' :: '\'' :: '\'' :: '\'' :: rest => some (['\''], rest)
  | '\'' :: '\'' :: '\'' :: rest => some ([], rest)
  | '\n' :: rest => withChar (some '\n') (literalLines rest)
  | '\r' :: '\n' :: rest => withChar (some '\n') (literalLines rest)
  | c :: rest => if isPrintable c then withChar (some c) (literalLines rest) else none

/-- A text without a line break in front. -/
def dropBreak (text : List Char) : List Char := (afterBreak? text).getD text

/-- The string that a text begins with, in any of the four spellings. -/
def string? : List Char → Option (List Char × List Char)
  | '"' :: '"' :: '"' :: rest => basicLines false (dropBreak rest)
  | '"' :: rest => basicBody rest
  | '\'' :: '\'' :: '\'' :: rest => literalLines (dropBreak rest)
  | '\'' :: rest => literalBody rest
  | _ => none

def isBareKeyChar (c : Char) : Bool := c.isAlphanum || c == '-' || c == '_'

/-- The part of a key that a text begins with. -/
def keyPart? : List Char → Option (List Char × List Char)
  | '"' :: rest => basicBody rest
  | '\'' :: rest => literalBody rest
  | text =>
    let word := text.takeWhile isBareKeyChar
    if word.isEmpty then none else some (word, text.dropWhile isBareKeyChar)

/-- The parts of the key that a text begins with, at most `fuel` after the first, with the blanks
around them. -/
def keyParts? : Nat → List Char → Option (List String × List Char)
  | fuel, text =>
    match keyPart? (skipBlanks text) with
    | none => none
    | some (part, rest) =>
      match fuel, skipBlanks rest with
      | fuel + 1, '.' :: more =>
        (keyParts? fuel more).map fun (parts, after) => (String.ofList part :: parts, after)
      | _, rest => some ([String.ofList part], rest)

/-- Keys have fewer parts than this, and values are nested less deeply. -/
def maxDepth : Nat := 80

/-- The key that a text begins with: the parts before the last, and the last. -/
def key? (text : List Char) : Option ((List String × String) × List Char) :=
  match keyParts? (maxDepth - 2) text with
  | some (parts, rest) =>
    match parts.getLast? with
    | some last => some ((parts.dropLast, last), rest)
    | none => none
  | none => none

end Toml

end TestCursor
