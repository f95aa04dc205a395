import TestCursor.Text.Split

/-!
# Patterns

A pattern fits texts. In it a star stands for any text, a question mark for any byte and a set
between square brackets for one of its bytes, unless they are quoted. This is the pattern matching
notation of POSIX, for bytes.
-/

namespace TestCursor

namespace Shell

/-- The characters of a pattern, each with whether it is quoted. -/
abbrev Glob := List (Char × Bool)

/-- One of the things that a set of bytes consists of. -/
inductive SetItem
  | range (low high : Char)
  | kind (isKind : Char → Bool)

inductive GlobPart
  | one (c : Char)
  | any
  | many
  | set (isInverted : Bool) (items : List SetItem)

def kindOf? (name : String) : Option (Char → Bool) :=
  let isPrintable (c : Char) : Bool := ' ' ≤ c && c ≤ '~'
  match name with
  | "alnum" => some Char.isAlphanum
  | "alpha" => some Char.isAlpha
  | "blank" => some fun c => c == ' ' || c == '\t'
  | "cntrl" => some fun c => c < ' ' || c == '\x7f'
  | "digit" => some Char.isDigit
  | "graph" => some fun c => isPrintable c && c != ' '
  | "lower" => some Char.isLower
  | "print" => some isPrintable
  | "punct" => some fun c => isPrintable c && c != ' ' && !c.isAlphanum
  | "space" => some fun c => c == ' ' || ('\t' ≤ c && c ≤ '\r')
  | "upper" => some Char.isUpper
  | "xdigit" => some fun c => c.isDigit || ('a' ≤ c && c ≤ 'f') || ('A' ≤ c && c ≤ 'F')
  | _ => none

namespace SetItem

def contains (c : Char) : SetItem → Bool
  | .range low high => low ≤ c && c ≤ high
  | .kind isKind => isKind c

end SetItem

namespace Glob

/-- A character that is quoted by a backslash or otherwise, and what follows it. -/
def quotedChar : Glob → Option (Char × Glob)
  | [] => none
  | ('\\', false) :: (c, _) :: rest => some (c, rest)
  | (c, _) :: rest => some (c, rest)

/-- The kind between the brackets and colons at the front of a pattern, and what follows. -/
def kindAt? (glob : Glob) : Option ((Char → Bool) × Glob) :=
  match glob with
  | ('[', false) :: (':', false) :: rest =>
    let name := rest.takeWhile fun (c, _) => c.isAlpha
    match rest.drop name.length with
    | (':', false) :: (']', false) :: after =>
      (kindOf? (String.ofList (name.map Prod.fst))).map fun isKind => (isKind, after)
    | _ => none
  | _ => none

/-- The items of a set and what follows its closing bracket, if it has one. A closing bracket
right at the beginning is an item. -/
def itemsUpTo : Nat → Bool → Glob → Option (List SetItem × Glob)
  | 0, _, _ => none
  | _, _, [] => none
  | fuel + 1, isFirst, (c, isQuoted) :: rest =>
    if c = ']' && !isQuoted && !isFirst then some ([], rest)
    else
      match kindAt? ((c, isQuoted) :: rest) with
      | some (isKind, after) =>
        (itemsUpTo fuel false after).map fun (items, after) => (.kind isKind :: items, after)
      | none =>
        match quotedChar ((c, isQuoted) :: rest) with
        | none => none
        | some (low, rest) =>
          match rest with
          | ('-', false) :: (d, isQuotedEnd) :: after =>
            if d = ']' && !isQuotedEnd then
              (itemsUpTo fuel false rest).map fun (items, after) =>
                (.range low low :: items, after)
            else
              match quotedChar ((d, isQuotedEnd) :: after) with
              | none => none
              | some (high, after) =>
                (itemsUpTo fuel false after).map fun (items, after) =>
                  (.range low high :: items, after)
          | rest =>
            (itemsUpTo fuel false rest).map fun (items, after) => (.range low low :: items, after)

/-- The set behind an opening bracket, and what follows it. -/
def setAt? (glob : Glob) : Option (GlobPart × Glob) :=
  let (isInverted, rest) := match glob with
    | ('!', false) :: rest => (true, rest)
    | rest => (false, rest)
  (itemsUpTo (rest.length + 1) true rest).map fun (items, after) =>
    (.set isInverted items, after)

def partsUpTo : Nat → Glob → List GlobPart
  | 0, _ => []
  | _, [] => []
  | fuel + 1, (c, true) :: rest => .one c :: partsUpTo fuel rest
  | fuel + 1, ('*', false) :: rest => .many :: partsUpTo fuel rest
  | fuel + 1, ('?', false) :: rest => .any :: partsUpTo fuel rest
  | fuel + 1, ('[', false) :: rest =>
    match setAt? rest with
    | some (part, after) => part :: partsUpTo fuel after
    | none => .one '[' :: partsUpTo fuel rest
  | fuel + 1, ('\\', false) :: (c, _) :: rest => .one c :: partsUpTo fuel rest
  | fuel + 1, (c, false) :: rest => .one c :: partsUpTo fuel rest

def parts (glob : Glob) : List GlobPart := partsUpTo (glob.length + 1) glob

/-- The pattern of a text in which nothing is quoted. -/
def ofText (text : String) : Glob := text.toList.map fun c => (c, false)

def text (glob : Glob) : String := String.ofList (glob.map Prod.fst)

/-- The pattern can fit more than one text. -/
def isGeneral (glob : Glob) : Bool :=
  glob.parts.any fun part => match part with
    | .one _ => false
    | _ => true

/-- The pattern has a character that could make it general. -/
def hasWildcard (glob : Glob) : Bool :=
  glob.any fun (c, isQuoted) => !isQuoted && "*?[".toList.contains c

/-- The pieces of a pattern between separators. -/
def pieces : Glob → List Glob
  | [] => [[]]
  | (c, isQuoted) :: rest =>
    if c = '/' then [] :: pieces rest
    else
      match pieces rest with
      | [] => [[(c, isQuoted)]]
      | piece :: more => ((c, isQuoted) :: piece) :: more

end Glob

/-- A text and all its ends, the longest first. -/
def tails : List Char → List (List Char)
  | [] => [[]]
  | c :: rest => (c :: rest) :: tails rest

namespace GlobPart

def fit : List GlobPart → List Char → Bool
  | [], text => text.isEmpty
  | .many :: rest, text => (tails text).any (fit rest)
  | .one c :: rest, d :: text => c == d && fit rest text
  | .any :: rest, _ :: text => fit rest text
  | .set isInverted items :: rest, d :: text =>
    (items.any (SetItem.contains d) != isInverted) && fit rest text
  | _ :: _, [] => false

end GlobPart

namespace Glob

def fits (glob : Glob) (text : List Char) : Bool := GlobPart.fit glob.parts text

end Glob

end Shell

end TestCursor
