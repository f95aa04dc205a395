import TestCursor.Regex.Reader

/-!
# Remarks about regular expressions

An expression can be read and yet not mean what it seems to mean: a repetition mark stands where
nothing can be repeated, or a set is written like the name of a kind of characters.
-/

namespace TestCursor

namespace Regex

/-- What is remarkable about an expression. -/
inductive Remark
  /-- A repetition mark has nothing to repeat. -/
  | loneMark (mark : String)
  /-- A set is written like the name of a kind of characters. -/
  | kindAsSet
  deriving DecidableEq, Repr

def Remark.text : Remark → String
  | .loneMark mark => "warning: " ++ mark ++ " at start of expression"
  | .kindAsSet => "character class syntax is [[:space:]], not [:space:]"

/-- A set, without its brackets, is written like the name of a kind of characters. -/
def seemsKind (set : List Char) : Bool :=
  let set := match set with
    | '^' :: set => set
    | set => set
  set.head? == some ':' && set.getLast? == some ':' && set.any (· != ':') &&
    !set.contains '[' && !set.contains '-'

/-- The remarks about an expression that can be read. `isStart` tells that nothing stands in front
of the text. -/
def remarksUpTo (dialect : Dialect) : Nat → Bool → List Char → List Remark
  | 0, _, _ => []
  | _, _, [] => []
  | bound + 1, isStart, c :: rest =>
    let more : Bool → List Char → List Remark := remarksUpTo dialect bound
    if c = '\\' then more false (rest.drop 1)
    else if c = '[' then
      match setAt dialect rest with
      | .ok (_, after) =>
        if seemsKind (rest.take (rest.length - after.length - 1)) then [.kindAsSet]
        else more false after
      | .error _ => more false rest
    else if !dialect.isExtended then more false rest
    else if c = '(' || c = '|' then more true rest
    else if c = '^' || c = '$' then more isStart rest
    else if (countOf? c).isSome then
      if isStart then .loneMark (String.ofList [c]) :: more true rest else more false rest
    else if c = '\x7b' then
      match countAt? dialect rest with
      | .ok (some (_, after)) =>
        if isStart then .loneMark "\x7b...\x7d" :: more false after else more false after
      | _ => more false rest
    else more false rest

/-- The remarks about an expression that can be read. -/
def remarks (dialect : Dialect) (text : List Char) : List Remark :=
  remarksUpTo dialect (text.length + 1) true text

end Regex

end TestCursor
