import TestCursor.Utility.Basic
import TestCursor.Utility.Format

/-!
# Translating characters

A program that replaces, deletes and squeezes bytes. Sets of bytes are written as texts.
-/

namespace TestCursor

open Shell

namespace Utility

def allBytes : List Char := (List.range 256).map Char.ofNat

/-- The bytes from one to another. -/
def byteRange (low high : Char) : List Char :=
  (List.range (high.toNat + 1 - low.toNat)).map fun n => Char.ofNat (low.toNat + n)

/-- The character at the front of a set, perhaps an escape. -/
def setChar : List Char → Option (Char × List Char)
  | [] => none
  | '\\' :: rest =>
    match rest with
    | [] => some ('\\', [])
    | c :: more =>
      if Expression.isDigitOf 8 c then some (Format.escape rest)
      else if "\\abfnrtv".toList.contains c then some (Format.escape rest)
      else some (c, more)
  | c :: rest => some (c, rest)

/-- The bytes of a set, or the complaint about it. -/
def setBytes (length : Nat) : Nat → List Char → Except String (List Char)
  | 0, _ => .ok []
  | _, [] => .ok []
  | bound + 1, '[' :: ':' :: rest =>
    let name := rest.takeWhile Char.isAlpha
    match rest.drop name.length, kindOf? (String.ofList name) with
    | ':' :: ']' :: after, some isKind =>
      (setBytes length bound after).map fun more => allBytes.filter isKind ++ more
    | ':' :: ']' :: _, none =>
      .error ("invalid character class " ++ quoted (String.ofList name))
    | _, _ => (setBytes length bound (':' :: rest)).map fun more => '[' :: more
  | bound + 1, '[' :: '=' :: c :: '=' :: ']' :: rest =>
    (setBytes length bound rest).map fun more => c :: more
  | bound + 1, '[' :: c :: '*' :: rest =>
    let digits := rest.takeWhile Char.isDigit
    match rest.drop digits.length with
    | ']' :: after =>
      match setBytes length bound after with
      | .ok more =>
        let count := if digits.isEmpty then length - more.length
          else Expression.numberOf (if digits.head? = some '0' then 8 else 10) digits
        .ok (List.replicate count c ++ more)
      | .error e => .error e
    | _ => (setBytes length bound (c :: '*' :: rest)).map fun more => '[' :: more
  | bound + 1, text =>
    match setChar text with
    | none => .ok []
    | some (low, '-' :: rest) =>
      match setChar rest with
      | none => (setBytes length bound ('-' :: rest)).map fun more => low :: more
      | some (high, after) =>
        if high < low then
          .error ("range-endpoints of " ++ quoted (String.ofList [low, '-', high]) ++
            " are in reverse collating sequence order")
        else (setBytes length bound after).map fun more => byteRange low high ++ more
    | some (c, rest) => (setBytes length bound rest).map fun more => c :: more

/-- A text without the bytes of a set that follow the same one. -/
def squeeze (isSqueezed : Char → Bool) : Option Char → List Char → List Char
  | _, [] => []
  | last, c :: rest =>
    if last = some c && isSqueezed c then squeeze isSqueezed last rest
    else c :: squeeze isSqueezed (some c) rest

/-- Translate, delete or squeeze characters. -/
def tr : Utility := fun _ args =>
  let flags := flagsOf "cCdst".toList ++
    [⟨'c', "complement", false⟩, ⟨'d', "delete", false⟩, ⟨'s', "squeeze-repeats", false⟩,
     ⟨'t', "truncate-set1", false⟩]
  withOptions flags true 1 args fun given => do
    let usage (lines : List String) : Act Nat := do
      complain ("\n".intercalate lines)
      hint
      return 1
    let isComplement := given.has 'c' || given.has 'C'
    let deletes := given.has 'd'
    let squeezes := given.has 's'
    match given.operands with
    | [] => usage ["missing operand"]
    | _ :: _ :: third :: _ => usage ["extra operand " ++ quoted third]
    | first :: more =>
      if more.isEmpty && !deletes && !squeezes then
        usage ["missing operand after " ++ quoted first,
          "Two strings must be given when translating."]
      else if more.isEmpty && deletes && squeezes then
        usage ["missing operand after " ++ quoted first,
          "Two strings must be given when both deleting and squeezing repeats."]
      else if !more.isEmpty && deletes && !squeezes then
        usage ["extra operand " ++ quoted (more.headD ""),
          "Only one string may be given when deleting without squeezing repeats."]
      else
        match setBytes 0 (first.length + 1) first.toList with
        | .error reason =>
          complain reason
          return 1
        | .ok set =>
          let set := if isComplement then allBytes.filter fun c => !set.contains c else set
          let second := more.headD ""
          match setBytes set.length (second.length + 1) second.toList with
          | .error reason =>
            complain reason
            return 1
          | .ok other =>
            if !more.isEmpty && !deletes && other.isEmpty then
              complain "when not truncating set1, string2 must be non-empty"
              return 1
            else
              let text := (← readAllInput).toList
              let text := if deletes then text.filter fun c => !set.contains c
                else if more.isEmpty then text
                else
                  let padded := other ++ (if given.has 't' then []
                    else List.replicate (set.length - other.length) (other.getLast?.getD ' '))
                  let table := ((set.zip padded).reverse.foldl
                    (fun (table : Array Char) (c, d) => table.setIfInBounds c.toNat d)
                    allBytes.toArray)
                  let table := (set.zip padded).foldl
                    (fun (table : Array Char) (c, d) => table.setIfInBounds c.toNat d) table
                  text.map fun c => table.getD c.toNat c
              let text := if squeezes then
                  let squeezed := if more.isEmpty then set else other
                  squeeze (fun c => squeezed.contains c) none text
                else text
              print (String.ofList text)
              return 0

end Utility

end TestCursor
