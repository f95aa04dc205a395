import TestCursor.Shell.Arithmetic
import TestCursor.Text.Split

/-!
# Permissions

Who can read, write and run a file is told by bits. A mode says how they change: it has the new
bits in octal digits, or clauses with letters for the users and for what they are allowed to do.
-/

namespace TestCursor

namespace Permission

/-- The bits of the permissions that letters name, for a file with some bits. -/
def tripleOf (old : Nat) (isDir : Bool) : List Char → Nat
  | [] => 0
  | c :: rest =>
    (match c with
      | 'r' => 4
      | 'w' => 2
      | 'x' => 1
      | 'X' => if isDir || old &&& 0o111 != 0 then 1 else 0
      | 'u' => old / 64 % 8
      | 'g' => old / 8 % 8
      | 'o' => old % 8
      | _ => 0) ||| tripleOf old isDir rest

/-- The bits of classes of users. -/
def classMask (letters : List Char) : Nat :=
  (if letters.contains 'u' || letters.contains 'a' then 0o4700 else 0) |||
    (if letters.contains 'g' || letters.contains 'a' then 0o2070 else 0) |||
    (if letters.contains 'o' || letters.contains 'a' then 0o1007 else 0)

def specialBits (letters : List Char) : Nat :=
  (if letters.contains 's' then 0o6000 else 0) ||| (if letters.contains 't' then 0o1000 else 0)

/-- Bits changed by what follows the classes of users in a mode. -/
def changeBits (mask : Nat) (isDir : Bool) : Nat → Nat → List Char → Option Nat
  | 0, _, _ => none
  | _, bits, [] => some bits
  | bound + 1, bits, operator :: rest =>
    let letters := rest.takeWhile "rwxXstugo".toList.contains
    let triple := tripleOf bits isDir letters
    let change := (specialBits letters + triple * 64 + triple * 8 + triple) &&& mask
    let next := match operator with
      | '+' => some (bits ||| change)
      | '-' => some (bits &&& (0o7777 ^^^ change))
      | '=' => some ((bits &&& (0o7777 ^^^ mask)) ||| change)
      | _ => none
    match next with
    | some next => changeBits mask isDir bound next (rest.drop letters.length)
    | none => none

/-- Bits changed by one clause of a mode. -/
def clauseBits (umask : Nat) (isDir : Bool) (bits : Nat) (clause : List Char) : Option Nat :=
  let classes := clause.takeWhile "ugoa".toList.contains
  let mask := if classes.isEmpty then 0o7777 ^^^ umask else classMask classes
  let rest := clause.drop classes.length
  if rest.isEmpty then none else changeBits mask isDir (rest.length + 1) bits rest

/-- Bits changed by a mode: the new ones in octal digits, or clauses. -/
def change? (umask : Nat) (isDir : Bool) (bits : Nat) (mode : String) : Option Nat :=
  if !mode.isEmpty && mode.toList.all (Shell.Expression.isDigitOf 8) then
    some (Shell.Expression.numberOf 8 mode.toList % 4096)
  else
    (splitOn ',' mode.toList).foldlM (clauseBits umask isDir) bits

/-- The mask after one clause of a mode, which speaks of what the mask leaves. A clause can have no
users and no change. -/
def maskClause (bits : Nat) (clause : List Char) : Option Nat :=
  let classes := clause.takeWhile "ugoa".toList.contains
  let rest := clause.drop classes.length
  let mask := if classes.isEmpty then 0o777 else classMask classes
  changeBits mask false (rest.length + 1) bits rest

/-- The mask after a mode in letters. -/
def changeMask? (mask : Nat) (mode : String) : Option Nat :=
  ((splitOn ',' mode.toList).foldlM maskClause (0o777 ^^^ mask)).map fun bits =>
    0o777 ^^^ (bits &&& 0o777)

end Permission

end TestCursor
