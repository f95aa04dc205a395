import TestCursor.Utility.Floating

/-!
# Printing in a format

A format is text with conversions, each of which prints one argument. It is used again as long as
arguments are left.
-/

namespace TestCursor

namespace Format

structure Conversion where
  flags : List Char
  width : Nat
  precision : Option Nat
  letter : Char
  deriving Repr

namespace Conversion

def has (conversion : Conversion) (flag : Char) : Bool := conversion.flags.contains flag

/-- A text brought to the width, with blanks. -/
def pad (conversion : Conversion) (text : List Char) : List Char :=
  let blanks := List.replicate (conversion.width - text.length) ' '
  if conversion.has '-' then text ++ blanks else blanks ++ text

/-- Digits behind a sign or a prefix, brought to the width with zeros if the conversion says so. -/
def padNumber (conversion : Conversion) (zeros : Bool) (start digits : List Char) : List Char :=
  if zeros && conversion.has '0' && !conversion.has '-' then
    start ++ List.replicate (conversion.width - start.length - digits.length) '0' ++ digits
  else conversion.pad (start ++ digits)

def sign (conversion : Conversion) (isNegative : Bool) : List Char :=
  if isNegative then ['-']
  else if conversion.has '+' then ['+']
  else if conversion.has ' ' then [' ']
  else []

/-- A text, of which the precision keeps a part. -/
def text (conversion : Conversion) (value : List Char) : List Char :=
  conversion.pad (match conversion.precision with
    | some count => value.take count
    | none => value)

/-- The digits of a number with at least as many as the precision says. -/
def digits (conversion : Conversion) (base value : Nat) : List Char :=
  if value = 0 && conversion.precision = some 0 then []
  else Floating.padded (conversion.precision.getD 1) (Nat.toDigits base value)

def integer (conversion : Conversion) (value : Int) : List Char :=
  conversion.padNumber conversion.precision.isNone (conversion.sign (decide (value < 0)))
    (conversion.digits 10 value.natAbs)

/-- An integer of 64 bits without a sign. -/
def natural (conversion : Conversion) (value : Nat) : List Char :=
  let zeros := conversion.precision.isNone
  match conversion.letter with
  | 'o' =>
    let digits := conversion.digits 8 value
    let start := if conversion.has '#' && digits.head? != some '0' then ['0'] else []
    conversion.padNumber zeros [] (start ++ digits)
  | 'x' =>
    let start := if conversion.has '#' && value != 0 then ['0', 'x'] else []
    conversion.padNumber zeros start (conversion.digits 16 value)
  | 'X' =>
    let start := if conversion.has '#' && value != 0 then ['0', 'X'] else []
    conversion.padNumber zeros start ((conversion.digits 16 value).map Char.toUpper)
  | _ => conversion.padNumber zeros [] (conversion.digits 10 value)

/-- A number with a fraction. -/
def real (conversion : Conversion) (value : Float) : List Char :=
  let (isNegative, digits) :=
    Floating.format value conversion.letter conversion.precision (conversion.has '#')
  let isFinite := (Floating.parts? value).isSome
  let start := match isFinite, conversion.letter with
    | true, 'a' => ['0', 'x']
    | true, 'A' => ['0', 'X']
    | _, _ => []
  conversion.padNumber isFinite (conversion.sign isNegative ++ start) digits

end Conversion

/-- The character that a backslash and what follows it stand for, and the rest. An unknown one
stands for the backslash alone. -/
def escape (text : List Char) : Char × List Char :=
  match text with
  | '\\' :: rest => ('\\', rest)
  | 'a' :: rest => ('\x07', rest)
  | 'b' :: rest => ('\x08', rest)
  | 'e' :: rest => ('\x1b', rest)
  | 'f' :: rest => ('\x0c', rest)
  | 'n' :: rest => ('\n', rest)
  | 'r' :: rest => ('\r', rest)
  | 't' :: rest => ('\t', rest)
  | 'v' :: rest => ('\x0b', rest)
  | text =>
    let digits := (text.take 3).takeWhile (Shell.Expression.isDigitOf 8)
    if digits.isEmpty then ('\\', text)
    else (Char.ofNat (Shell.Expression.numberOf 8 digits % 256), text.drop digits.length)

/-- A text with its escapes replaced, and whether one of them ends all printing. -/
def unescapeUpTo : Nat → List Char → List Char × Bool
  | 0, text => (text, false)
  | _, [] => ([], false)
  | _, '\\' :: 'c' :: _ => ([], true)
  | fuel + 1, '\\' :: '0' :: d :: rest =>
    let (c, after) := escape
      (if Shell.Expression.isDigitOf 8 d then d :: rest else '0' :: d :: rest)
    let (more, isEnd) := unescapeUpTo fuel after
    (c :: more, isEnd)
  | fuel + 1, '\\' :: rest =>
    let (c, after) := escape rest
    let (more, isEnd) := unescapeUpTo fuel after
    (c :: more, isEnd)
  | fuel + 1, c :: rest =>
    let (more, isEnd) := unescapeUpTo fuel rest
    (c :: more, isEnd)

/-- A text with its escapes replaced, and whether one of them ends all printing. -/
def unescape (text : String) : List Char × Bool := unescapeUpTo (text.length + 1) text.toList

/-- What is wrong with an argument that is to be a number. -/
inductive Flaw
  | noNumber
  /-- Something stands behind the number. -/
  | notWhole
  | outOfRange
  deriving DecidableEq, Repr

/-- An argument with what is wrong with it. -/
structure Complaint where
  argument : String
  flaw : Flaw
  deriving DecidableEq, Repr

def Complaint.text (complaint : Complaint) : String :=
  complaint.argument ++ ": " ++
    match complaint.flaw with
    | .noNumber => "expected numeric value"
    | .notWhole => "not completely converted"
    | .outOfRange => "Numerical result out of range"

def Complaint.programText (complaint : Complaint) : String :=
  "'" ++ complaint.argument ++ "': " ++
    match complaint.flaw with
    | .noNumber => "expected a numeric value"
    | .notWhole => "value not completely converted"
    | .outOfRange => "Numerical result out of range"

/-- What printing has come to. -/
structure Progress where
  /-- What was printed, the last text in front. -/
  printed : List (List Char)
  args : List String
  complaints : List Complaint
  isEnd : Bool

namespace Progress

def print (progress : Progress) (text : List Char) : Progress :=
  { progress with printed := text :: progress.printed }

def next (progress : Progress) : Option String × Progress :=
  (progress.args.head?, { progress with args := progress.args.drop 1 })

def nextInteger (progress : Progress) : Int × Progress :=
  match progress.next with
  | (none, progress) => (0, progress)
  | (some arg, progress) =>
    match arg.toList with
    | '\'' :: rest | '"' :: rest => ((rest.head?.map Char.toNat).getD 0, progress)
    | text =>
      match Shell.Expression.leadingInteger? text with
      | some (value, []) => (value, progress)
      | some (value, _) =>
        (value, { progress with complaints := ⟨arg, .notWhole⟩ :: progress.complaints })
      | none =>
        if text.isEmpty then (0, progress)
        else (0, { progress with complaints := ⟨arg, .noNumber⟩ :: progress.complaints })

/-- An integer kept in a range. A complaint tells about one out of range. -/
def bounded (progress : Progress) (arg : Option String) (low high value : Int) : Int × Progress :=
  if value < low || high < value then
    (if value < low then low else high,
      { progress with complaints := ⟨arg.getD "", .outOfRange⟩ :: progress.complaints })
  else (value, progress)

/-- The next argument as a number with a fraction. -/
def nextReal (progress : Progress) : Float × Progress :=
  match progress.next with
  | (none, progress) => (0, progress)
  | (some arg, progress) =>
    match arg.toList with
    | '\'' :: rest | '"' :: rest => (Float.ofNat ((rest.head?.map Char.toNat).getD 0), progress)
    | text =>
      match Floating.leading? text with
      | some ⟨value, false, []⟩ => (value, progress)
      | some ⟨value, true, []⟩ =>
        (value, { progress with complaints := ⟨arg, .outOfRange⟩ :: progress.complaints })
      | some reading =>
        (reading.value, { progress with complaints := ⟨arg, .notWhole⟩ :: progress.complaints })
      | none =>
        if text.isEmpty then (0, progress)
        else (0, { progress with complaints := ⟨arg, .noNumber⟩ :: progress.complaints })

/-- Print the next argument with a conversion. Nothing for a letter without a meaning. -/
def convert (progress : Progress) (conversion : Conversion) : Option Progress :=
  match conversion.letter with
  | 's' =>
    let (arg, progress) := progress.next
    some (progress.print (conversion.text (arg.getD "").toList))
  | 'b' =>
    let (arg, progress) := progress.next
    let (text, isEnd) := unescape (arg.getD "")
    some { progress.print (conversion.text text) with isEnd := isEnd }
  | 'c' =>
    let (arg, progress) := progress.next
    let c := ((arg.getD "").toList.head?).getD '\x00'
    some (progress.print (conversion.pad [c]))
  | 'd' | 'i' =>
    let arg := progress.args.head?
    let (value, progress) := progress.nextInteger
    let (value, progress) := progress.bounded arg (-Shell.Expression.largest - 1)
      Shell.Expression.largest value
    some (progress.print (conversion.integer value))
  | 'o' | 'u' | 'x' | 'X' =>
    let arg := progress.args.head?
    let (value, progress) := progress.nextInteger
    let (value, progress) := progress.bounded arg (-18446744073709551615) 18446744073709551615
      value
    some (progress.print (conversion.natural (value % 18446744073709551616).toNat))
  | 'a' | 'A' | 'e' | 'E' | 'f' | 'F' | 'g' | 'G' =>
    let (value, progress) := progress.nextReal
    some (progress.print (conversion.real value))
  | _ => none

end Progress

/-- A width or a precision: an argument, or a number, and what follows it. -/
def sizeAt (progress : Progress) (text : List Char) : Int × Progress × List Char :=
  match text with
  | '*' :: rest =>
    let (value, progress) := progress.nextInteger
    (value, progress, rest)
  | text =>
    let digits := text.takeWhile Char.isDigit
    (Shell.Expression.numberOf 10 digits, progress, text.drop digits.length)

/-- A conversion without its letter, and what follows it. -/
def conversionAt (progress : Progress) (text : List Char) : Conversion × Progress × List Char :=
  let flags := text.takeWhile "#-+ 0".toList.contains
  let (width, progress, text) := sizeAt progress (text.drop flags.length)
  let flags := if width < 0 then '-' :: flags else flags
  match text with
  | '.' :: rest =>
    let (precision, progress, rest) := sizeAt progress rest
    let precision := if precision < 0 then none else some precision.toNat
    (⟨flags, width.natAbs, precision, ' '⟩, progress, rest)
  | rest => (⟨flags, width.natAbs, none, ' '⟩, progress, rest)

/-- Print in a format once. An error names what is wrong with the format. -/
def once : Nat → List Char → Progress → Except (String × Progress) Progress
  | 0, _, progress => .ok progress
  | _, [], progress => .ok progress
  | fuel + 1, '\\' :: rest, progress =>
    let (c, after) := escape rest
    once fuel after (progress.print [c])
  | fuel + 1, '%' :: '%' :: rest, progress => once fuel rest (progress.print ['%'])
  | fuel + 1, '%' :: rest, progress =>
    let (conversion, progress, after) := conversionAt progress rest
    match after with
    | [] => .error ("missing format character", progress)
    | letter :: more =>
      match progress.convert { conversion with letter := letter } with
      | none =>
        let spelled := '%' :: rest.take (rest.length - more.length)
        .error (String.ofList spelled ++ ": invalid directive", progress)
      | some progress => if progress.isEnd then .ok progress else once fuel more progress
  | fuel + 1, c :: rest, progress => once fuel rest (progress.print [c])

/-- Print in a format until no arguments are left. -/
def allUpTo (format : List Char) : Nat → Progress → Except (String × Progress) Progress
  | 0, progress => .ok progress
  | fuel + 1, progress =>
    match once (format.length + 1) format progress with
    | .error e => .error e
    | .ok next =>
      if next.isEnd || next.args.isEmpty || next.args.length = progress.args.length then .ok next
      else allUpTo format fuel next

/-- What a format and its arguments print, the complaints about arguments, and what is wrong with
the format. -/
structure Result where
  text : String
  complaints : List Complaint
  failure : Option String

def print (format : String) (args : List String) : Result :=
  let result (progress : Progress) (failure : Option String) : Result :=
    ⟨String.ofList progress.printed.reverse.flatten, progress.complaints.reverse, failure⟩
  match allUpTo format.toList (args.length + 1) ⟨[], args, [], false⟩ with
  | .ok progress => result progress none
  | .error (reason, progress) => result progress (some reason)

end Format

end TestCursor
