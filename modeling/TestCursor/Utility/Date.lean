import TestCursor.Utility.Basic
import TestCursor.Utility.Floating

/-!
# Dates

A program that shows moments of time. Where it is not told one, it shows the one in which
everything begins.
-/

namespace TestCursor

open Shell

namespace Utility

/-- A moment, in the parts of the calendar and of the clock, in universal time. -/
structure Moment where
  year : Int
  month : Nat
  day : Nat
  hour : Nat
  minute : Nat
  second : Nat
  /-- The days since the first one of January, and since Sunday. -/
  yearDay : Nat
  weekDay : Nat
  /-- The seconds since the beginning. -/
  seconds : Int

namespace Moment

/-- The days from the first of March of the year zero to a date. Years begin with March. -/
def daysTo (year : Int) (month day : Nat) : Int :=
  let shifted := if month ≤ 2 then year - 1 else year
  let era := shifted / 400
  let yearOfEra := shifted - era * 400
  let dayOfYear : Int := (153 * ((month + 9) % 12) + 2) / 5 + day - 1
  era * 146097 + yearOfEra * 365 + yearOfEra / 4 - yearOfEra / 100 + dayOfYear

/-- The days up to the moment at which seconds begin to be counted. -/
def daysToStart : Int := 719468

def ofSeconds (seconds : Int) : Moment :=
  let days := seconds / 86400
  let rest := (seconds - days * 86400).toNat
  let shifted := days + daysToStart
  let era := shifted / 146097
  let dayOfEra := shifted - era * 146097
  let yearOfEra := (dayOfEra - dayOfEra / 1460 + dayOfEra / 36524 - dayOfEra / 146096) / 365
  let dayOfYear := dayOfEra - (365 * yearOfEra + yearOfEra / 4 - yearOfEra / 100)
  let part := (5 * dayOfYear + 2) / 153
  let day := (dayOfYear - (153 * part + 2) / 5 + 1).toNat
  let month := (if part < 10 then part + 3 else part - 9).toNat
  let year := yearOfEra + era * 400 + (if month ≤ 2 then 1 else 0)
  { year := year, month := month, day := day, hour := rest / 3600, minute := rest / 60 % 60
    second := rest % 60, yearDay := (shifted - daysTo year 1 1).toNat
    weekDay := ((days + 4) % 7).toNat, seconds := seconds }

def daysIn (year : Int) (month : Nat) : Nat :=
  let isLeap := year % 4 == 0 && (year % 100 != 0 || year % 400 == 0)
  if month = 2 then (if isLeap then 29 else 28)
  else if [4, 6, 9, 11].contains month then 30
  else 31

/-- The moment of a date and a time, if there is one. -/
def ofParts? (year : Int) (month day hour minute second : Nat) : Option Moment :=
  if month = 0 || 12 < month || day = 0 || daysIn year month < day || 23 < hour ||
      59 < minute || 60 < second then none
  else
    let days := daysTo year month day - daysToStart
    some (ofSeconds (days * 86400 + hour * 3600 + minute * 60 + second))

/-- The seconds of the units in which times are told. -/
def unitSeconds : List (String × Int) :=
  [("second", 1), ("sec", 1), ("minute", 60), ("min", 60), ("hour", 3600), ("day", 86400),
   ("week", 604800), ("fortnight", 1209600)]

/-- The seconds that words add to a moment, such as `2 days ago`. -/
def distance? (words : List String) : Option Int := do
  let (words, sign) : List String × Int :=
    if words.getLast? = some "ago" then (words.dropLast, -1) else (words, 1)
  let unitOf? (word : String) : Option Int :=
    unitSeconds.lookup (if word.endsWith "s" then (word.dropEnd 1).toString else word)
  match words with
  | ["yesterday"] => some (-86400 * sign)
  | ["tomorrow"] => some (86400 * sign)
  | ["next", unit] => return (← unitOf? unit) * sign
  | ["last", unit] => return -(← unitOf? unit) * sign
  | [unit] => return (← unitOf? unit) * sign
  | [count, unit] =>
    let count ← if count.startsWith "+" then (count.drop 1).toString.toInt? else count.toInt?
    return count * (← unitOf? unit) * sign
  | _ => none

/-- The moment that a text names, seen from another one: seconds behind `@`, a date and perhaps a
time, or a distance. -/
def ofText? (now : Int) (text : String) : Option Moment := do
  match text.toList with
  | '@' :: '-' :: digits => return ofSeconds (-(Int.ofNat (← natural? (String.ofList digits))))
  | '@' :: digits => return ofSeconds (Int.ofNat (← natural? (String.ofList digits)))
  | _ =>
    let given := ((splitOn ' ' text.toList).filter (!·.isEmpty)).map String.ofList
    if ["", "now", "today"].contains text then return ofSeconds now
    else if let some distance := distance? given then return ofSeconds (now + distance)
    else
      let chars := text.toList.map fun c => if c = 'T' then ' ' else c
      let words := ((splitOn ' ' chars).filter (!·.isEmpty)).map String.ofList
      let words := words.filter fun word => word != "UTC" && word != "Z"
      let [year, month, day] ← (((words.headD "").splitOn "-").mapM natural?) | none
      let clock ← match words.drop 1 with
        | [] => some [0, 0, 0]
        | [time] => (time.splitOn ":").mapM natural?
        | _ => none
      let (hour, minute, second) ← match clock with
        | [hour, minute] => some (hour, minute, 0)
        | [hour, minute, second] => some (hour, minute, second)
        | _ => none
      ofParts? year month day hour minute second

/-- The moment that digits name: month, day, hour and minute in pairs, perhaps behind the year
and in front of the seconds. -/
def ofDigits? (now : Int) (text : String) : Option Moment := do
  let (digits, second) ← match text.splitOn "." with
    | [digits] => some (digits, 0)
    | [digits, second] =>
      (if second.length = 2 then natural? second else none).map fun second => (digits, second)
    | _ => none
  let pairs ← (List.range (digits.length / 2)).mapM fun index =>
    natural? ((digits.drop (2 * index)).take 2).toString
  let current := (ofSeconds now).year
  match digits.length, pairs with
  | 8, [month, day, hour, minute] => ofParts? current month day hour minute second
  | 10, [year, month, day, hour, minute] =>
    ofParts? (if year < 69 then 2000 + year else 1900 + year) month day hour minute second
  | 12, [century, year, month, day, hour, minute] =>
    ofParts? (century * 100 + year) month day hour minute second
  | _, _ => none

end Moment

def weekDayNames : List String :=
  ["Sunday", "Monday", "Tuesday", "Wednesday", "Thursday", "Friday", "Saturday"]

def monthNames : List String :=
  ["January", "February", "March", "April", "May", "June", "July", "August", "September",
   "October", "November", "December"]

/-- A number with so many digits. -/
def inDigits (count number : Nat) : String :=
  String.ofList (Floating.padded count (toString number).toList)

/-- What a format of dates says, by its parts. -/
def momentText (moment : Moment) : Nat → List Char → String
  | 0, _ => ""
  | _, [] => ""
  | bound + 1, '%' :: '-' :: c :: rest =>
    let text := momentText moment bound ['%', c]
    let kept := (text.toList.dropWhile fun c => c == '0' || c == ' ')
    (if kept.isEmpty then "0" else String.ofList kept) ++ momentText moment bound rest
  | bound + 1, '%' :: c :: rest =>
    let inner (format : String) : String := momentText moment bound format.toList
    let twelve := if moment.hour % 12 = 0 then 12 else moment.hour % 12
    (match c with
      | 'Y' => toString moment.year
      | 'C' => inDigits 2 (moment.year / 100).toNat
      | 'y' => inDigits 2 (moment.year % 100).toNat
      | 'm' => inDigits 2 moment.month
      | 'd' => inDigits 2 moment.day
      | 'e' => padLeft 2 (toString moment.day)
      | 'j' => inDigits 3 (moment.yearDay + 1)
      | 'H' => inDigits 2 moment.hour
      | 'k' => padLeft 2 (toString moment.hour)
      | 'I' => inDigits 2 twelve
      | 'l' => padLeft 2 (toString twelve)
      | 'p' => if moment.hour < 12 then "AM" else "PM"
      | 'P' => if moment.hour < 12 then "am" else "pm"
      | 'M' => inDigits 2 moment.minute
      | 'S' => inDigits 2 moment.second
      | 's' => toString moment.seconds
      | 'N' => "000000000"
      | 'a' => ((weekDayNames.getD moment.weekDay "").take 3).toString
      | 'A' => weekDayNames.getD moment.weekDay ""
      | 'b' | 'h' => ((monthNames.getD (moment.month - 1) "").take 3).toString
      | 'B' => monthNames.getD (moment.month - 1) ""
      | 'u' => toString (if moment.weekDay = 0 then 7 else moment.weekDay)
      | 'w' => toString moment.weekDay
      | 'U' => inDigits 2 ((moment.yearDay + 7 - moment.weekDay) / 7)
      | 'W' => inDigits 2 ((moment.yearDay + 7 - (moment.weekDay + 6) % 7) / 7)
      | 'F' => inner "%Y-%m-%d"
      | 'T' | 'X' => inner "%H:%M:%S"
      | 'R' => inner "%H:%M"
      | 'D' | 'x' => inner "%m/%d/%y"
      | 'c' => inner "%a %b %e %T %Y"
      | 'r' => inner "%I:%M:%S %p"
      | 'Z' => "UTC"
      | 'z' => "+0000"
      | 'n' => "\n"
      | 't' => "\t"
      | '%' => "%"
      | c => String.ofList ['%', c]) ++ momentText moment bound rest
  | bound + 1, c :: rest => String.ofList [c] ++ momentText moment bound rest

/-- Show a moment. -/
def date : Utility := fun _ args =>
  let flags := flagsOf "ud:r:RI".toList ++
    [⟨'u', "utc", false⟩, ⟨'d', "date", true⟩, ⟨'u', "universal", false⟩,
     ⟨'r', "reference", true⟩]
  withOptions flags false 1 args fun given => do
    let attributes := (← get).attributes
    let moment : Except String Moment ← match given.value? 'r' with
      | some path =>
        match ← Act.find .target path with
        | .ok (place, _) => pure (.ok (Moment.ofSeconds (attributes.timeOf place).seconds))
        | .error reason => pure (.error (path ++ ": " ++ reason.text))
      | none =>
        let text := (given.value? 'd').getD ""
        pure (match Moment.ofText? attributes.now.seconds text with
          | some moment => .ok moment
          | none => .error ("invalid date " ++ quoted text))
    match moment with
    | .error reason =>
      complain reason
      return 1
    | .ok moment =>
      let format := if given.has 'R' then "%a, %d %b %Y %T %z"
        else if given.has 'I' then "%F"
        else "%a %b %e %T %Z %Y"
      match given.operands with
      | [] =>
        print (momentText moment (format.length + 1) format.toList ++ "\n")
        return 0
      | [operand] =>
        if operand.startsWith "+" then
          let format := operand.toList.drop 1
          print (momentText moment (format.length + 20) format ++ "\n")
          return 0
        else
          complain ("invalid date " ++ quoted operand)
          return 1
      | _ :: extra :: _ => usage ("extra operand " ++ quoted extra)

end Utility

end TestCursor
