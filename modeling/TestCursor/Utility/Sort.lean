import TestCursor.Utility.Column
import TestCursor.Utility.Floating

/-!
# Sorting

Programs that bring lines in order and that drop those that come again.
-/

namespace TestCursor

open Shell

namespace Utility

/-- How two lines or keys are compared. -/
structure SortOrder where
  isNumeric : Bool
  isGeneral : Bool
  isFolded : Bool
  isDictionary : Bool
  skipsBlanks : Bool
  isMonth : Bool
  isHuman : Bool
  isVersion : Bool
  isReversed : Bool

namespace SortOrder

/-- Bytes one after another. -/
def plain : SortOrder := ⟨false, false, false, false, false, false, false, false, false⟩

def with? (ordering : SortOrder) (letter : Char) : Option SortOrder :=
  match letter with
  | 'n' => some { ordering with isNumeric := true }
  | 'g' => some { ordering with isGeneral := true }
  | 'f' => some { ordering with isFolded := true }
  | 'd' => some { ordering with isDictionary := true }
  | 'b' => some { ordering with skipsBlanks := true }
  | 'M' => some { ordering with isMonth := true }
  | 'h' => some { ordering with isHuman := true }
  | 'V' => some { ordering with isVersion := true }
  | 'r' => some { ordering with isReversed := true }
  | 'i' => some ordering
  | _ => none

/-- Nothing was asked for. -/
def isPlain (o : SortOrder) : Bool :=
  !(o.isNumeric || o.isGeneral || o.isFolded || o.isDictionary || o.skipsBlanks || o.isMonth ||
    o.isHuman || o.isVersion || o.isReversed)

end SortOrder

/-- The decimal number at the front of a text, in units of the last of so many places. -/
def decimalValue (places : Nat) (text : List Char) : Int :=
  let text := text.dropWhile fun c => c == ' ' || c == '\t'
  let (isNegative, text) := match text with
    | '-' :: rest => (true, rest)
    | rest => (false, rest)
  let whole := text.takeWhile Char.isDigit
  let fraction := match text.drop whole.length with
    | '.' :: rest => rest.takeWhile Char.isDigit
    | _ => []
  let digits := whole ++ fraction.take places ++
    List.replicate (places - fraction.length) '0'
  let value : Int := Expression.numberOf 10 digits
  if isNegative then -value else value

/-- The rank of the unit behind a number. -/
def unitRank (text : List Char) : Nat :=
  let text := text.dropWhile fun c => c == ' ' || c == '\t' || c == '-'
  let rest := text.dropWhile fun c => c.isDigit || c == '.'
  match rest.head? with
  | some c => if c = 'k' then 1 else (("KMGTPEZY".toList.idxOf? c).map (· + 1)).getD 0
  | none => 0

/-- The number of the month that a text begins with. -/
def monthOf (text : List Char) : Nat :=
  let text := text.dropWhile fun c => c == ' ' || c == '\t'
  let name := String.ofList ((text.take 3).map Char.toUpper)
  ((["JAN", "FEB", "MAR", "APR", "MAY", "JUN", "JUL", "AUG", "SEP", "OCT", "NOV", "DEC"].idxOf?
    name).map (· + 1)).getD 0

/-- A text in runs of digits and of others, for comparing versions. -/
def versionRuns : Nat → List Char → List (List Char × Nat)
  | 0, _ => []
  | _, [] => []
  | bound + 1, text =>
    let word := text.takeWhile fun c => !c.isDigit
    let rest := text.drop word.length
    let digits := rest.takeWhile Char.isDigit
    (word, Expression.numberOf 10 digits) :: versionRuns bound (rest.drop digits.length)

/-- The order of two runs of versions. -/
def compareRuns : List (List Char × Nat) → List (List Char × Nat) → Ordering
  | [], [] => .eq
  | [], _ => .lt
  | _, [] => .gt
  | (word, number) :: rest, (other, second) :: more =>
    match compare (String.ofList word) (String.ofList other) with
    | .eq =>
      match compare number second with
      | .eq => compareRuns rest more
      | order => order
    | order => order

/-- The number that a text begins with, and its rank: texts without one come first, then what is no
number, and then the numbers. -/
def realOf (text : List Char) : Nat × Float :=
  match Floating.leading? text with
  | none => (0, 0)
  | some reading => if reading.value.isNaN then (1, 0) else (2, reading.value)

/-- The order of two numbers with their ranks. -/
def compareReals (x y : Nat × Float) : Ordering :=
  match compare x.1 y.1 with
  | .eq => if x.2 < y.2 then .lt else if y.2 < x.2 then .gt else .eq
  | order => order

namespace SortOrder

/-- The order of two texts, apart from reversing it. -/
def compareTexts (o : SortOrder) (x y : List Char) : Ordering :=
  if o.isNumeric then
    let places := max x.length y.length
    compare (decimalValue places x) (decimalValue places y)
  else if o.isHuman then
    let places := max x.length y.length
    match compare (unitRank x) (unitRank y) with
    | .eq => compare (decimalValue places x) (decimalValue places y)
    | order => order
  else if o.isGeneral then
    compareReals (realOf x) (realOf y)
  else if o.isMonth then compare (monthOf x) (monthOf y)
  else if o.isVersion then
    compareRuns (versionRuns (x.length + 1) x) (versionRuns (y.length + 1) y)
  else
    let kept (text : List Char) : List Char :=
      let text := if o.isDictionary then
          text.filter fun c => c.isAlphanum || c == ' ' || c == '\t'
        else text
      if o.isFolded then text.map Char.toUpper else text
    compare (String.ofList (kept x)) (String.ofList (kept y))

def compareKeys (o : SortOrder) (x y : List Char) : Ordering :=
  let order := o.compareTexts x y
  if o.isReversed then order.swap else order

end SortOrder

/-- A place in a line: the number of a field, and of a character in it. -/
structure KeyPlace where
  field : Nat
  char : Nat
  skipsBlanks : Bool

/-- A part of a line that is compared. -/
structure SortKey where
  start : KeyPlace
  stop : Option KeyPlace
  ordering : SortOrder

/-- A number of a key at the front of a text, and what follows it; what is wrong if there is none
or if it is not a number of something. -/
def keyNumber (where' zero : String) (whole : String) (text : List Char) :
    Except String (Nat × List Char) :=
  let digits := text.takeWhile Char.isDigit
  let number := Expression.numberOf 10 digits
  if digits.isEmpty then
    .error ("invalid number " ++ where' ++ ": invalid count at start of " ++
      quoted (String.ofList text))
  else if number = 0 && !zero.isEmpty then
    .error (zero ++ " is zero: invalid field specification " ++ quoted whole)
  else .ok (number, text.drop digits.length)

def zeroField : String := "field number"

def sortKey (text : String) : Except String SortKey := do
  let stray {α : Type} : Except String α :=
    .error ("stray character in field spec: invalid field specification " ++ quoted text)
  let (field, rest) ← keyNumber "at field start" zeroField text text.toList
  let (char, rest) ← match rest with
    | '.' :: more => keyNumber "after '.'" "character offset" text more
    | rest => pure (1, rest)
  let letters := rest.takeWhile (· != ',')
  let ordering ← match letters.foldlM SortOrder.with? SortOrder.plain with
    | some ordering => pure ordering
    | none => stray
  let start : KeyPlace := ⟨field, char, letters.contains 'b'⟩
  match rest.drop letters.length with
  | [] => return ⟨start, none, ordering⟩
  | _ :: more =>
    let (field, rest) ← keyNumber "after ','" zeroField text more
    let (char, letters) ← match rest with
      | '.' :: more => keyNumber "after '.'" "" text more
      | rest => pure (0, rest)
    match letters.foldlM SortOrder.with? ordering with
    | some ordering => return ⟨start, some ⟨field, char, letters.contains 'b'⟩, ordering⟩
    | none => stray

/-- The letters of an order that do not go together; none if they do. -/
def SortOrder.clash (o : SortOrder) : List Char :=
  let kinds := [(o.isNumeric, 'n'), (o.isGeneral, 'g'), (o.isHuman, 'h'), (o.isMonth, 'M'),
    (o.isVersion, 'V'), (o.isDictionary, 'd')].filter Prod.fst
  if kinds.length ≤ 1 then []
  else
    let letters := kinds.map Prod.snd ++ (if o.isFolded then ['f'] else [])
    "dfghiMnRV".toList.filter letters.contains

/-- What separates fields, if an option says so. -/
def fieldSeparator (given : Given) : Except String (Option Char) :=
  match given.value? 't' with
  | none => .ok none
  | some "" => .error "empty tab"
  | some "\\0" => .ok (some '\x00')
  | some text =>
    if text.length = 1 then .ok text.toList.head?
    else .error ("multi-character tab " ++ quoted text)

/-- The part of a line that a key names. -/
def SortKey.extract (key : SortKey) (separator : Option Char) (skipsBlanks : Bool)
    (line : List Char) : List Char :=
  let isBlank (c : Char) : Bool := c == ' ' || c == '\t'
  let trim (skips : Bool) (text : List Char) : List Char :=
    if skips then text.dropWhile isBlank else text
  let start := trim (key.start.skipsBlanks || skipsBlanks)
    (behindFields separator (key.start.field - 1) line)
  let start := start.drop (key.start.char - 1)
  match key.stop with
  | none => start
  | some stop =>
    let rest := behindFields separator (stop.field - 1) line
    let behind := if stop.char = 0 then
        match separator with
        | some c => rest.dropWhile (· != c)
        | none => skipBlankField rest
      else (trim (stop.skipsBlanks || skipsBlanks) rest).drop stop.char
    start.take (start.length - behind.length)

def compareLines (keys : List SortKey) (separator : Option Char) (whole : SortOrder)
    (x y : List Char) : Ordering :=
  if keys.isEmpty then
    let kept (text : List Char) : List Char :=
      if whole.skipsBlanks then text.dropWhile fun c => c == ' ' || c == '\t' else text
    whole.compareKeys (kept x) (kept y)
  else
    keys.foldl
      (fun order key =>
        match order with
        | .eq =>
          let ordering := if key.ordering.isPlain then whole else key.ordering
          ordering.compareKeys (key.extract separator ordering.skipsBlanks x)
            (key.extract separator ordering.skipsBlanks y)
        | order => order)
      .eq

/-- The lines of a text, or its parts that end with a zero byte. -/
def recordsOf (isZero : Bool) (text : String) : List String :=
  if isZero then
    let pieces := text.splitOn "\x00"
    if pieces.getLast? = some "" then pieces.dropLast else pieces
  else linesOf text

/-- Lines without those that are equal to the one before. -/
def dropEqual (same : String → String → Bool) : List String → List String
  | [] => []
  | [line] => [line]
  | line :: next :: rest =>
    if same line next then dropEqual same (line :: rest) else line :: dropEqual same (next :: rest)

def sortFlags : List Flag :=
  flagsOf "nrufbcCdghiMVsmzt:k:o:S:T:".toList ++
    [⟨'n', "numeric-sort", false⟩, ⟨'r', "reverse", false⟩, ⟨'u', "unique", false⟩,
     ⟨'f', "ignore-case", false⟩, ⟨'k', "key", true⟩, ⟨'t', "field-separator", true⟩,
     ⟨'o', "output", true⟩, ⟨'s', "stable", false⟩, ⟨'c', "check", false⟩,
     ⟨'m', "merge", false⟩, ⟨'z', "zero-terminated", false⟩, ⟨'b', "ignore-leading-blanks", false⟩,
     ⟨'d', "dictionary-order", false⟩, ⟨'h', "human-numeric-sort", false⟩,
     ⟨'g', "general-numeric-sort", false⟩, ⟨'M', "month-sort", false⟩,
     ⟨'V', "version-sort", false⟩]

def sort : Utility := fun _ args =>
  withOptions sortFlags false 2 args fun given => do
    let letters := given.options.map Prod.fst
    let whole := letters.foldl (fun o letter => (o.with? letter).getD o) SortOrder.plain
    let clashes (keys : List SortKey) : List (List Char) :=
      let orders := keys.map fun key => if key.ordering.isPlain then whole else key.ordering
      ((if keys.isEmpty then [whole] else orders).map SortOrder.clash).filter fun letters =>
        !letters.isEmpty
    let settings : Except String (List SortKey × Option Char) := do
      let keys ← (given.values 'k').mapM sortKey
      let separator ← fieldSeparator given
      match clashes keys with
      | [] => return (keys, separator)
      | letters :: _ => throw ("options '-" ++ String.ofList letters ++ "' are incompatible")
    match settings with
    | .error reason =>
      complain reason
      return 2
    | .ok (keys, separator) =>
      let paths := if given.operands.isEmpty then ["-"] else given.operands
      let texts ← paths.mapM fun path => do return (path, ← readInput path)
      match failureAmong? texts with
      | some (path, Reason.isDirectory) =>
        complain ("read failed: " ++ path ++ ": Is a directory")
        return 2
      | some (path, reason) =>
        complain ("cannot read: " ++ path ++ ": " ++ reason.text)
        return 2
      | none =>
        let isZero := given.has 'z'
        let columns := texts.map fun (_, text) => match text with
          | .ok text => recordsOf isZero text
          | .error _ => []
        let lines := columns.flatten
        let isUnique := given.has 'u'
        let lastResort := !isUnique && !given.has 's'
        let order (x y : String) : Ordering :=
          match compareLines keys separator whole x.toList y.toList with
          | .eq =>
            if lastResort then
              (if whole.isReversed then (compare x y).swap else compare x y)
            else .eq
          | order => order
        if given.has 'c' || given.has 'C' then
          let bad := (lines.zip (lines.drop 1)).findIdx? fun (x, y) =>
            let found := order x y
            found == .gt || (isUnique && found == .eq)
          match bad with
          | none => return 0
          | some index =>
            if given.has 'c' then
              complain (paths.headD "-" ++ ":" ++ toString (index + 2) ++ ": disorder: " ++
                (lines.getD (index + 1) ""))
            return 1
        else
          let inOrder (x y : String) : Bool := order x y != .gt
          let sorted := if given.has 'm' then
              columns.foldl (fun done column => List.merge done column inOrder) []
            else lines.mergeSort inOrder
          let sorted := if isUnique then dropEqual (fun x y => order x y == .eq) sorted else sorted
          let text := if isZero then String.join (sorted.map fun line => line ++ "\x00")
            else unlines sorted
          match given.value? 'o' with
          | none =>
            print text
            return 0
          | some path =>
            match ← Act.writeFile path .write (Octets.toBytes text) with
            | none => return 0
            | some reason =>
              complain ("open failed: " ++ path ++ ": " ++ reason.text)
              return 2

def runsOfSame (same : String → String → Bool) (lines : List String) : List (List String) :=
  lines.foldr
    (fun line groups =>
      match groups with
      | (first :: rest) :: more =>
        if same line first then (line :: first :: rest) :: more
        else [line] :: (first :: rest) :: more
      | groups => [line] :: groups)
    []

/-- Drop lines that are the same as the one before. -/
def uniq : Utility := fun _ args =>
  let flags := flagsOf "cduDif:s:w:z".toList ++
    [⟨'c', "count", false⟩, ⟨'d', "repeated", false⟩, ⟨'u', "unique", false⟩,
     ⟨'i', "ignore-case", false⟩]
  withOptions flags false 1 args fun given => do
    let (inputs, outputs) := (given.operands.take 1, given.operands.drop 1)
    let numbers := [('f', "fields to skip"), ('s', "bytes to skip"), ('w', "bytes to compare")]
    let bad := numbers.findSome? fun (letter, what) =>
      match given.value? letter with
      | some value => if (size? value).isNone then some (value, what) else none
      | none => none
    match bad, outputs, ← readInput (inputs.headD "-") with
    | some (value, what), _, _ =>
      complain (value ++ ": invalid number of " ++ what)
      return 1
    | none, _ :: extra :: _, _ => usage ("extra operand " ++ quoted extra)
    | none, _, .error reason =>
      complain (inputs.headD "-" ++ ": " ++ reason.text)
      return 1
    | none, outputs, .ok text =>
      let number (letter : Char) : Nat := ((given.value? letter).bind natural?).getD 0
      let keyOf (line : String) : String :=
        let chars := (behindFields none (number 'f') line.toList).drop (number 's')
        let chars := if given.has 'w' then chars.take (number 'w') else chars
        String.ofList (if given.has 'i' then chars.map Char.toUpper else chars)
      let chosen := (runsOfSame (fun x y => keyOf x == keyOf y) (linesOf text)).filter fun group =>
        (!given.has 'd' || 1 < group.length) && (!given.has 'u' || group.length == 1) &&
          (!given.has 'D' || 1 < group.length)
      let shown := String.join (chosen.map fun group =>
        if given.has 'D' then unlines group
        else
          (if given.has 'c' then padLeft 7 (toString group.length) ++ " " else "") ++
            group.headD "" ++ "\n")
      match outputs with
      | [] => print shown
      | path :: _ =>
        match ← Act.writeFile path .write (Octets.toBytes shown) with
        | none => pure ()
        | some reason => complain (path ++ ": " ++ reason.text)
      return 0

end Utility

end TestCursor
