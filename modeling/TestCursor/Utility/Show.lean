import TestCursor.Utility.Basic
import TestCursor.Utility.Format

/-!
# Showing texts

Programs that print files, parts of them, or their sizes.
-/

namespace TestCursor

open Shell

namespace Utility

/-! ## Whole files -/

/-- A character with what stands for it where control characters are shown. -/
def visible (showsTabs : Bool) (c : Char) : String :=
  let plain (number : Nat) : String :=
    if number = 127 then "^?"
    else if number < 32 then "^" ++ String.ofList [Char.ofNat (number + 64)]
    else String.ofList [Char.ofNat number]
  if c = '\n' || (c = '\t' && !showsTabs) then String.ofList [c]
  else if 128 ≤ c.toNat then "M-" ++ plain (c.toNat - 128)
  else plain c.toNat

/-- How files are printed. -/
structure CatStyle where
  numbersAll : Bool
  numbersFull : Bool
  showsEnds : Bool
  showsTabs : Bool
  showsControls : Bool
  squeezes : Bool

/-- Lines in a style, behind `count` lines of which the last one was empty or not. -/
def styled (style : CatStyle) : Nat → Bool → List (String × Bool) → List String
  | _, _, [] => []
  | count, wasEmpty, (line, isEnded) :: rest =>
    let isEmpty := line.isEmpty && isEnded
    if style.squeezes && isEmpty && wasEmpty then styled style count true rest
    else
      let isNumbered := style.numbersFull && !isEmpty || (style.numbersAll && !style.numbersFull)
      let number := if isNumbered then padLeft 6 (toString (count + 1)) ++ "\t" else ""
      let text := if style.showsControls then
          String.join (line.toList.map (visible style.showsTabs))
        else if style.showsTabs then
          String.join (line.toList.map fun c => if c = '\t' then "^I" else String.ofList [c])
        else line
      let stop := if isEnded then (if style.showsEnds then "$\n" else "\n") else ""
      (number ++ text ++ stop) ::
        styled style (if isNumbered then count + 1 else count) isEmpty rest

/-- The opening of the output leads to the file of a path, which has something in it. -/
def isOutput (path : String) : Act Bool := do
  match ← Act.opening? 1, ← Act.find .target path with
  | some index, .ok (place, .file content _) =>
    let opening := (← get).openings.getD index default
    return opening.channel == .file place && !content.isEmpty
  | _, _ => return false

/-- Print files. -/
def cat : Utility := fun _ args =>
  let flags := flagsOf "nbEeTtAvsu".toList ++
    [⟨'n', "number", false⟩, ⟨'b', "number-nonblank", false⟩, ⟨'A', "show-all", false⟩,
     ⟨'E', "show-ends", false⟩, ⟨'T', "show-tabs", false⟩, ⟨'s', "squeeze-blank", false⟩,
     ⟨'v', "show-nonprinting", false⟩]
  withOptions flags false 1 args fun given => do
    let has := given.has
    let style : CatStyle :=
      { numbersAll := has 'n', numbersFull := has 'b'
        showsEnds := has 'E' || has 'e' || has 'A'
        showsTabs := has 'T' || has 't' || has 'A'
        showsControls := has 'v' || has 'e' || has 't' || has 'A', squeezes := has 's' }
    let isPlain := given.options.all fun entry => entry.1 == 'u'
    let paths := if given.operands.isEmpty then ["-"] else given.operands
    let (status, texts) ← paths.foldlM (fun (status, texts) path => do
      if path != "-" && (← isOutput path) then
        complain (path ++ ": input file is output file")
        return (1, texts)
      else
        match ← readInput path with
        | .ok text =>
          if isPlain then print text
          return (status, texts ++ text)
        | .error reason =>
          complain (path ++ ": " ++ reason.text)
          return (1, texts)) (0, "")
    if !isPlain then print (String.join (styled style 0 false (markedLines texts)))
    if paths.contains "-" && (← Act.opening? 0).isNone then
      complain ("closing standard input: " ++ Reason.badStream.text)
    return status

/-- What is said about a file that cannot be opened. -/
def cannotOpen (path : String) (reason : Reason) : String :=
  "cannot open " ++ path ++ ": " ++ reason.text

/-- What is said about a file that cannot be opened, with its name between quotes. -/
def cannotOpenQuoted (path : String) (reason : Reason) : String :=
  if reason = .isDirectory then path ++ ": read error: " ++ reason.text
  else "failed to open " ++ quoted path ++ " for reading: " ++ reason.text

/-- Print the lines of files from the last one to the first one. -/
def tac : Utility := fun _ args => withLetters "" args fun given =>
  eachInputOr cannotOpenQuoted given.operands fun _ text =>
    print (String.join ((markedLines text).reverse.map fun (line, isEnded) =>
      if isEnded then line ++ "\n" else line))

/-- Print lines from their last character to the first one. -/
def rev : Utility := fun _ args => withLetters "" args fun given => do
  Act.modifyProcess fun p => { p with name := "rev" }
  eachInputOr cannotOpen given.operands fun _ text =>
    print (String.join ((markedLines text).map fun (line, isEnded) =>
      String.ofList line.toList.reverse ++ (if isEnded then "\n" else "")))

/-- Copy the input to the output and to files. -/
def tee : Utility := fun _ args =>
  withOptions (flagsOf "aip".toList ++ [⟨'a', "append", false⟩]) false 1 args fun given => do
    let text ← readAllInput
    let bytes := Octets.toBytes text
    print text
    forEach given.operands fun path => do
      match ← Act.writeFile path (if given.has 'a' then .append else .write) bytes with
      | none => return true
      | some reason =>
        complain (path ++ ": " ++ reason.text)
        return false

/-! ## Parts of files -/

/-- How much of a text is shown. -/
structure Extent where
  count : Nat
  /-- Bytes and not lines. -/
  isBytes : Bool
  /-- All but so much, or from there on. -/
  isOther : Bool

/-- The lines of a text with their line breaks. -/
def endedLines (text : String) : List String :=
  (markedLines text).map fun (line, isEnded) => if isEnded then line ++ "\n" else line

def Extent.beginning (extent : Extent) (text : String) : String :=
  if extent.isBytes then
    let all := text.toList
    String.ofList (all.take (if extent.isOther then all.length - extent.count else extent.count))
  else
    let all := endedLines text
    String.join (all.take (if extent.isOther then all.length - extent.count else extent.count))

def Extent.ending (extent : Extent) (text : String) : String :=
  if extent.isBytes then
    let all := text.toList
    String.ofList (all.drop
      (if extent.isOther then extent.count - 1 else all.length - extent.count))
  else
    let all := endedLines text
    String.join (all.drop
      (if extent.isOther then extent.count - 1 else all.length - extent.count))

/-- An old form of an argument, a sign with a number, in the new form. -/
def modernised (sign : Char) (args : List String) : List String :=
  match args with
  | arg :: rest =>
    match arg.toList with
    | c :: d :: more =>
      let digits := (d :: more).takeWhile Char.isDigit
      let letters := (d :: more).drop digits.length
      if c = sign && !digits.isEmpty && letters.all "clq".toList.contains then
        (if letters.contains 'c' then "-c" else "-n") ::
          ((if c = '+' then "+" else "") ++ String.ofList digits) :: rest
      else args
    | _ => args
  | [] => []

/-- What is said about an argument that is almost of the old form. -/
def badOldForm? (isTail : Bool) (args : List String) : Option String :=
  match (args.headD "").toList with
  | '-' :: d :: more =>
    let digits := (d :: more).takeWhile Char.isDigit
    let bad := (((d :: more).drop digits.length).filter fun c =>
      !"clqv".toList.contains c).head?
    if digits.isEmpty then none
    else if isTail then some ("option used in invalid context -- " ++ String.ofList (digits.take 1))
    else bad.map fun c => "invalid trailing option -- " ++ String.ofList [c]
  | _ => none

/-- How much of a text has to be read to know its beginning. -/
def Extent.limit (extent : Extent) : Option Nat :=
  if extent.isBytes && !extent.isOther then some extent.count else none

/-- Show a part of each file, under its name if there are several. -/
def showParts (given : Given) (limit : Option Nat) (show' : String → Act Unit) :
    Act Nat := do
  let paths := if given.operands.isEmpty then ["-"] else given.operands
  let hasNames := (given.has 'v' || 1 < paths.length) && !given.has 'q'
  let (status, _) ← paths.foldlM (fun (status, isFirst) path => do
    let header := if hasNames then
        (if isFirst then "" else "\n") ++ "==> " ++
          (if path = "-" then "standard input" else path) ++ " <==\n"
      else ""
    match ← readPart limit path with
    | .ok text =>
      print header
      show' text
      return (status, false)
    | .error .isDirectory =>
      print header
      complain ("error reading " ++ quoted path ++ ": " ++ Reason.isDirectory.text)
      return (1, false)
    | .error reason =>
      complain ("cannot open " ++ quoted path ++ " for reading: " ++ reason.text)
      return (1, isFirst)) (0, true)
  return status

/-- The options for a part of a text. -/
def extentFlags : List Flag :=
  flagsOf "n:c:qvzfF".toList ++
    [⟨'n', "lines", true⟩, ⟨'c', "bytes", true⟩, ⟨'q', "quiet", false⟩, ⟨'q', "silent", false⟩,
     ⟨'v', "verbose", false⟩, ⟨'f', "follow", false⟩]

/-- The part of a text that options name; a sign tells that it is meant the other way round. -/
def extentOf (sign : Char) (given : Given) (act : Extent → Act Nat) : Act Nat := do
  match given.options.reverse.find? fun entry => entry.1 == 'n' || entry.1 == 'c' with
  | none => act ⟨10, false, false⟩
  | some (letter, value) =>
    let (isOther, digits) := match value.toList with
      | c :: rest => if c = sign then (true, rest) else if c = '-' || c = '+' then (false, rest)
        else (false, c :: rest)
      | [] => (false, [])
    match size? (String.ofList digits) with
    | some count => act ⟨count, letter == 'c', isOther⟩
    | none =>
      complain ("invalid number of " ++ (if letter = 'c' then "bytes" else "lines") ++ ": " ++
        quoted value)
      return 1

/-- Print the first lines of files. -/
def head : Utility := fun _ args =>
  let args := modernised '-' args
  match badOldForm? false args with
  | some text => usage text
  | none =>
    withOptions extentFlags false 1 args fun given =>
      extentOf '-' given fun extent =>
        showParts given extent.limit fun text => do
          let shown := extent.beginning text
          print shown
          Act.unread 0 (if given.operands.isEmpty then text.length - shown.length else 0)

/-- Print the last lines of files. -/
def tail : Utility := fun _ args =>
  let args := modernised '+' (modernised '-' args)
  match badOldForm? true args with
  | some text => do
    complain text
    return 1
  | none =>
    withOptions extentFlags false 1 args fun given =>
      extentOf '+' given fun extent =>
        showParts given none fun text => print (extent.ending text)

/-! ## Sizes -/

/-- The numbers of lines, words, characters and bytes of a text, and the length of its longest
line. -/
def countsOf (text : String) : List Nat :=
  let chars := text.toList
  let isSpace (c : Char) : Bool := Expression.isSpace c
  let isPrinted (c : Char) : Bool := '!' ≤ c && c ≤ '~'
  let words := (chars.foldl
    (fun (count, inWord) c =>
      if isSpace c then (count, false)
      else if isPrinted c then (if inWord then (count, true) else (count + 1, true))
      else (count, inWord))
    ((0, false) : Nat × Bool)).1
  let widest := (linesOf text).foldl (fun widest line => max widest line.length) 0
  [chars.count '\n', words, chars.length, chars.length, widest]

/-- A stream leads to a regular file. -/
def isRegularStream (stream : Nat) : Act Bool := do
  match ← Act.opening? stream with
  | some index =>
    match ((← get).openings.getD index default).channel with
    | .file _ => return true
    | _ => return false
  | none => return false

/-- Count lines, words and bytes. -/
def wc : Utility := fun _ args =>
  let flags := flagsOf "lwcmL".toList ++
    [⟨'l', "lines", false⟩, ⟨'w', "words", false⟩, ⟨'c', "bytes", false⟩, ⟨'m', "chars", false⟩,
     ⟨'L', "max-line-length", false⟩]
  withOptions flags false 1 args fun given => do
    let chosen := "lwmcL".toList.map given.has
    let chosen := if chosen.any id then chosen else [true, true, false, true, false]
    let paths := if given.operands.isEmpty then ["-"] else given.operands
    let isSingle := paths.length == 1 && (chosen.filter id).length == 1
    let (rows, status) ← paths.foldlM (fun (rows, status) path => do
      let isRegular ← if path = "-" then isRegularStream 0
        else do pure (((← Act.node? path).map FileTree.isFile).getD false)
      match ← readInput path with
      | .ok text => return ((path, some (countsOf text), isRegular) :: rows, status)
      | .error reason =>
        complain (path ++ ": " ++ reason.text)
        return ((path, if reason == .isDirectory then some [0, 0, 0, 0, 0] else none, isRegular) ::
          rows, 1)) (([] : List (String × Option (List Nat) × Bool)), 0)
    let rows := rows.reverse
    let known := rows.filterMap fun (path, counts, isRegular) =>
      counts.map fun counts => (path, counts, isRegular)
    let size := (known.map fun (_, counts, isRegular) =>
      if isRegular then counts.getD 3 0 else 0).foldl (· + ·) 0
    let least := if known.any fun (_, _, isRegular) => !isRegular then 7 else 1
    let width := if isSingle then 1 else max (toString size).length least
    let row (counts : List Nat) (path : String) : String :=
      let cells := (chosen.zip counts).filterMap fun (isChosen, count) =>
        if isChosen then some (padLeft width (toString count)) else none
      " ".intercalate cells ++ (if path = "" then "" else " " ++ path) ++ "\n"
    known.forM fun (path, counts, _) =>
      print (row counts (if given.operands.isEmpty then "" else path))
    if 1 < paths.length then
      let total := known.foldl
        (fun total (_, counts, _) =>
          [total.getD 0 0 + counts.getD 0 0, total.getD 1 0 + counts.getD 1 0,
           total.getD 2 0 + counts.getD 2 0, total.getD 3 0 + counts.getD 3 0,
           max (total.getD 4 0) (counts.getD 4 0)])
        [0, 0, 0, 0, 0]
      print (row total "total")
    return status

/-! ## Lines in other forms -/

/-- What is wrong with the options of numbering lines. The flag tells that help is offered. -/
def nlFaults (given : Given) : List (String × Bool) :=
  let numbers := [('w', "line number field width"), ('v', "starting line number"),
    ('i', "line number increment")]
  let words := [('b', "body numbering style", ["a", "t", "n"]),
    ('n', "line numbering format", ["ln", "rn", "rz"])]
  (numbers.filterMap fun (letter, what) =>
    (given.value? letter).bind fun value =>
      if (natural? value).isSome then none
      else some ("invalid " ++ what ++ ": " ++ quoted value, false)) ++
  words.filterMap fun (letter, what, known) =>
    (given.value? letter).bind fun value =>
      if known.contains value || (letter == 'b' && value.startsWith "p") then none
      else some ("invalid " ++ what ++ ": " ++ quoted value, true)

/-- Complain, with help or without. -/
def usageOrNot (fault : String × Bool) : Act Nat := do
  if fault.2 then usage fault.1
  else
    complain fault.1
    return 1

/-- Number lines. -/
def nl : Utility := fun _ args =>
  withOptions (flagsOf "b:s:w:v:n:i:h:f:pl:".toList) false 1 args fun given => do
    let style := (given.value? 'b').getD "t"
    let separator := (given.value? 's').getD "\t"
    let width := ((given.value? 'w').bind natural?).getD 6
    let first := ((given.value? 'v').bind natural?).getD 1
    let step := ((given.value? 'i').bind natural?).getD 1
    let form := (given.value? 'n').getD "rn"
    let bad := (nlFaults given).head?
    if let some text := bad then return ← usageOrNot text
    let numberText (number : Nat) : String :=
      let digits := toString number
      if form = "ln" then
        digits ++ String.ofList (List.replicate (width - digits.length) ' ')
      else if form = "rz" then String.ofList (Floating.padded width digits.toList)
      else padLeft width digits
    let (text, status) ← allInput 1 given.operands
    let (shown, _) := (linesOf text).foldl
      (fun (shown, number) line =>
        if style = "a" || (style = "t" && !line.isEmpty) then
          ((numberText number ++ separator ++ line ++ "\n") :: shown, number + step)
        else
          ((String.ofList (List.replicate (width + separator.length) ' ') ++ line ++ "\n") :: shown,
            number))
      (([] : List String), first)
    print (String.join shown.reverse)
    return status

/-- Text in pieces of a width. With blanks to break at, a piece ends behind the last one. -/
def foldLine (width : Nat) (atBlanks : Bool) : Nat → List Char → List (List Char)
  | 0, text => [text]
  | bound + 1, text =>
    if text.length ≤ width then [text]
    else
      let piece := text.take width
      let shorter := (piece.reverse.dropWhile fun c => c != ' ' && c != '\t').reverse
      let piece := if atBlanks && !shorter.isEmpty then shorter else piece
      piece :: foldLine width atBlanks bound (text.drop piece.length)

/-- Break lines that are too long. -/
def fold : Utility := fun _ args =>
  let args := args.map fun arg =>
    if 1 < arg.length && (arg.toList.drop 1).all Char.isDigit && arg.startsWith "-" then
      "-w" ++ (arg.drop 1).toString
    else arg
  withLetters "w:sb" args fun given => do
    let text := (given.value? 'w').getD "80"
    match natural? text with
    | none =>
      complain ("invalid number of columns: " ++ quoted text)
      return 1
    | some 0 =>
      complain
        ("invalid number of columns: " ++ quoted text ++ ": Numerical result out of range")
      return 1
    | some width =>
      eachInput 1 given.operands fun _ text =>
        print (String.join ((markedLines text).map fun (line, isEnded) =>
          "\n".intercalate ((foldLine width (given.has 's') line.length line.toList).map
            String.ofList) ++ (if isEnded then "\n" else "")))

/-! ## Bytes -/

/-- How bytes are dumped: the bytes of a cell, its width, and its text. -/
structure Cell where
  size : Nat
  width : Nat
  text : Nat → String

def charName (byte : Nat) : String :=
  match byte with
  | 0 => "\\0"
  | 7 => "\\a"
  | 8 => "\\b"
  | 9 => "\\t"
  | 10 => "\\n"
  | 11 => "\\v"
  | 12 => "\\f"
  | 13 => "\\r"
  | byte =>
    if 32 ≤ byte && byte < 127 then String.ofList [Char.ofNat byte]
    else String.ofList (Floating.padded 3 (Nat.toDigits 8 byte))

/-- Names of the characters that are not printed. -/
def controlNames : List String :=
  ["nul", "soh", "stx", "etx", "eot", "enq", "ack", "bel", "bs", "ht", "nl", "vt", "ff", "cr",
   "so", "si", "dle", "dc1", "dc2", "dc3", "dc4", "nak", "syn", "etb", "can", "em", "sub", "esc",
   "fs", "gs", "rs", "us", "sp"]

/-- The integer of some bytes with a sign. -/
def signedOf (size value : Nat) : Int :=
  if Nat.pow 2 (8 * size - 1) ≤ value then (value : Int) - Nat.pow 2 (8 * size) else value

def cellOf (kind : Char) (size : Nat) : Cell :=
  let inBase (base : Nat) (value : Nat) (count : Nat) : String :=
    String.ofList (Floating.padded count (Nat.toDigits base value))
  let count (base : Nat) : Nat := (Nat.toDigits base (Nat.pow 2 (8 * size) - 1)).length
  match kind with
  | 'c' => ⟨1, 4, charName⟩
  | 'a' => ⟨1, 4, fun byte =>
      let low := byte % 128
      if low = 127 then "del" else (controlNames[low]?).getD (String.ofList [Char.ofNat low])⟩
  | 'x' => ⟨size, count 16 + 1, fun value => inBase 16 value (count 16)⟩
  | 'd' => ⟨size, count 10 + 2, fun value => toString (signedOf size value)⟩
  | 'u' => ⟨size, count 10 + 1, toString⟩
  | _ => ⟨size, count 8 + 1, fun value => inBase 8 value (count 8)⟩

/-- The cells that the letters of a type name. -/
def cellsOf : Nat → List Char → List Cell
  | 0, _ => []
  | _, [] => []
  | bound + 1, kind :: rest =>
    let digits := rest.takeWhile Char.isDigit
    let size := if digits.isEmpty then
        (match rest with
          | 'C' :: _ => 1
          | 'S' :: _ => 2
          | 'L' :: _ => 8
          | _ => 4)
      else Expression.numberOf 10 digits
    let rest := if digits.isEmpty then rest.dropWhile "CSIL".toList.contains
      else rest.drop digits.length
    cellOf kind size :: cellsOf bound rest

def dumpLine (cell : Cell) (width : Nat) : Nat → List Nat → String
  | 0, _ => ""
  | _, [] => ""
  | bound + 1, bytes =>
    let value := (bytes.take cell.size).reverse.foldl (fun value byte => value * 256 + byte) 0
    padLeft width (cell.text value) ++ dumpLine cell width bound (bytes.drop cell.size)

def dumpLines (cells : List Cell) (offset : Nat → String) (perLine : Nat) (showsAll : Bool) :
    Nat → Nat → Option (List Nat) → Bool → List Nat → List String
  | 0, _, _, _, _ => []
  | bound + 1, start, last, isSkipping, bytes =>
    if bytes.isEmpty then [offset start ++ "\n"]
    else
      let here := bytes.take perLine
      let rest := bytes.drop perLine
      if last = some here && !showsAll && here.length = perLine then
        let start := start + here.length
        let more := dumpLines cells offset perLine showsAll bound start last true rest
        if isSkipping then more else "*\n" :: more
      else
        let unit := cells.foldl (fun widest cell => max widest (cell.width * 8 / cell.size)) 0
        let lines := cells.mapIdx fun index cell =>
          let front := if index = 0 then offset start
            else String.ofList (List.replicate (offset start).length ' ')
          front ++ dumpLine cell (max cell.width (unit * cell.size / 8)) here.length here ++ "\n"
        String.join lines ::
          dumpLines cells offset perLine showsAll bound (start + here.length) (some here) false rest

/-- What is wrong with the options of a dump. -/
def odFault? (given : Given) : Option String :=
  let radix := (given.value? 'A').bind fun value =>
    if ["d", "o", "x", "n"].contains value then none
    else some ("invalid output address radix " ++ quoted value ++
      "; it must be one character from [doxn]")
  let count := (given.value? 'N').bind fun value =>
    if (size? value).isSome then none else some ("invalid -N argument " ++ quoted value)
  let type := (given.value? 't').bind fun value =>
    (value.toList.find? fun c => !("acdfouxCSILDBF".toList.contains c || c.isDigit)).map fun c =>
      "invalid character " ++ quoted (String.ofList [c]) ++ " in type string " ++ quoted value
  radix <|> count <|> type

/-- Dump the bytes of files. -/
def od : Utility := fun _ args =>
  withOptions (flagsOf "A:t:cbxdosivN:j:w:aS:".toList) false 1 args fun given => do
    if let some text := odFault? given then
      complain text
      return 1
    let (text, status) ← allInput 1 given.operands
    let isMissing := status != 0 && given.operands.length == 1
    let bytes := text.toList.map Char.toNat
    let skipped := ((given.value? 'j').bind size?).getD 0
    let bytes := bytes.drop skipped
    let bytes := match (given.value? 'N').bind size? with
      | some count => bytes.take count
      | none => bytes
    let cells := given.options.flatMap fun (letter, value) =>
      match letter with
      | 't' => cellsOf value.length value.toList
      | 'c' => [cellOf 'c' 1]
      | 'a' => [cellOf 'a' 1]
      | 'b' => [cellOf 'o' 1]
      | 'x' => [cellOf 'x' 2]
      | 'd' => [cellOf 'u' 2]
      | 'o' => [cellOf 'o' 2]
      | 's' => [cellOf 'd' 2]
      | 'i' => [cellOf 'd' 4]
      | _ => []
    let cells := if cells.isEmpty then [cellOf 'o' 2] else cells
    let radix := ((given.value? 'A').getD "o").toList.head?.getD 'o'
    let offset (n : Nat) : String :=
      match radix with
      | 'n' => ""
      | 'x' => String.ofList (Floating.padded 6 (Nat.toDigits 16 n))
      | 'd' => String.ofList (Floating.padded 7 (Nat.toDigits 10 n))
      | _ => String.ofList (Floating.padded 7 (Nat.toDigits 8 n))
    let perLine := max 1 (((given.value? 'w').bind natural?).getD 16)
    let lines := dumpLines cells offset perLine (given.has 'v') (bytes.length + 1) skipped none
      false bytes
    if !isMissing then print (String.join (if radix = 'n' then lines.dropLast else lines))
    return status

end Utility

end TestCursor
