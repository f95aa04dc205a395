import TestCursor.Utility.Basic

/-!
# Columns

Programs that take lines apart into fields and that join lines side by side.
-/

namespace TestCursor

open Shell

namespace Utility

/-! ## Fields -/

/-- Skip a field without a separator: blanks, and what follows them. -/
def skipBlankField (text : List Char) : List Char :=
  let isBlank (c : Char) : Bool := c == ' ' || c == '\t'
  (text.dropWhile isBlank).dropWhile fun c => !isBlank c

/-- What is left of a line behind so many fields. -/
def behindFields (separator : Option Char) : Nat → List Char → List Char
  | 0, text => text
  | count + 1, text =>
    match separator with
    | some c => behindFields separator count ((text.dropWhile (· != c)).drop 1)
    | none => behindFields separator count (skipBlankField text)

/-- The first file that could not be read, and why. -/
def failureAmong? (texts : List (String × Except Reason String)) : Option (String × Reason) :=
  texts.findSome? fun (path, text) => match text with
    | .error reason => some (path, reason)
    | .ok _ => none

/-- A range of a list of numbers; without an end it has no upper bound. -/
structure NumberRange where
  low : Nat
  high : Option Nat

/-- How far reading ranges has come in one of them. -/
structure RangeReading where
  /-- The digits in front of the dash. -/
  low : List Char
  hasDash : Bool
  /-- The digits behind it. -/
  high : List Char

def RangeReading.start : RangeReading := ⟨[], false, []⟩

/-- What is wrong with a list of numbers. -/
inductive RangeFault
  | zero
  | noEnd
  | decreasing
  | twoDashes
  /-- A character stands there that no number has. -/
  | badValue (text : String)

def RangeReading.range (reading : RangeReading) : Except RangeFault NumberRange :=
  let low := Expression.numberOf 10 reading.low
  let high := Expression.numberOf 10 reading.high
  if !reading.hasDash then if low = 0 then .error .zero else .ok ⟨low, some low⟩
  else if reading.low.isEmpty && reading.high.isEmpty then .error .noEnd
  else
    let low := if reading.low.isEmpty then 1 else low
    if reading.high.isEmpty then .ok ⟨low, none⟩
    else if high < low then .error .decreasing
    else .ok ⟨low, some high⟩

def rangesFrom : RangeReading → List Char → Except RangeFault (List NumberRange)
  | reading, [] => reading.range.map fun range => [range]
  | reading, c :: rest =>
    if c = '-' then
      if reading.hasDash then .error .twoDashes
      else if !reading.low.isEmpty && Expression.numberOf 10 reading.low = 0 then .error .zero
      else rangesFrom { reading with hasDash := true } rest
    else if c = ',' || c = ' ' || c = '\t' then do
      let range ← reading.range
      let ranges ← rangesFrom .start rest
      return range :: ranges
    else if c.isDigit then
      rangesFrom (if reading.hasDash then { reading with high := reading.high ++ [c] }
        else { reading with low := reading.low ++ [c] }) rest
    else .error (.badValue (String.ofList (c :: rest)))

/-- What is wrong with a list of numbers of fields or characters in words. -/
def RangeFault.text (areFields : Bool) : RangeFault → String
  | .zero =>
    (if areFields then "fields" else "byte/character positions") ++ " are numbered from 1"
  | .noEnd => "invalid range with no endpoint: -"
  | .decreasing => "invalid decreasing range"
  | .twoDashes => if areFields then "invalid field range" else "invalid byte or character range"
  | .badValue text =>
    "invalid " ++ (if areFields then "field value " else "byte/character position ") ++ quoted text

def inRanges (ranges : List NumberRange) (number : Nat) : Bool :=
  ranges.any fun range =>
    range.low ≤ number && (range.high.map fun high => decide (number ≤ high)).getD true

def chosen {α : Type} (ranges : List NumberRange) (isInverted : Bool) (elements : List α) :
    List α :=
  ((elements.zipIdx 1).filter fun entry => inRanges ranges entry.2 != isInverted).map Prod.fst

/-- Print parts of lines. -/
def cut : Utility := fun _ args =>
  let flags := flagsOf "b:c:f:d:nsz".toList ++
    [⟨'b', "bytes", true⟩, ⟨'c', "characters", true⟩, ⟨'f', "fields", true⟩,
     ⟨'d', "delimiter", true⟩, ⟨'s', "only-delimited", false⟩, ⟨'!', "complement", false⟩,
     ⟨'O', "output-delimiter", true⟩]
  withOptions flags false 1 args fun given => do
    let lists := given.options.filter fun entry => "bcf".toList.contains entry.1
    match lists with
    | [] => usage "you must specify a list of bytes, characters, or fields"
    | _ :: _ :: _ => usage "only one list may be specified"
    | [(letter, text)] =>
      let delimiter := (given.value? 'd').getD "\t"
      if 1 < delimiter.length then usage "the delimiter must be a single character"
      else if given.has 'd' && letter != 'f' then
        usage "an input delimiter may be specified only when operating on fields"
      else if given.has 's' && letter != 'f' then
        usage "suppressing non-delimited lines makes sense\n\tonly when operating on fields"
      else
        match rangesFrom .start text.toList with
        | .error fault => usage (fault.text (letter == 'f'))
        | .ok ranges =>
          let c := (delimiter.toList.head?).getD '\x00'
          let isInverted := given.has '!'
          eachInput 1 given.operands fun _ text =>
            print (String.join ((linesOf text).map fun line =>
              if letter = 'f' then
                if line.contains c then
                  let fields := (splitOn c line.toList).map String.ofList
                  let between := (given.value? 'O').getD (String.ofList [c])
                  between.intercalate (chosen ranges isInverted fields) ++ "\n"
                else if given.has 's' then ""
                else line ++ "\n"
              else String.ofList (chosen ranges isInverted line.toList) ++ "\n"))

/-- Delimiters with their escapes replaced. -/
def delimitersOf : List Char → List String
  | [] => []
  | '\\' :: c :: rest =>
    (match c with
      | 'n' => "\n"
      | 't' => "\t"
      | '0' => ""
      | c => String.ofList [c]) :: delimitersOf rest
  | c :: rest => String.ofList [c] :: delimitersOf rest

def joinInTurn (delimiters : List String) : Nat → List String → String
  | _, [] => ""
  | _, [text] => text
  | index, text :: rest =>
    text ++ (delimiters.getD (index % max 1 delimiters.length) "") ++
      joinInTurn delimiters (index + 1) rest

/-- Join lines of files side by side. -/
def paste : Utility := fun _ args =>
  let flags := flagsOf "d:sz".toList ++ [⟨'d', "delimiters", true⟩, ⟨'s', "serial", false⟩]
  withOptions flags false 1 args fun given => do
    let delimiters := delimitersOf ((given.value? 'd').getD "\t").toList
    let paths := if given.operands.isEmpty then ["-"] else given.operands
    let sources ← paths.mapM fun path => do
      if path = "-" then return (path, .ok "") else return (path, ← readInput path)
    match failureAmong? sources with
    | some (path, reason) =>
      complain (path ++ ": " ++ reason.text)
      return 1
    | none =>
      let input ← if paths.contains "-" then readAllInput else pure ""
      let shared := linesOf input
      let dashes := (paths.filter (· == "-")).length
      let columns := (sources.foldl
        (fun (columns, seen) (path, text) =>
          if path = "-" then
            let own := (shared.zipIdx.filter fun entry => entry.2 % dashes == seen).map Prod.fst
            (own :: columns, seen + 1)
          else
            (linesOf (match text with
              | .ok text => text
              | .error _ => "") :: columns, seen))
        (([] : List (List String)), 0)).1.reverse
      if given.has 's' then
        columns.forM fun column => print (joinInTurn delimiters 0 column ++ "\n")
      else
        let height := columns.foldl (fun height column => max height column.length) 0
        print (String.join ((List.range height).map fun row =>
          joinInTurn delimiters 0 (columns.map fun column => column.getD row "") ++ "\n"))
      return 0

/-! ## Joining by fields -/

/-- A line taken apart, with the field by which it is joined. -/
structure JoinRecord where
  line : String
  key : String
  fields : List String

/-- A field of a pair of lines that is shown: the one they are joined by, or one of a file. -/
inductive JoinField
  | key
  | ofFile (file index : Nat)

def joinFields? (text : String) : Option (List JoinField) :=
  ((text.splitOn ",").flatMap fun part => part.splitOn " ").mapM fun part =>
    match part.splitOn "." with
    | ["0"] => some .key
    | [file, field] => do
      let file ← natural? file
      let field ← natural? field
      if (file = 1 || file = 2) && field != 0 then some (.ofFile file (field - 1)) else none
    | _ => none

/-- What is shown of files that are joined. -/
structure JoinStyle where
  separator : Option Char
  ignoresCase : Bool
  filler : String
  format : Option (List JoinField)
  /-- For each file, the number of the field by which it is joined, from zero on. -/
  indices : Nat × Nat
  showsPairs : Bool
  /-- For each file, whether its lines without a partner are shown. -/
  showsSingles : Bool × Bool

/-- A line taken apart. -/
def JoinStyle.recordOf (style : JoinStyle) (index : Nat) (line : String) : JoinRecord :=
  let fields := match style.separator with
    | some c => (splitOn c line.toList).map String.ofList
    | none => ((line.toList.splitBy fun x y => isBlank x == isBlank y).filter fun piece =>
        !(piece.head?.map isBlank).getD true).map String.ofList
  let key := fields.getD index ""
  ⟨line, if style.ignoresCase then key.map Char.toUpper else key, fields⟩
where
  /-- The character separates fields. -/
  isBlank (c : Char) : Bool := c == ' ' || c == '\t'

/-- The line for two that belong together, or for one alone. -/
def JoinStyle.lineOf (style : JoinStyle) (x y : Option JoinRecord) : String :=
  let fieldsOf (record : Option JoinRecord) : List String := (record.map JoinRecord.fields).getD []
  let key := match x, y with
    | some x, _ => x.fields.getD style.indices.1 ""
    | none, some y => y.fields.getD style.indices.2 ""
    | none, none => ""
  let filled (text : Option String) : String :=
    match text with
    | some "" | none => style.filler
    | some text => text
  let shown := match style.format with
    | some format => format.map fun
      | .key => filled (some key)
      | .ofFile 1 index => filled (fieldsOf x)[index]?
      | .ofFile _ index => filled (fieldsOf y)[index]?
    | none =>
      let others (fields : List String) (index : Nat) : List String := fields.eraseIdx index
      key :: ((others (fieldsOf x) style.indices.1) ++ others (fieldsOf y) style.indices.2)
  (String.ofList [style.separator.getD ' ']).intercalate shown ++ "\n"

/-- The lines of two sorted files joined, and whether all had a partner. -/
def JoinStyle.joined (style : JoinStyle) :
    Nat → List JoinRecord → List JoinRecord → List String × Bool
  | bound + 1, x :: xs, y :: ys =>
    let single (isShown : Bool) (line : String) (rest : List String × Bool) : List String × Bool :=
      (if isShown then line :: rest.1 else rest.1, false)
    match compare x.key y.key with
    | .lt => single style.showsSingles.1 (style.lineOf (some x) none)
        (joined style bound xs (y :: ys))
    | .gt => single style.showsSingles.2 (style.lineOf none (some y))
        (joined style bound (x :: xs) ys)
    | .eq =>
      let lefts := (x :: xs).takeWhile fun record => record.key == x.key
      let rights := (y :: ys).takeWhile fun record => record.key == y.key
      let pairs := if style.showsPairs then
          lefts.flatMap fun left => rights.map fun right => style.lineOf (some left) (some right)
        else []
      let (rest, isComplete) := joined style bound ((x :: xs).drop lefts.length)
        ((y :: ys).drop rights.length)
      (pairs ++ rest, isComplete)
  | _, xs, ys =>
    ((if style.showsSingles.1 then xs.map fun x => style.lineOf (some x) none else []) ++
      (if style.showsSingles.2 then ys.map fun y => style.lineOf none (some y) else []),
      xs.isEmpty && ys.isEmpty)

/-- The first line that does not stand in order, with its number. -/
def firstDisorder (records : List JoinRecord) : Option (Nat × String) :=
  ((records.zip (records.drop 1)).zipIdx 2).findSome? fun ((x, y), number) =>
    if y.key < x.key then some (number, y.line) else none

/-- Join lines of two sorted files by a field. -/
def join : Utility := fun _ args =>
  let flags := flagsOf "a:v:e:ij:o:t:1:2:z".toList ++
    [⟨'i', "ignore-case", false⟩, ⟨'N', "nocheck-order", false⟩, ⟨'C', "check-order", false⟩]
  withOptions flags false 1 args fun given => do
    let indexText (letter : Char) : String :=
      ((given.value? letter).orElse fun _ => given.value? 'j').getD "1"
    let index (letter : Char) : Nat := ((natural? (indexText letter)).getD 1) - 1
    let isBad (letter : Char) : Bool := (natural? (indexText letter)).getD 0 == 0
    let hasSingles (file : String) : Bool :=
      (given.values 'a').contains file || (given.values 'v').contains file
    let style : JoinStyle :=
      { separator := (given.value? 't').bind fun text =>
          if text = "\\t" then some '\t' else text.toList.head?
        ignoresCase := given.has 'i', filler := (given.value? 'e').getD ""
        format := ((given.values 'o').mapM joinFields?).bind fun formats =>
          if formats.isEmpty then none else some formats.flatten
        indices := (index '1', index '2'), showsPairs := (given.values 'v').isEmpty
        showsSingles := (hasSingles "1", hasSingles "2") }
    match (['1', '2'].find? isBad), given.operands with
    | some letter, _ =>
      complain ("invalid field number: " ++ quoted (indexText letter))
      return 1
    | none, [left, right] =>
      match ← readInput left, ← readInput right with
      | .ok x, .ok y =>
        let xs := (linesOf x).map (style.recordOf style.indices.1)
        let ys := (linesOf y).map (style.recordOf style.indices.2)
        let (lines, isComplete) := style.joined (xs.length + ys.length + 1) xs ys
        print (String.join lines)
        let complaints := if isComplete || given.has 'N' then [] else
          [(left, xs), (right, ys)].filterMap fun (path, records) =>
            (firstDisorder records).map fun (number, line) =>
              path ++ ":" ++ toString number ++ ": is not sorted: " ++ line
        complaints.forM complain
        if complaints.isEmpty then return 0
        else
          complain "input is not in sorted order"
          return 1
      | .error reason, _ =>
        complain (left ++ ": " ++ reason.text)
        return 1
      | _, .error reason =>
        complain (right ++ ": " ++ reason.text)
        return 1
    | none, [] => usage "missing operand"
    | none, [single] => usage ("missing operand after " ++ quoted single)
    | none, _ :: _ :: extra :: _ => usage ("extra operand " ++ quoted extra)

/-! ## Tab stops -/

/-- Where tabs lead: to multiples of a number, or to some columns. -/
inductive TabStops
  | every (width : Nat)
  | among (columns : List Nat)

namespace TabStops

def ofText? (text : String) : Option TabStops := do
  let numbers ← (((text.splitOn ",").flatMap fun part => part.splitOn " ").filter
    (· != "")).mapM natural?
  match numbers with
  | [] => some (.every 8)
  | [width] => if width = 0 then none else some (.every width)
  | columns => some (.among columns)

/-- The next tab stop behind a column, if there is one. -/
def next? (stops : TabStops) (column : Nat) : Option Nat :=
  match stops with
  | .every width => some ((column / width + 1) * width)
  | .among columns => columns.find? fun stop => column < stop

/-- A text with spaces in the place of tabs. -/
def expanded (stops : TabStops) (onlyInitial : Bool) : Nat → Bool → List Char → List Char
  | _, _, [] => []
  | column, isInitial, c :: rest =>
    if c = '\t' && (isInitial || !onlyInitial) then
      let goal := (stops.next? column).getD (column + 1)
      List.replicate (goal - column) ' ' ++ expanded stops onlyInitial goal isInitial rest
    else if c = '\n' then c :: expanded stops onlyInitial 0 true rest
    else
      let column := if c = '\x08' then column - 1
        else if c = '\t' then (stops.next? column).getD (column + 1)
        else column + 1
      c :: expanded stops onlyInitial column (isInitial && (c == ' ' || c == '\t')) rest

/-- What is known where blanks are replaced by tabs. -/
structure Pending where
  column : Nat
  /-- The blanks of which it is not known what becomes of them, in reverse. -/
  blanks : List Char
  wasBlank : Bool
  /-- The first of them stands just before a tab stop. -/
  isLoneBlank : Bool
  isInitial : Bool

/-- The beginning of a line. -/
def Pending.start : Pending := ⟨0, [], true, false, true⟩

/-- A text with tabs in the place of blanks that lead to tab stops. -/
def contracted (stops : TabStops) (onlyInitial : Bool) : Pending → List Char → List Char
  | state, [] => state.blanks.reverse
  | state, c :: rest =>
    if c = '\n' then state.blanks.reverse ++ c :: contracted stops onlyInitial .start rest
    else if onlyInitial && !state.isInitial then
      state.blanks.reverse ++ c :: contracted stops onlyInitial { state with blanks := [] } rest
    else if c != ' ' && c != '\t' then
      let column := if c = '\x08' then state.column - 1 else state.column + 1
      state.blanks.reverse ++ c ::
        contracted stops onlyInitial ⟨column, [], false, false, false⟩ rest
    else
      match stops.next? state.column with
      | none =>
        state.blanks.reverse ++ c :: contracted stops onlyInitial
          { state with column := state.column + 1, blanks := [], wasBlank := true } rest
      | some stop =>
        let isTab := c == '\t'
        let column := if isTab then stop else state.column + 1
        if !isTab && !(state.wasBlank && column == stop) then
          contracted stops onlyInitial
            { state with
              column := column, blanks := ' ' :: state.blanks, wasBlank := true
              isLoneBlank := state.isLoneBlank || column == stop } rest
        else
          let kept := if state.isLoneBlank then ['\t'] else []
          kept ++ '\t' :: contracted stops onlyInitial
            { state with column := column, blanks := [], wasBlank := true, isLoneBlank := false }
            rest

end TabStops

/-- Change the tabs of files, with the tab stops that an option names. -/
def withTabStops (given : Given) (change : TabStops → List Char → List Char) : Act Nat := do
  match TabStops.ofText? ((given.value? 't').getD "8") with
  | none =>
    complain (if given.value? 't' = some "0" then "tab size cannot be 0"
      else "tab size contains invalid character(s): " ++ quoted ((given.value? 't').getD ""))
    return 1
  | some stops =>
    eachInput 1 given.operands fun _ text =>
      print (String.ofList (change stops text.toList))

/-- Arguments in which numbers of columns are values of an option. -/
def tabArguments (args : List String) : List String :=
  args.map fun arg =>
    if 1 < arg.length && arg.startsWith "-" && (arg.toList.drop 1).all Char.isDigit then
      "-t" ++ (arg.drop 1).toString
    else arg

/-- Put spaces in the place of tabs. -/
def expand : Utility := fun _ args =>
  let flags := flagsOf "it:".toList ++ [⟨'i', "initial", false⟩, ⟨'t', "tabs", true⟩]
  withOptions flags false 1 (tabArguments args) fun given =>
    withTabStops given fun stops text => stops.expanded (given.has 'i') 0 true text

/-- Put tabs in the place of blanks. -/
def unexpand : Utility := fun _ args =>
  let flags := flagsOf "at:".toList ++
    [⟨'a', "all", false⟩, ⟨'f', "first-only", false⟩, ⟨'t', "tabs", true⟩]
  withOptions flags false 1 (tabArguments args) fun given =>
    let onlyInitial := given.has 'f' || !(given.has 'a' || given.has 't')
    withTabStops given fun stops text => stops.contracted onlyInitial .start text

end Utility

end TestCursor
