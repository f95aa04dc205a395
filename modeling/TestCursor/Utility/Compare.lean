import TestCursor.Utility.Path

/-!
# Comparing files

Programs that tell in what files differ.
-/

namespace TestCursor

open Shell

namespace Utility

/-- The first byte in which two texts differ and its line, if they differ before one ends. -/
def firstDifference : Nat → Nat → List Char → List Char → Option (Nat × Nat)
  | byte, line, x :: xs, y :: ys =>
    if x = y then firstDifference (byte + 1) (if x = '\n' then line + 1 else line) xs ys
    else some (byte, line)
  | _, _, _, _ => none

/-- The bytes in which two texts differ, with their numbers. -/
def allDifferences : Nat → List Char → List Char → List (Nat × Char × Char)
  | byte, x :: xs, y :: ys =>
    let rest := allDifferences (byte + 1) xs ys
    if x = y then rest else (byte, x, y) :: rest
  | _, _, _ => []

/-- Complain that help can be found. -/
def sayHint : Act Unit := do complain (← hintText)

/-- Compare two files byte by byte. -/
def cmp : Utility := fun _ args =>
  let flags := flagsOf "slbi:n:".toList ++
    [⟨'s', "quiet", false⟩, ⟨'s', "silent", false⟩, ⟨'l', "verbose", false⟩,
     ⟨'n', "bytes", true⟩, ⟨'i', "ignore-initial", true⟩]
  withOptionsOr sayHint flags false 2 args fun given => do
    match given.operands with
    | _ :: _ :: _ :: _ :: extra :: _ =>
      complain ("extra operand " ++ quoted extra)
      sayHint
      return 2
    | left :: more =>
      let right := more.headD "-"
      match ← readInput left, ← readInput right with
      | .ok x, .ok y =>
        let skipped := ((given.value? 'i').bind size?).getD 0
        let first (text : String) : List Char :=
          let chars := text.toList.drop skipped
          match (given.value? 'n').bind size? with
          | some count => chars.take count
          | none => chars
        let xs := first x
        let ys := first y
        if xs = ys then return 0
        else
          let isQuiet := given.has 's'
          if !isQuiet && given.has 'l' then
            let width := (toString (min xs.length ys.length)).length
            print (String.join ((allDifferences 1 xs ys).map fun (byte, c, d) =>
              let octal (c : Char) : String :=
                padLeft 3 (String.ofList (Nat.toDigits 8 c.toNat))
              padLeft width (toString byte) ++ " " ++ octal c ++ " " ++ octal d ++ "\n"))
          match firstDifference 1 1 xs ys with
          | some (byte, line) =>
            if !isQuiet && !given.has 'l' then
              print (left ++ " " ++ right ++ " differ: char " ++ toString byte ++ ", line " ++
                toString line ++ "\n")
          | none => pure ()
          let endsEarly := (firstDifference 1 1 xs ys).isNone || given.has 'l'
          if !isQuiet && endsEarly && xs.length != ys.length then
            let (short, chars) := if xs.length < ys.length then (left, xs) else (right, ys)
            let lines := chars.count '\n'
            complain ("EOF on " ++ short ++
              (if chars.isEmpty then " which is empty"
                else " after byte " ++ toString chars.length ++
                  (if given.has 'l' then ""
                    else if chars.getLast? = some '\n' then ", line " ++ toString lines
                    else ", in line " ++ toString (lines + 1))))
          return 1
      | .error reason, _ =>
        if !given.has 's' then complain (left ++ ": " ++ reason.text)
        return 2
      | _, .error reason =>
        if !given.has 's' then complain (right ++ ": " ++ reason.text)
        return 2
    | [] =>
      complain "missing operand after 'cmp'"
      sayHint
      return 2

/-! ## Lines that differ -/

/-- A line of a comparison: in both texts, only in the first one, or only in the second one. -/
inductive DiffLine
  | both
  | removed
  | added
  deriving DecidableEq, Repr

/-- For each suffix of a list, from the empty one on, the length of the longest common
subsequence with the suffixes of another one. The row of the whole list stands in front. -/
def commonRows (ys : List String) : List String → List (List Nat)
  | [] => [List.replicate (ys.length + 1) 0]
  | x :: xs =>
    let rows := commonRows ys xs
    let below := rows.headD []
    let row := (ys.zip (below.zip (below.drop 1))).foldr
      (fun (y, straight, diagonal) row =>
        (if x = y then diagonal + 1 else max straight (row.headD 0)) :: row)
      [0]
    row :: rows

/-- The lines of a comparison, read off the lengths of common subsequences. -/
def diffLines : Nat → List (List Nat) → List String → List String → List DiffLine
  | 0, _, _, _ => []
  | _, _, [], ys => ys.map fun _ => .added
  | _, _, xs, [] => xs.map fun _ => .removed
  | bound + 1, rows, x :: xs, y :: ys =>
    let diagonal := (rows.drop 1).map fun row => row.drop 1
    if x = y then .both :: diffLines bound diagonal xs ys
    else
      let below := ((rows.drop 1).headD []).headD 0
      let beside := ((rows.headD []).drop 1).headD 0
      if beside ≤ below then .removed :: diffLines bound (rows.drop 1) xs (y :: ys)
      else .added :: diffLines bound (rows.map fun row => row.drop 1) (x :: xs) ys

/-- Lines that differ: how many lines of each text stand in front, and how many lines of the one
give way to how many of the other. -/
structure Hunk where
  left : Nat
  right : Nat
  removed : Nat
  added : Nat
  deriving DecidableEq, Repr

def hunksOf : Nat → Nat → Nat → List DiffLine → List Hunk
  | 0, _, _, _ => []
  | _, _, _, [] => []
  | bound + 1, left, right, .both :: rest => hunksOf bound (left + 1) (right + 1) rest
  | bound + 1, left, right, lines =>
    let changed := lines.takeWhile (· != .both)
    let removed := changed.count .removed
    let added := changed.count .added
    ⟨left, right, removed, added⟩ ::
      hunksOf bound (left + removed) (right + added) (lines.drop changed.length)

/-- Two texts in lines, and where they differ. -/
structure Comparison where
  left : List String
  right : List String
  hunks : List Hunk

/-- How lines are compared and shown. -/
structure DiffStyle where
  ignoresCase : Bool
  /-- Blanks do not count. -/
  ignoresBlanks : Bool
  /-- How many blanks there are does not count. -/
  squeezesBlanks : Bool
  /-- Hunks of empty lines do not count. -/
  ignoresEmpty : Bool
  isBrief : Bool
  tellsSame : Bool
  isDeep : Bool
  /-- A missing file is an empty one. -/
  treatsMissing : Bool
  /-- How many lines are shown around hunks, if they are unified. -/
  context : Option Nat
  /-- The options as they were given. -/
  options : List String

def DiffStyle.keyOf (style : DiffStyle) (line : String) : String :=
  let chars := line.toList
  let isBlank (c : Char) : Bool := c == ' ' || c == '\t'
  let chars := if style.ignoresBlanks then chars.filter fun c => !isBlank c
    else if style.squeezesBlanks then squeezed isBlank false (trimmedEnd chars)
    else chars
  String.ofList (if style.ignoresCase then chars.map Char.toLower else chars)
where
  /-- A line without blanks at its end. -/
  trimmedEnd (chars : List Char) : List Char :=
    match chars.reverse with
    | '\n' :: rest => (rest.dropWhile fun c => c == ' ' || c == '\t').reverse ++ ['\n']
    | rest => (rest.dropWhile fun c => c == ' ' || c == '\t').reverse
  /-- A line whose runs of blanks are one space each. -/
  squeezed (isBlank : Char → Bool) : Bool → List Char → List Char
    | _, [] => []
    | wasBlank, c :: rest =>
      if isBlank c then (if wasBlank then [] else [' ']) ++ squeezed isBlank true rest
      else c :: squeezed isBlank false rest

/-- Compare two texts. -/
def compareLinesOf (style : DiffStyle) (x y : String) : Comparison :=
  let lines (text : String) : List String :=
    (markedLines text).map fun (line, isEnded) => if isEnded then line ++ "\n" else line
  let left := lines x
  let right := lines y
  let xs := left.map style.keyOf
  let ys := right.map style.keyOf
  let all := diffLines (xs.length + ys.length + 1) (commonRows ys xs) xs ys
  let hunks := hunksOf (all.length + 1) 0 0 all
  let isEmptyHunk (hunk : Hunk) : Bool :=
    ((left.drop hunk.left).take hunk.removed ++ (right.drop hunk.right).take hunk.added).all
      fun line => line == "\n"
  ⟨left, right, if style.ignoresEmpty then hunks.filter fun hunk => !isEmptyHunk hunk else hunks⟩

/-- A line with a mark, and a remark if it does not end. -/
def markedLine (mark line : String) : String :=
  mark ++ (if line.endsWith "\n" then line else line ++ "\n\\ No newline at end of file\n")

def markedPart (mark : String) (start count : Nat) (lines : List String) : String :=
  String.join (((lines.drop start).take count).map (markedLine mark))

/-- A range of line numbers. -/
def rangeText (start count : Nat) : String :=
  if count ≤ 1 then toString (if count = 0 then start else start + 1)
  else toString (start + 1) ++ "," ++ toString (start + count)

def Comparison.hunkText (comparison : Comparison) (hunk : Hunk) : String :=
  let letter := if hunk.removed = 0 then "a" else if hunk.added = 0 then "d" else "c"
  rangeText hunk.left hunk.removed ++ letter ++ rangeText hunk.right hunk.added ++ "\n" ++
    markedPart "< " hunk.left hunk.removed comparison.left ++
    (if hunk.removed = 0 || hunk.added = 0 then "" else "---\n") ++
    markedPart "> " hunk.right hunk.added comparison.right

/-- Hunks of which each is so near to the one before that the lines around them meet. -/
def nearHunks (context : Nat) (hunks : List Hunk) : List (List Hunk) :=
  hunks.foldr
    (fun hunk groups =>
      match groups with
      | (next :: rest) :: more =>
        if next.left ≤ hunk.left + hunk.removed + 2 * context then (hunk :: next :: rest) :: more
        else [hunk] :: (next :: rest) :: more
      | groups => [hunk] :: groups)
    []

/-- Hunks with the lines between them and around them. -/
def Comparison.unifiedText (comparison : Comparison) (context : Nat) (hunks : List Hunk) :
    String :=
  let first := hunks.headD ⟨0, 0, 0, 0⟩
  let last := hunks.getLast?.getD first
  let front := min context first.left
  let start := first.left - front
  let start' := first.right - front
  let rest := min context (comparison.left.length - (last.left + last.removed))
  let stop := last.left + last.removed + rest
  let stop' := last.right + last.added + rest
  let range (start stop : Nat) : String :=
    if stop - start = 1 then toString (start + 1)
    else toString (if stop = start then start else start + 1) ++ "," ++ toString (stop - start)
  let (body, done) := hunks.foldl
    (fun (body, done) hunk =>
      (body ++ markedPart " " done (hunk.left - done) comparison.left ++
        markedPart "-" hunk.left hunk.removed comparison.left ++
        markedPart "+" hunk.right hunk.added comparison.right, hunk.left + hunk.removed))
    ("", start)
  "@@ -" ++ range start stop ++ " +" ++ range start' stop' ++ " @@\n" ++ body ++
    markedPart " " done (stop - done) comparison.left

/-- The time of files, of which nothing is known. -/
def unknownTime : String := "1970-01-01 00:00:00.000000000 +0000"

/-- Show how two texts differ. The status tells whether they do. -/
def showDifference (style : DiffStyle) (header left right x y : String) : Act Nat := do
  let comparison := compareLinesOf style x y
  if x = y || comparison.hunks.isEmpty then
    if style.tellsSame then print ("Files " ++ left ++ " and " ++ right ++ " are identical\n")
    return 0
  else
    if style.isBrief then print ("Files " ++ left ++ " and " ++ right ++ " differ\n")
    else if x.contains '\x00' || y.contains '\x00' then
      print ("Binary files " ++ left ++ " and " ++ right ++ " differ\n")
    else
      match style.context with
      | none => print (header ++ String.join (comparison.hunks.map comparison.hunkText))
      | some context =>
        print (header ++ "--- " ++ left ++ "\t" ++ unknownTime ++ "\n+++ " ++ right ++ "\t" ++
          unknownTime ++ "\n" ++
          String.join ((nearHunks context comparison.hunks).map
            (comparison.unifiedText context)))
    return 1

/-- Compare two files. -/
def diffFiles (style : DiffStyle) (header left right : String) : Act Nat := do
  let report (path : String) (text : Except Reason String) : Act Unit := do
    match text with
    | .error reason => complain (path ++ ": " ++ reason.text)
    | .ok _ => pure ()
  let read (path : String) : Act (Except Reason String) := do
    match ← readInput path with
    | .error .notFound => if style.treatsMissing then return .ok "" else return .error .notFound
    | text => return text
  match ← read left, ← read right with
  | .ok x, .ok y => showDifference style header left right x y
  | x, y =>
    report left x
    report right y
    return 2

/-- Compare two directories, at most so deep. -/
def diffDirectories (style : DiffStyle) : Nat → String → String → Act Nat
  | 0, _, _ => return 2
  | depth + 1, left, right => do
    let namesIn (path : String) : Act (List String) := do
      return (((← Act.node? path).map FileTree.entries).getD []).map fun (name, _) =>
        Octets.encode name
    let lefts ← namesIn left
    let rights ← namesIn right
    let names := ((lefts ++ rights).eraseDups).mergeSort fun x y => decide (x ≤ y)
    names.foldlM (fun status name => do
      let x := childPath left name
      let y := childPath right name
      let header := "diff " ++ String.join (style.options.map fun option => option ++ " ") ++ x ++
        " " ++ y ++ "\n"
      let isDir (path : String) : Act Bool := do
        return ((← Act.node? path).map FileTree.isDir).getD false
      let only (directory : String) : Act Nat := do
        print ("Only in " ++ directory ++ ": " ++ name ++ "\n")
        return 1
      let found : Nat ←
        if !rights.contains name && !style.treatsMissing then only left
        else if !lefts.contains name && !style.treatsMissing then only right
        else
          match ← isDir x, ← isDir y with
          | true, true =>
            if style.isDeep then diffDirectories style depth x y
            else do
              print ("Common subdirectories: " ++ x ++ " and " ++ y ++ "\n")
              pure 0
          | false, false => diffFiles style header x y
          | isLeft, _ =>
            if style.treatsMissing && style.isDeep && !(lefts.contains name && rights.contains name)
            then diffDirectories style depth x y
            else do
              let kind (isDir : Bool) : String := if isDir then "directory" else "regular file"
              print ("File " ++ x ++ " is a " ++ kind isLeft ++ " while file " ++ y ++ " is a " ++
                kind (!isLeft) ++ "\n")
              pure 1
      return max status found) 0

/-- The options in front of the operands, as they were given. -/
def optionWords (args : List String) : List String :=
  args.filter fun arg => arg.startsWith "-" && 1 < arg.length

/-- Compare two files line by line. -/
def diff : Utility := fun _ args =>
  let flags := flagsOf "qsruNbwiBU:adt".toList ++
    [⟨'q', "brief", false⟩, ⟨'s', "report-identical-files", false⟩, ⟨'r', "recursive", false⟩,
     ⟨'N', "new-file", false⟩, ⟨'u', "unified", false⟩, ⟨'i', "ignore-case", false⟩,
     ⟨'w', "ignore-all-space", false⟩, ⟨'b', "ignore-space-change", false⟩,
     ⟨'B', "ignore-blank-lines", false⟩, ⟨'!', "normal", false⟩, ⟨'!', "color", false⟩]
  withOptionsOr sayHint flags false 2 args fun given => do
    let fail (text : String) : Act Nat := do
      complain text
      sayHint
      return 2
    let style : DiffStyle :=
      { ignoresCase := given.has 'i', ignoresBlanks := given.has 'w'
        squeezesBlanks := given.has 'b', ignoresEmpty := given.has 'B', isBrief := given.has 'q'
        tellsSame := given.has 's', isDeep := given.has 'r', treatsMissing := given.has 'N'
        context := match (given.value? 'U').bind natural? with
          | some count => some count
          | none => if given.has 'u' then some 3 else none
        options := optionWords args }
    match given.operands with
    | [left, right] =>
      let isDir (path : String) : Act Bool := do
        return ((← Act.node? path).map FileTree.isDir).getD false
      match ← isDir left, ← isDir right with
      | true, true => diffDirectories style maxTreeDepth left right
      | true, false => diffFiles style "" (childPath left (baseOf right)) right
      | false, true => diffFiles style "" left (childPath right (baseOf left))
      | false, false => diffFiles style "" left right
    | _ :: _ :: extra :: _ => fail ("extra operand " ++ quoted extra)
    | operands => fail ("missing operand after " ++ quoted (operands.getLast?.getD "diff"))

/-! ## Sorted files -/

/-- Reading on behind the first of some lines shows that they are not in order. Where nothing
follows, the line before them is looked at again. -/
def showsDisorder (before : Option String) : List String → Bool
  | line :: next :: _ => decide (next < line)
  | [line] => before.any fun other => decide (line < other)
  | [] => false

/-- The lines of two sorted texts in columns: those of the first only, of the second only, and of
both. With them come the numbers of the texts that were seen not to be in order, which is looked
at as soon as two lines differ. Each text has the line before what is left of it. -/
def mergeColumns :
    Nat → Bool → Option String × List String → Option String × List String →
      List (Nat × String) × List Nat
  | 0, _, _, _ => ([], [])
  | bound + 1, differs, left, right =>
    let order? : Option Ordering := match left.2, right.2 with
      | [], [] => none
      | [], _ => some .gt
      | _, [] => some .lt
      | x :: _, y :: _ => some (compare x y)
    match order? with
    | none => ([], [])
    | some order =>
      let differs := differs || order != .eq
      let entry : Nat × String := match order with
        | .lt => (0, left.2.headD "")
        | .gt => (1, right.2.headD "")
        | .eq => (2, left.2.headD "")
      let advance (goesOn : Bool) (text : Option String × List String) :
          Option String × List String :=
        if goesOn then (text.2.head?, text.2.drop 1) else text
      let complaint (goesOn : Bool) (number : Nat) (text : Option String × List String) :
          List Nat :=
        if goesOn && differs && showsDisorder text.1 text.2 then [number] else []
      let (entries, complaints) := mergeColumns bound differs (advance (order != .gt) left)
        (advance (order != .lt) right)
      (entry :: entries,
        complaint (order != .gt) 1 left ++ complaint (order != .lt) 2 right ++ complaints)

/-- Compare two sorted files line by line. -/
def comm : Utility := fun _ args =>
  let flags := flagsOf "123z".toList ++
    [⟨'D', "output-delimiter", true⟩, ⟨'N', "nocheck-order", false⟩, ⟨'O', "check-order", false⟩,
     ⟨'T', "total", false⟩]
  withOptions flags false 1 args fun given => do
    match given.operands with
    | [left, right] =>
      match ← readInput left, ← readInput right with
      | .ok x, .ok y =>
        let xs := linesOf x
        let ys := linesOf y
        let hidden := [given.has '1', given.has '2', given.has '3']
        let delimiter := (given.value? 'D').getD "\t"
        let indent (column : Nat) : String :=
          String.join ((hidden.take column).map fun isHidden => if isHidden then "" else delimiter)
        let (entries, complaints) :=
          mergeColumns (xs.length + ys.length + 1) (given.has 'O') (none, xs) (none, ys)
        print (String.join (entries.filterMap fun (column, line) =>
          if hidden.getD column false then none else some (indent column ++ line ++ "\n")))
        if given.has 'T' then
          let counts := [0, 1, 2].map fun column =>
            toString ((entries.filter fun entry => entry.1 == column).length)
          print (delimiter.intercalate (counts ++ ["total"]) ++ "\n")
        let complaints := if given.has 'N' then [] else complaints.eraseDups
        complaints.forM fun number =>
          complain ("file " ++ toString number ++ " is not in sorted order")
        if complaints.isEmpty then return 0
        else
          complain "input is not in sorted order"
          return 1
      | .error reason, _ =>
        complain (left ++ ": " ++ reason.text)
        return 1
      | _, .error reason =>
        complain (right ++ ": " ++ reason.text)
        return 1
    | operands =>
      usage (match operands with
        | [] => "missing operand"
        | [single] => "missing operand after " ++ quoted single
        | _ => "extra operand " ++ quoted (operands.getD 2 ""))

end Utility

end TestCursor
