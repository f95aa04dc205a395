import TestCursor.Utility.Date
import TestCursor.Utility.Format
import TestCursor.Utility.Path

/-!
# Listings

Programs that show the entries of directories and the properties of files.
-/

namespace TestCursor

open Shell

namespace Utility

def kindLetter : FileTree → Char
  | .file _ _ => '-'
  | .dir _ => 'd'
  | .link _ => 'l'
  | .device (.stream _) => 'p'
  | .device _ => 'c'

/-- The letters for permission bits: three for each class of users. -/
def bitsText (bits : Nat) : String :=
  let triple (bits : Nat) (isSpecial : Bool) (runs none : Char) : List Char :=
    [if bits &&& 4 != 0 then 'r' else '-', if bits &&& 2 != 0 then 'w' else '-',
     match isSpecial, bits &&& 1 != 0 with
     | true, true => runs
     | true, false => none
     | false, true => 'x'
     | false, false => '-']
  String.ofList (triple (bits / 64 % 8) (bits &&& 0o4000 != 0) 's' 'S' ++
    triple (bits / 8 % 8) (bits &&& 0o2000 != 0) 's' 'S' ++
    triple (bits % 8) (bits &&& 0o1000 != 0) 't' 'T')

/-- The letters for a node and its permission bits. -/
def modeText (node : FileTree) (bits : Nat) : String :=
  String.ofList [kindLetter node] ++ bitsText bits

def sizeOf : FileTree → Nat
  | .file content _ => content.size
  | .dir _ => 4096
  | .link target => target.utf8ByteSize
  | .device _ => 0

/-- How entries that are not described are laid out. -/
inductive Layout
  | lines
  | commas
  /-- In columns, one below the other. -/
  | down
  /-- In columns, one beside the other. -/
  | across
  deriving DecidableEq, Repr

structure ListStyle where
  showsAll : Bool
  showsHidden : Bool
  isLong : Bool
  marks : Option Char
  isReversed : Bool
  isDeep : Bool
  isQuoted : Bool
  bySize : Bool
  byTime : Bool
  showsBlocks : Bool
  layout : Layout

/-- The mark behind a name that tells what it names. -/
def markOf (style : ListStyle) (node : FileTree) : String :=
  match style.marks, node with
  | some _, .dir _ => "/"
  | some 'F', .link _ => "@"
  | some 'F', .file _ mode => if mode &&& 0o111 != 0 then "*" else ""
  | _, _ => ""

/-- The space that a node takes, in units of 1024 bytes. -/
def blocksOf : FileTree → Nat
  | .file content _ => (content.size + 4095) / 4096 * 4
  | .dir _ => 4
  | .link _ | .device _ => 0

structure Listed where
  name : String
  place : Location
  node : FileTree

/-- How many seconds the clock is shown for a change, and not the year. -/
def recentSeconds : Int := 15778476

/-- When something changed, as long lines show it. -/
def changeText (now time : ChangeTime) : String :=
  let moment := Moment.ofSeconds time.seconds
  let isRecent := time.seconds ≤ now.seconds && now.seconds - recentSeconds < time.seconds
  momentText moment 20 (if isRecent then "%b %e %H:%M" else "%b %e  %Y").toList

def entryLine (attributes : Attributes) (style : ListStyle) (widths : Nat × Nat) (entry : Listed) :
    String :=
  let name := if style.isQuoted then "\"" ++ entry.name ++ "\"" else entry.name
  if style.isLong then
    let target := match entry.node with
      | .link target => " -> " ++ Octets.encode target
      | _ => ""
    let (place, node) := (entry.place, entry.node)
    modeText node (attributes.bitsOf place node) ++ " " ++
      padLeft widths.1 (toString (attributes.nameCount place node)) ++ " root root " ++
      padLeft widths.2 (toString (sizeOf node)) ++ " " ++
      changeText attributes.now (attributes.timeOf place) ++ " " ++ name ++
      (if target.isEmpty then markOf style node else "") ++ target
  else name ++ markOf style entry.node

def inOrder (attributes : Attributes) (style : ListStyle) (entries : List Listed) : List Listed :=
  let sorted := entries.mergeSort fun x y => decide (x.name ≤ y.name)
  let sorted := if style.byTime then
      sorted.mergeSort fun x y =>
        !(attributes.timeOf y.place).isAfter (attributes.timeOf x.place)
    else if style.bySize then
      sorted.mergeSort fun x y => decide (sizeOf y.node ≤ sizeOf x.node)
    else sorted
  if style.isReversed then sorted.reverse else sorted

/-! ### Columns -/

def lineWidth : Nat := 80

/-- The widths of so many columns that hold texts, each with a gap but the last one. -/
def columnWidths (isDown : Bool) (texts : List String) (count : Nat) : List Nat :=
  let rows := (texts.length + count - 1) / count
  (List.range count).map fun column =>
    let own := texts.zipIdx.filter fun (_, index) =>
      (if isDown then index / rows else index % count) == column
    let gap := if column + 1 = count then 0 else 2
    own.foldl (fun width (text, _) => max width (text.length + gap)) 3

/-- The widths of as many columns as fit in a line. -/
def fittingWidths (isDown : Bool) (texts : List String) : List Nat :=
  let most := min texts.length ((lineWidth + 2) / 3)
  let tries := ((List.range most).reverse.map (· + 1)).map (columnWidths isDown texts)
  let fits (widths : List Nat) : Bool := widths.length = 1 || widths.foldl (· + ·) 0 < lineWidth
  (tries.find? fits).getD [lineWidth]

/-- The blanks from a column to another one. Tabs stand for as many of them as they can. -/
def blanksBetween : Nat → Nat → Nat → String
  | 0, _, _ => ""
  | bound + 1, start, stop =>
    if stop ≤ start then ""
    else if (start + 1) / 8 < stop / 8 then
      "\t" ++ blanksBetween bound (start + 8 - start % 8) stop
    else " " ++ blanksBetween bound (start + 1) stop

/-- Texts of a row in columns, from a position on. -/
def rowText : Nat → List String → List Nat → String
  | position, text :: more, width :: widths =>
    let rest := if more.isEmpty then ""
      else blanksBetween width (position + text.length) (position + width) ++
        rowText (position + width) more widths
    text ++ rest
  | _, _, _ => ""

def inColumns (isDown : Bool) (texts : List String) : String :=
  let widths := fittingWidths isDown texts
  let count := widths.length
  let rows := (texts.length + count - 1) / count
  unlines ((List.range rows).map fun row =>
    let own := texts.zipIdx.filter fun (_, index) =>
      (if isDown then index % rows else index / count) == row
    rowText 0 (own.map Prod.fst) widths)

def listed (attributes : Attributes) (style : ListStyle) (entries : List Listed) : String :=
  let sorted := inOrder attributes style entries
  let widest (numbers : List Nat) : Nat :=
    numbers.foldl (fun width number => max width (toString number).length) 0
  let width := widest (sorted.map fun entry => blocksOf entry.node)
  let widths := (widest (sorted.map fun entry => attributes.nameCount entry.place entry.node),
    widest (sorted.map fun entry => sizeOf entry.node))
  let texts := sorted.map fun entry =>
    (if style.showsBlocks then padLeft width (toString (blocksOf entry.node)) ++ " " else "") ++
      entryLine attributes style widths entry
  if style.isLong || texts.isEmpty then unlines texts
  else
    match style.layout with
    | .lines => unlines texts
    | .commas => ", ".intercalate texts ++ "\n"
    | .down => inColumns true texts
    | .across => inColumns false texts

def shownEntries (style : ListStyle) (place : Location) (node : FileTree) : List Listed :=
  let own : List Listed := node.entries.map fun (name, child) =>
    ⟨Octets.encode name, place ++ [name], child⟩
  let own := if style.showsAll || style.showsHidden then own
    else own.filter fun entry => entry.name.toList.head? != some '.'
  if style.showsAll then ⟨".", place, node⟩ :: ⟨"..", place.dropLast, FileTree.empty⟩ :: own
  else own

/-- The listings of a directory and, if asked for, of those below it, at most so deep. -/
def listings (attributes : Attributes) (style : ListStyle) :
    Nat → String → Location → FileTree → List (String × String)
  | 0, _, _, _ => []
  | depth + 1, path, place, node =>
    let entries := shownEntries style place node
    let total := if style.isLong || style.showsBlocks then
        let blocks := (entries.map fun entry => blocksOf entry.node).foldl (· + ·) 0
        "total " ++ toString blocks ++ "\n"
      else ""
    (path, total ++ listed attributes style entries) ::
      if style.isDeep then
        (inOrder attributes style
          (shownEntries { style with showsAll := false, showsHidden := style.showsAll } place
            node)).flatMap
          fun entry =>
            if entry.node.isDir then
              listings attributes style depth (childPath path entry.name) entry.place entry.node
            else []
      else []

/-- What options ask for about the layout. The last one counts. -/
def layoutOf (usual : Layout) (given : Given) : Layout :=
  match given.options.reverse.find? fun entry => "1mCx".toList.contains entry.1 with
  | some ('1', _) => .lines
  | some ('m', _) => .commas
  | some ('C', _) => .down
  | some ('x', _) => .across
  | _ => usual

/-- List directories, in a layout if nothing else is asked for. -/
def listProgram (usual : Layout) : Utility := fun _ args =>
  let flags := flagsOf "1aAlRdrFpQmCxtSinhsogqBkbcuGLUvX".toList ++
    [⟨'a', "all", false⟩, ⟨'A', "almost-all", false⟩, ⟨'d', "directory", false⟩,
     ⟨'r', "reverse", false⟩, ⟨'R', "recursive", false⟩, ⟨'!', "color", false⟩]
  withOptions flags false 2 args fun given => do
    let style : ListStyle :=
      { showsAll := given.has 'a', showsHidden := given.has 'A'
        isLong := given.has 'l' || given.has 'o' || given.has 'g' || given.has 'n'
        marks := if given.has 'F' then some 'F' else if given.has 'p' then some 'p' else none
        isReversed := given.has 'r', isDeep := given.has 'R', isQuoted := given.has 'Q'
        bySize := given.has 'S', byTime := given.has 't', showsBlocks := given.has 's'
        layout := layoutOf usual given }
    let paths := if given.operands.isEmpty then ["."] else given.operands
    let follows := !(given.has 'd' || style.isLong || given.has 'F') || given.has 'L'
    let (status, found) ← paths.foldlM (fun (status, found) path => do
      let purpose := if follows || path.endsWith "/" then Purpose.target else .entry
      let result ← Act.find purpose path
      let result ← match result with
        | .error _ => if follows then Act.find .entry path else pure result
        | found => pure found
      match result with
      | .ok (place, node) => return (status, ⟨path, place, node⟩ :: found)
      | .error reason =>
        if path = "." then return (status, ⟨path, [], .dir []⟩ :: found)
        complain ("cannot access " ++ quoted path ++ ": " ++ reason.text)
        return (2, found)) (0, ([] : List Listed))
    let attributes := (← get).attributes
    let (dirs, files) := (inOrder attributes style found).partition fun entry =>
      entry.node.isDir && !given.has 'd'
    print (listed attributes style files)
    let blocks := dirs.flatMap fun entry =>
      listings attributes style maxTreeDepth entry.name entry.place entry.node
    let hasNames := 1 < paths.length || style.isDeep
    let texts := blocks.map fun (path, text) => (if hasNames then path ++ ":\n" else "") ++ text
    print ((if files.isEmpty || texts.isEmpty then "" else "\n") ++ "\n".intercalate texts)
    return status

/-- List directories, with one entry in a line. -/
def ls : Utility := listProgram .lines

/-- List directories in columns. -/
def dir : Utility := listProgram .down

/-- What a node is, in words. -/
def kindText : FileTree → String
  | .file content _ => if content.isEmpty then "regular empty file" else "regular file"
  | .dir _ => "directory"
  | .link _ => "symbolic link"
  | .device (.stream _) => "fifo"
  | .device _ => "character special file"

/-- What a format of properties says about a node. -/
def statText (attributes : Attributes) (path : String) (place : Location) (node : FileTree) :
    Nat → List Char → String
  | 0, _ => ""
  | _, [] => ""
  | bound + 1, '%' :: c :: rest =>
    let bits := attributes.bitsOf place node
    let time := attributes.timeOf place
    (match c with
      | 'n' => path
      | 's' => toString (sizeOf node)
      | 'b' => toString (blocksOf node * 2)
      | 'B' => "512"
      | 'a' => String.ofList (Nat.toDigits 8 bits)
      | 'A' => modeText node bits
      | 'U' | 'G' => "root"
      | 'u' | 'g' => "0"
      | 'h' => toString (attributes.nameCount place node)
      | 'N' => quoted path ++ (match node with
          | .link target => " -> " ++ quoted (Octets.encode target)
          | _ => "")
      | 'F' => kindText node
      | 'X' | 'Y' | 'Z' => toString time.seconds
      | 'x' | 'y' | 'z' =>
        momentText (Moment.ofSeconds time.seconds) 40 "%F %T.000000000 +0000".toList
      | '%' => "%"
      | _ => "?") ++ statText attributes path place node bound rest
  | bound + 1, c :: rest => String.ofList [c] ++ statText attributes path place node bound rest

/-- Print properties of files. -/
def stat : Utility := fun _ args =>
  let flags := flagsOf "c:Lft".toList ++
    [⟨'c', "format", true⟩, ⟨'p', "printf", true⟩, ⟨'L', "dereference", false⟩]
  withOptions flags false 1 args fun given => do
    if given.operands.isEmpty then usage "missing operand"
    else
      forEach given.operands fun path => do
        match ← Act.find (if given.has 'L' then .target else .entry) path with
        | .ok (place, node) =>
          let attributes := (← get).attributes
          match given.value? 'p' with
          | some format =>
            print (statText attributes path place node format.length (Format.unescape format).1)
          | none =>
            let format := (given.value? 'c').getD "  File: %n"
            print (statText attributes path place node format.length format.toList ++ "\n")
          return true
        | .error reason =>
          complain ("cannot statx " ++ quoted path ++ ": " ++ reason.text)
          return false

end Utility

end TestCursor
