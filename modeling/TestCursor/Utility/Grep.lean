import TestCursor.Regex.Remark
import TestCursor.Utility.Basic

/-!
# Looking for lines

A program that prints the lines that some patterns fit.
-/

namespace TestCursor

open Shell

namespace Utility

/-- How lines are looked for and shown. -/
structure Search where
  regex : Regex
  isInverted : Bool
  /-- How many lines are shown at most. -/
  limit : Option Nat
  onlyParts : Bool
  showsNames : Bool
  showsNumbers : Bool
  showsOffsets : Bool
  /-- How many lines are shown in front of each line. -/
  before : Nat
  /-- How many lines are shown behind each line. -/
  after : Nat
  isText : Bool

structure SearchLine where
  number : Nat
  offset : Nat
  text : String
  isFound : Bool
  deriving Inhabited

/-- The lines of a file from a number and an offset on. -/
def searchLines (search : Search) : Nat → Nat → List String → List SearchLine
  | _, _, [] => []
  | number, offset, line :: lines =>
    ⟨number, offset, line, search.regex.fits line != search.isInverted⟩ ::
      searchLines search (number + 1) (offset + line.length + 1) lines

/-- The lines up to the last one that may be shown. The others count as not found. -/
def limited : Option Nat → List SearchLine → List SearchLine
  | none, lines => lines
  | some limit, lines => go limit lines
where
  /-- Find at most so many lines. -/
  go : Nat → List SearchLine → List SearchLine
    | _, [] => []
    | 0, line :: rest => { line with isFound := false } :: go 0 rest
    | left + 1, line :: rest =>
      if line.isFound then line :: go left rest else line :: go (left + 1) rest

/-- What stands in front of a line, with a mark behind each piece. -/
def lineStart (search : Search) (name : String) (mark : String) (number offset : Nat) : String :=
  (if search.showsNames then name ++ mark else "") ++
    (if search.showsNumbers then toString number ++ mark else "") ++
    (if search.showsOffsets then toString offset ++ mark else "")

/-- The parts of a line that an expression fits: the offset and the text of each. -/
def partsIn (regex : Regex) (text : Array Char) : Nat → Nat → List (Nat × String)
  | 0, _ => []
  | bound + 1, start =>
    match regex.find? text start with
    | none => []
    | some fit =>
      if fit.stop = fit.start then partsIn regex text bound (fit.stop + 1)
      else
        (fit.start, String.ofList (fit.group text 0)) :: partsIn regex text bound fit.stop

/-- The lines that are shown around those that were found, with the line numbers of the found ones
given. -/
def isShown (search : Search) (found : List Nat) (number : Nat) : Bool :=
  found.any fun other =>
    other ≤ number + search.before && number ≤ other + search.after

def shownLines (search : Search) (name : String) (lines : List SearchLine) : String :=
  if search.onlyParts then
    String.join <| (lines.filter SearchLine.isFound).flatMap fun line =>
      if search.isInverted then []
      else
        (partsIn search.regex line.text.toList.toArray (line.text.length + 2) 0).map
          fun (start, part) =>
            lineStart search name ":" line.number (line.offset + start) ++ part ++ "\n"
  else if search.before = 0 && search.after = 0 then
    String.join <| (lines.filter SearchLine.isFound).map fun line =>
      lineStart search name ":" line.number line.offset ++ line.text ++ "\n"
  else
    let found := (lines.filter SearchLine.isFound).map SearchLine.number
    let shown := lines.filter fun line => isShown search found line.number
    let rec go (last : Option Nat) : List SearchLine → List String
      | [] => []
      | line :: rest =>
        let gap := match last with
          | some last => if last + 1 < line.number then "--\n" else ""
          | none => ""
        let mark := if line.isFound then ":" else "-"
        (gap ++ lineStart search name mark line.number line.offset ++ line.text ++ "\n") ::
          go (some line.number) rest
    String.join (go none shown)

def searchFlags : List Flag :=
  flagsOf "EFGPivyclLqsowxhHnbarRzZUTIm:e:f:A:B:C:".toList ++
    [⟨'E', "extended-regexp", false⟩, ⟨'F', "fixed-strings", false⟩,
     ⟨'G', "basic-regexp", false⟩, ⟨'i', "ignore-case", false⟩, ⟨'v', "invert-match", false⟩,
     ⟨'c', "count", false⟩, ⟨'l', "files-with-matches", false⟩,
     ⟨'L', "files-without-match", false⟩, ⟨'q', "quiet", false⟩, ⟨'q', "silent", false⟩,
     ⟨'s', "no-messages", false⟩, ⟨'o', "only-matching", false⟩, ⟨'w', "word-regexp", false⟩,
     ⟨'x', "line-regexp", false⟩, ⟨'h', "no-filename", false⟩, ⟨'H', "with-filename", false⟩,
     ⟨'n', "line-number", false⟩, ⟨'b', "byte-offset", false⟩, ⟨'a', "text", false⟩,
     ⟨'r', "recursive", false⟩, ⟨'m', "max-count", true⟩, ⟨'e', "regexp", true⟩,
     ⟨'f', "file", true⟩, ⟨'A', "after-context", true⟩, ⟨'B', "before-context", true⟩,
     ⟨'C', "context", true⟩, ⟨'<', "include", true⟩, ⟨'>', "exclude", true⟩,
     ⟨'|', "exclude-dir", true⟩, ⟨'#', "color", false⟩, ⟨'#', "colour", false⟩,
     ⟨'z', "null-data", false⟩]

/-- How the patterns are written. -/
def searchDialect (given : Given) : Regex.Dialect :=
  let kind := kindOf given
  let isExtended := kind == some 'E' || kind == some 'P'
  { isExtended := isExtended, ignoresCase := given.has 'i' || given.has 'y'
    knowsControls := kind == some 'P', knowsDigits := kind == some 'P'
    allowsCloser := isExtended }
where
  /-- The letter of the kind of patterns. -/
  kindOf (given : Given) : Option Char :=
    (given.options.reverse.find? fun entry => "EFGP".toList.contains entry.1).map Prod.fst

def patternLines (patterns : List String) : List (List Char) :=
  (patterns.flatMap fun pattern => pattern.splitOn "\n").map String.toList

/-- The expression for some patterns, each of which can have several lines. -/
def searchRegex (given : Given) (patterns : List String) : Except Regex.Fault Regex := do
  let kind := searchDialect.kindOf given
  let dialect := searchDialect given
  let parts ← (patternLines patterns).mapM fun pattern =>
    if kind == some 'F' then pure (Regex.ofPlainText dialect pattern)
    else (Regex.ofText dialect pattern).map Prod.fst
  let whole := match parts with
    | [] => Regex.one fun _ => false
    | first :: rest => rest.foldl .either first
  let edge (accepts : Option Char → Option Char → Bool) (regex : Regex) : Regex :=
    .append (.border fun before _ => accepts before none)
      (.append regex (.border fun _ after => accepts none after))
  return if given.has 'x' then
      edge (fun before after => before.isNone && after.isNone) whole
    else if given.has 'w' then
      edge (fun before after => !Regex.isWordAt before && !Regex.isWordAt after) whole
    else whole

/-- The paths of the files below a path, where a directory stands for those in it. -/
def filesUnder (fits : String → Bool → Bool) : Nat → String → Act (List String)
  | 0, _ => return []
  | depth + 1, path => do
    match ← Act.find .entry (if path.isEmpty then "." else path) with
    | .ok (_, .dir entries) =>
      let names := (entries.map Prod.fst).mergeSort fun x y => decide (x ≤ y)
      let lists ← names.mapM fun name => do
        let name := Octets.encode name
        let inner := if path.isEmpty then name
          else if path.endsWith "/" then path ++ name else path ++ "/" ++ name
        match ← Act.find .entry inner with
        | .ok (_, .link _) => return []
        | .ok (_, .dir _) => if fits name true then filesUnder fits depth inner else return []
        | _ => return if fits name false then [inner] else []
      return lists.flatten
    | _ => return [path]

/-- How deep directories are searched. -/
def maxSearchDepth : Nat := 100

/-- The status of a search: something was found, and something went wrong. -/
structure SearchStatus where
  isFound : Bool
  hasFailed : Bool

def searchFile (search : Search) (given : Given) (path : String) (status : SearchStatus) :
    Act SearchStatus := do
  let isMute := given.has 's'
  let failed (reason : String) : Act SearchStatus := do
    if !isMute then complain (path ++ ": " ++ reason)
    return { status with hasFailed := true }
  match ← readInput path with
  | .error reason => failed reason.text
  | .ok text =>
    let name := if path = "-" then "(standard input)" else path
    let lines := limited search.limit (searchLines search 1 0 (linesOf text))
    let count := (lines.filter SearchLine.isFound).length
    let isFound := count != 0
    if given.has 'q' then pure ()
    else if given.has 'l' then
      if isFound then print (name ++ "\n")
    else if given.has 'L' then
      if !isFound then print (name ++ "\n")
    else if given.has 'c' then
      print ((if search.showsNames then name ++ ":" else "") ++ toString count ++ "\n")
    else if text.contains '\x00' && !search.isText then
      if isFound then complain (name ++ ": binary file matches")
    else print (shownLines search name lines)
    return { status with isFound := status.isFound || isFound }

/-- The arguments with numbers in the place of options spelled out. -/
def contextArguments (args : List String) : List String :=
  args.map fun arg =>
    match arg.toList with
    | '-' :: c :: digits =>
      if (c :: digits).all Char.isDigit then "-C" ++ (arg.drop 1).toString else arg
    | _ => arg

/-- Look for lines, with a kind of patterns if one is given. -/
def searchWith (kind : Option Char) : Utility := fun _ args =>
  withOptionsOr sayUse searchFlags false 2 (contextArguments args) fun given => do
    let given := { given with
      options := kind.toList.map (fun kind => (kind, "")) ++ given.options }
    let files ← (given.values 'f').mapM fun path => do return (path, ← readInput path)
    let fromFiles := files.filterMap fun
      | (_, .ok text) => some (linesOf text)
      | (_, .error _) => none
    let missing := files.findSome? fun
      | (_, .ok _) => none
      | (path, .error reason) => some (path ++ ": " ++ reason.text)
    let explicit := given.values 'e' ++ fromFiles.flatten
    let isExplicit := given.has 'e' || given.has 'f'
    if !isExplicit && given.operands.isEmpty then
      sayUse
      return 2
    else if let some text := missing then
      complain text
      return 2
    else
      let patterns := if isExplicit then explicit else given.operands.take 1
      let paths := if isExplicit then given.operands else given.operands.drop 1
      match searchRegex given patterns with
      | .error fault =>
        complain fault.text
        return 2
      | .ok regex =>
        let isPlain := "FP".toList.any fun letter => searchDialect.kindOf given == some letter
        let remarks := if isPlain then []
          else (patternLines patterns).flatMap (Regex.remarks (searchDialect given))
        remarks.forM fun remark => complain remark.text
        if remarks.contains .kindAsSet then return 2
        let isDeep := given.has 'r' || given.has 'R'
        let fits (name : String) (isDirectory : Bool) : Bool :=
          let fitsSome (letter : Char) : Bool :=
            (given.values letter).any fun glob => (Glob.ofText glob).fits name.toList
          if isDirectory then !fitsSome '|'
          else (!given.has '<' || fitsSome '<') && !fitsSome '>'
        let named := if paths.isEmpty then [if isDeep then "" else "-"] else paths
        let all ← if isDeep then
            pure (← named.mapM (filesUnder fits maxSearchDepth)).flatten
          else pure named
        let size (letter : Char) : Nat :=
          ((given.value? letter <|> given.value? 'C').bind natural?).getD 0
        let search : Search :=
          { regex := regex, isInverted := given.has 'v'
            limit := (given.value? 'm').bind natural?, onlyParts := given.has 'o'
            showsNames := !given.has 'h' && (given.has 'H' || isDeep || 1 < all.length)
            showsNumbers := given.has 'n', showsOffsets := given.has 'b'
            before := size 'B', after := size 'A', isText := given.has 'a' }
        let status ← all.foldlM (fun status path => searchFile search given path status)
          (⟨false, false⟩ : SearchStatus)
        return if given.has 'q' && status.isFound then 0
          else if status.hasFailed then 2
          else if status.isFound then 0
          else 1
where
  /-- Say how the program is used. -/
  sayUse : Act Unit :=
    Act.say 2 ("Usage: grep [OPTION]... PATTERNS [FILE]...\n" ++
      "Try 'grep --help' for more information.\n")

/-- Look for lines with a kind of patterns, under the name of the program that looks for lines. -/
def searchAs (kind : Option Char) : Utility := fun host args => do
  Act.modifyProcess fun p => { p with name := "grep" }
  searchWith kind host args

/-- Look for lines. -/
def grep : Utility := searchWith none

/-- Look for lines with extended patterns. -/
def egrep : Utility := searchAs (some 'E')

/-- Look for lines with plain texts. -/
def fgrep : Utility := searchAs (some 'F')

end Utility

end TestCursor
