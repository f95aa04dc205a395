import TestCursor.Utility.Basic
import TestCursor.Utility.Edit.Script

/-!
# The stream editor

It reads line after line and runs its script on each. What is changed is a text that begins as the
line; it is printed when the script has ended.
-/

namespace TestCursor

open Shell

namespace Edit

structure Line where
  text : List Char
  /-- It ends with a line break. -/
  isEnded : Bool
  isLast : Bool
  number : Nat
  deriving Inhabited

/-- Something that is printed when the script has ended. -/
inductive Later
  | text (text : List Char)
  | file (path : String)

structure Editor where
  text : List Char
  held : List Char
  line : Line
  /-- The name of the file that is read. -/
  name : String
  rest : List Line
  later : List Later
  /-- What was printed, the last text in front. -/
  printed : List String
  /-- The last line that was printed had no line break. -/
  lacksBreak : Bool
  hasReplaced : Bool
  /-- The ranges that lines are in, by the number of the command: the number of the last line if
  that is known. -/
  ranges : List (Nat × Option Nat)
  lastRegex : Option Regex
  /-- What is not yet read of the files that are read line by line. -/
  sources : List (String × List Char)
  isQuiet : Bool
  /-- What ends a line. -/
  lineBreak : Char

abbrev Editing := StateT Editor Act

/-- How running the script on a line ended. -/
inductive CycleEnd
  | over
  /-- Nothing is printed. -/
  | dropped
  /-- The script runs again on what is left. -/
  | again
  | quit (status : Nat)

namespace Editing

/-- Print a text, behind the line break that the last line lacked. -/
def emit (text : List Char) (isEnded : Bool) : Editing Unit := modify fun editor =>
  let lineBreak := String.ofList [editor.lineBreak]
  let start := if editor.lacksBreak then lineBreak else ""
  { editor with
    printed := (start ++ String.ofList text ++ (if isEnded then lineBreak else "")) ::
      editor.printed
    lacksBreak := !isEnded }

/-- Print a text that has its line break. -/
def emitRaw (text : String) : Editing Unit := modify fun editor =>
  if text.isEmpty then editor
  else
    { editor with
      printed := ((if editor.lacksBreak then String.ofList [editor.lineBreak] else "") ++ text) ::
        editor.printed
      lacksBreak := false }

def emitText : Editing Unit := do
  let editor ← get
  emit editor.text editor.line.isEnded

/-- Print what was put off. -/
def flush : Editing Unit := do
  let later := (← get).later
  modify fun editor => { editor with later := [] }
  later.forM fun
    | .text text => emitRaw (String.ofList text)
    | .file path => do
      match ← readInput path with
      | .ok text => emitRaw text
      | .error _ => return
where
  /-- The text of a file. -/
  readInput (path : String) : Editing (Except Reason String) :=
    StateT.lift (Utility.readInput (if path = "/dev/stdin" then "-" else path))

/-- Print the text if the editor prints by itself. -/
def printAtEnd : Editing Unit := do
  if !(← get).isQuiet then emitText
  flush

def nextLine : Editing Bool := do
  let editor ← get
  match editor.rest with
  | [] => return false
  | line :: rest =>
    set { editor with line := line, rest := rest }
    return true

/-- The first part of a text that an expression fits, where no expression is the last one. -/
def findIn (regex : Option Regex) (text : Array Char) (start : Nat) :
    Editing (Option Regex.Fit) := do
  let editor ← get
  match regex <|> editor.lastRegex with
  | some regex =>
    set { editor with lastRegex := some regex }
    return regex.find? text start
  | none =>
    StateT.lift do
      Utility.complain "-e expression #1, char 0: no previous regular expression"
      Act.endAs (.exited 1)

def isAt : Address → Editing Bool
  | .line number => return (← get).line.number == number
  | .last => return (← get).line.isLast
  | .pattern regex => return (← findIn regex (← get).text.toArray 0).isSome
  | .step first step => do
    let number := (← get).line.number
    return if step = 0 then number == first
      else first ≤ number && (number - first) % step == 0

/-- The line is in a range that begins at an address. -/
def isInRange (index : Nat) (selector : Selector) (first : Address) (finish : RangeEnd) :
    Editing Bool := do
  let editor ← get
  let number := editor.line.number
  let leave : Editing Unit := modify fun editor =>
    { editor with ranges := editor.ranges.filter fun range => range.1 != index }
  let enter (stop : Option Nat) : Editing Unit := modify fun editor =>
    { editor with ranges := (index, stop) :: editor.ranges }
  match editor.ranges.lookup index with
  | some (some stop) =>
    if stop ≤ number then leave
    return number ≤ stop
  | some none =>
    match finish with
    | .at address =>
      if ← isAt address then leave
      return true
    | _ => return true
  | none =>
    let isFirst ← if selector.isEager then pure (number == 1) else isAt first
    if !isFirst then return false
    else
      let until' (stop : Nat) : Editing Bool := do
        if number < stop then enter (some stop)
        return true
      match finish with
      | .after count => until' (number + count)
      | .multiple factor =>
        until' (if factor = 0 then number else number / factor * factor + factor)
      | .at (.line stop) => until' stop
      | .at address =>
        if selector.isEager then
          if !(← isAt address) then enter none
        else enter none
        return true

/-- The line is one of those that a command is for. -/
def isSelected (index : Nat) (selector : Selector) : Editing Bool := do
  let isFitting ← match selector.first, selector.finish with
    | none, _ => pure true
    | some address, none => isAt address
    | some first, some finish => isInRange index selector first finish
  return isFitting != selector.isNegated

/-- How the case of what follows changes. -/
structure Casing where
  /-- For all of it. -/
  all : Char
  /-- For the next character. -/
  one : Char

/-- A text in the case asked for, and what is asked for behind it. -/
def cased (casing : Casing) (text : List Char) : List Char × Casing :=
  let whole (c : Char) : Char :=
    if casing.all = 'U' then c.toUpper else if casing.all = 'L' then c.toLower else c
  match text with
  | [] => ([], casing)
  | c :: rest =>
    let first := if casing.one = 'u' then c.toUpper
      else if casing.one = 'l' then c.toLower
      else whole c
    (first :: rest.map whole, { casing with one := 'E' })

/-- What is put in the place of a part of a text. -/
def replacement (text : Array Char) (fit : Regex.Fit) : Casing → List Piece → List Char
  | _, [] => []
  | casing, .case letter :: pieces =>
    if letter = 'u' || letter = 'l' then replacement text fit { casing with one := letter } pieces
    else replacement text fit ⟨letter, 'E'⟩ pieces
  | casing, .text inside :: pieces =>
    let (inside, casing) := cased casing inside
    inside ++ replacement text fit casing pieces
  | casing, .group number :: pieces =>
    let (inside, casing) := cased casing (fit.group text number)
    inside ++ replacement text fit casing pieces

/-- A text from a position on with its parts replaced, and whether there were any. `count` matches
were passed, the last of which ended at `last` if it was not empty. -/
def replaceFrom (substitution : Substitution) (text : Array Char) :
    Nat → Nat → Nat → Option Nat → Editing (List Char × Bool)
  | 0, start, _, _ => return ((text.extract start text.size).toList, false)
  | bound + 1, start, count, last => do
    match ← findIn substitution.regex text start with
    | none => return ((text.extract start text.size).toList, false)
    | some fit =>
      let before := (text.extract start fit.start).toList
      let isEmpty := fit.start == fit.stop
      let skipped := if isEmpty then (text[fit.stop]?).toList else []
      let next := if isEmpty then fit.stop + 1 else fit.stop
      let isRepeated := isEmpty && last == some fit.start
      let count := if isRepeated then count else count + 1
      let isReplaced := !isRepeated && substitution.first ≤ count
      let here := if isReplaced then replacement text fit ⟨'E', 'E'⟩ substitution.pieces
        else if isEmpty then []
        else fit.group text 0
      if isReplaced && !substitution.isGlobal then
        return (before ++ here ++ (text.extract fit.stop text.size).toList, true)
      else if text.size < next then return (before ++ here ++ skipped, isReplaced)
      else
        let (rest, wasReplaced) ← replaceFrom substitution text bound next count
          (if isEmpty then none else some fit.stop)
        return (before ++ here ++ skipped ++ rest, isReplaced || wasReplaced)

/-- Write a line to a file of the script. -/
def writeLine (path : String) (text : List Char) (isEnded : Bool) : Editing Unit := do
  if path = "/dev/stdout" then emit text isEnded
  else
    let line := String.ofList text ++ (if isEnded then "\n" else "")
    let _ ← StateT.lift (Act.writeFile path .append (Octets.toBytes line))

/-- The next line of a file with its line break; nothing at the end of the file. -/
def lineOf (path : String) : Editing (List Char) := do
  let text ← match (← get).sources.lookup path with
    | some text => pure text
    | none =>
      match ← StateT.lift (Utility.readInput path) with
      | .ok text => pure text.toList
      | .error _ => pure []
  let line := text.takeWhile (· != '\n')
  let line := line ++ (text.drop line.length).take 1
  modify fun editor =>
    { editor with
      sources := (path, text.drop line.length) ::
        editor.sources.filter fun entry => entry.1 != path }
  return line

/-- Replace parts of the text. -/
def substitute (substitution : Substitution) : Editing Unit := do
  let text := (← get).text.toArray
  let (changed, isReplaced) ← replaceFrom substitution text (text.size + 2) 0 0 none
  if isReplaced then
    modify fun editor => { editor with text := changed, hasReplaced := true }
    if substitution.prints then emitText
    match substitution.file with
    | some path =>
      let editor ← get
      writeLine path editor.text editor.line.isEnded
    | none => return

/-- A character with what stands for it where all are visible. -/
def visible (c : Char) : List Char :=
  match c with
  | '\\' => ['\\', '\\']
  | '\x07' => ['\\', 'a']
  | '\x08' => ['\\', 'b']
  | '\x0c' => ['\\', 'f']
  | '\n' => ['\\', 'n']
  | '\r' => ['\\', 'r']
  | '\t' => ['\\', 't']
  | '\x0b' => ['\\', 'v']
  | c =>
    if ' ' ≤ c && c ≤ '~' then [c]
    else
      let digits := Nat.toDigits 8 c.toNat
      '\\' :: (List.replicate (3 - digits.length) '0' ++ digits)

/-- Visible characters in lines of a width. -/
def folded (width : Nat) : Nat → List (List Char) → List Char
  | _, [] => ['$']
  | column, c :: rest =>
    if 1 < width && width - 1 < column + c.length then
      ['\\', '\n'] ++ c ++ folded width c.length rest
    else c ++ folded width (column + c.length) rest

/-- Run a command that is only a letter. What is given tells if it ends the script. -/
def runPlain (letter : Char) : Editing (Option CycleEnd) := do
  let editor ← get
  let going (editor : Editor) : Editing (Option CycleEnd) := do
    set editor
    return none
  match letter with
  | '=' =>
    emit (toString editor.line.number).toList true
    return none
  | 'd' => return some .dropped
  | 'D' =>
    let rest := editor.text.dropWhile (· != editor.lineBreak)
    if rest.isEmpty then return some .dropped
    else
      set { editor with text := rest.drop 1 }
      return some .again
  | 'g' => going { editor with text := editor.held }
  | 'G' => going { editor with text := editor.text ++ editor.lineBreak :: editor.held }
  | 'h' => going { editor with held := editor.text }
  | 'H' => going { editor with held := editor.held ++ editor.lineBreak :: editor.text }
  | 'x' => going { editor with text := editor.held, held := editor.text }
  | 'z' => going { editor with text := [] }
  | 'p' =>
    emitText
    return none
  | 'P' =>
    emit (editor.text.takeWhile (· != editor.lineBreak)) true
    return none
  | 'F' =>
    emit editor.name.toList true
    return none
  | 'n' =>
    if editor.rest.isEmpty then return some .over
    else
      printAtEnd
      let _ ← nextLine
      modify fun editor => { editor with text := editor.line.text }
      return none
  | 'N' =>
    if editor.rest.isEmpty then return some .over
    else
      flush
      let _ ← nextLine
      modify fun editor =>
        { editor with text := editor.text ++ editor.lineBreak :: editor.line.text }
      return none
  | _ => return none

/-- How many commands the script can run on a line. -/
def maxSteps : Nat := 1000000

/-- Run the script from a command on, at most so many commands. -/
def runFrom (script : Array Instruction) : Nat → Nat → Editing CycleEnd
  | 0, _ => return .over
  | bound + 1, index => do
    match script[index]? with
    | none => return .over
    | some ⟨selector, action⟩ =>
      let isSelected ← isSelected index selector
      let next : Editing CycleEnd := runFrom script bound (index + 1)
      let jump (name : String) : Editing CycleEnd :=
        runFrom script bound
          (if name.isEmpty then script.size else (Script.placeOf? script name).getD script.size)
      match action with
      | .block stop => runFrom script bound (if isSelected then index + 1 else stop)
      | .label _ => next
      | action =>
        if !isSelected then next
        else
          match action with
          | .block _ | .label _ => next
          | .plain letter =>
            match ← runPlain letter with
            | some ending => return ending
            | none => next
          | .append text =>
            modify fun editor => { editor with later := editor.later ++ [.text text] }
            next
          | .insert text =>
            emitRaw (String.ofList text)
            next
          | .change text =>
            let isInside := ((← get).ranges.lookup index).isSome && !selector.isNegated
            if !isInside then emitRaw (String.ofList text)
            return .dropped
          | .branch letter name =>
            let hasReplaced := (← get).hasReplaced
            if letter = 'b' then jump name
            else
              modify fun editor => { editor with hasReplaced := false }
              if hasReplaced == (letter == 't') then jump name else next
          | .quit prints status =>
            if prints then printAtEnd
            return .quit status
          | .list width =>
            let text := folded (width.getD 70) 0 ((← get).text.map visible)
            emit text true
            next
          | .readFile path =>
            modify fun editor => { editor with later := editor.later ++ [.file path] }
            next
          | .readLine path =>
            let line ← lineOf path
            modify fun editor => { editor with later := editor.later ++ [.text line] }
            next
          | .writeFile path isFirstLine =>
            let editor ← get
            if isFirstLine then writeLine path (editor.text.takeWhile (· != '\n')) true
            else writeLine path editor.text editor.line.isEnded
            next
          | .substitute substitution =>
            substitute substitution
            next
          | .translate pairs =>
            modify fun editor =>
              { editor with text := editor.text.map fun c => (pairs.lookup c).getD c }
            next

/-- Run the script on all lines that are left, and at first on what is left of the last one if
`isAgain` says so. The status, if the script ended all. -/
def runCycles (script : Array Instruction) : Nat → Bool → Editing (Option Nat)
  | 0, _ => return none
  | bound + 1, isAgain => do
    let hasLine ← if isAgain then pure true
      else do
        let hasLine ← nextLine
        modify fun editor => { editor with text := editor.line.text, hasReplaced := false }
        pure hasLine
    if !hasLine then return none
    else
      match ← runFrom script maxSteps 0 with
      | .over =>
        printAtEnd
        runCycles script bound false
      | .dropped =>
        flush
        runCycles script bound false
      | .again =>
        flush
        runCycles script bound true
      | .quit status =>
        return some status

end Editing

def linesFrom (lineBreak : Char) (number : Nat) (text : String) : List Line :=
  let pieces := splitOn lineBreak text.toList
  let pieces := if pieces.getLast? = some [] then pieces.dropLast else pieces
  let isComplete := text.toList.getLast? == some lineBreak
  pieces.zipIdx.map fun (piece, index) =>
    ⟨piece, isComplete || index + 1 != pieces.length, false, number + index⟩

def markLast (lines : List Line) : List Line :=
  match lines.getLast? with
  | some last => lines.dropLast ++ [{ last with isLast := true }]
  | none => []

/-- An editor that has read nothing. -/
def Editor.start (isQuiet : Bool) (lineBreak : Char) : Editor where
  text := []
  held := []
  line := default
  name := "-"
  rest := []
  later := []
  printed := []
  lacksBreak := false
  hasReplaced := false
  ranges := []
  lastRegex := none
  sources := []
  isQuiet := isQuiet
  lineBreak := lineBreak

/-- How many lines a script can run on, with those on which it runs again. -/
def maxCycles : Nat := 10000000

/-- Run the script on lines of a file. What it printed, and the status if it ended all. -/
def runOn (script : Array Instruction) (name : String) (lines : List Line) (editor : Editor) :
    Act (String × Option Nat × Editor) := do
  let editor :=
    { editor with rest := markLast lines, name := name, printed := [], lacksBreak := false }
  let (status, editor) ← (Editing.runCycles script maxCycles false).run editor
  return (String.join editor.printed.reverse, status, editor)

end Edit

namespace Utility

/-- The arguments in which the option to edit files has its suffix as a value. -/
def inPlaceArguments (args : List String) : List String :=
  args.flatMap fun arg =>
    match arg.toList with
    | '-' :: c :: letters =>
      let front := (c :: letters).takeWhile fun c => c != 'i' && c != 'e' && c != 'f' && c != '-'
      match (c :: letters).drop front.length with
      | 'i' :: suffix =>
        (if front.isEmpty then [] else ["-" ++ String.ofList front]) ++
          ["--in-place=" ++ String.ofList suffix]
      | _ => [arg]
    | _ => [arg]

def editFlags : List Flag :=
  flagsOf "nrEsuzbe:f:l:".toList ++
    [⟨'n', "quiet", false⟩, ⟨'n', "silent", false⟩, ⟨'E', "regexp-extended", false⟩,
     ⟨'s', "separate", false⟩, ⟨'u', "unbuffered", false⟩, ⟨'e', "expression", true⟩,
     ⟨'f', "file", true⟩, ⟨'i', "in-place", false⟩, ⟨'p', "posix", false⟩,
     ⟨'z', "null-data", false⟩]

/-- A part of a script: an expression, or the content of a file with its name. -/
structure ScriptPart where
  file : Option String
  text : String

def scriptParts (given : Given) : Act (Except String (List ScriptPart)) := do
  let parts ← given.options.filterMapM fun (letter, value) => do
    if letter = 'e' then return some (Except.ok ⟨none, value⟩)
    else if letter = 'f' then
      match ← readInput value with
      | .ok text =>
        let text := if text.endsWith "\n" then (text.dropEnd 1).toString else text
        return some (.ok ⟨some value, text⟩)
      | .error reason =>
        return some (.error ("couldn't open file " ++ value ++ ": " ++ reason.text))
    else return none
  return parts.mapM id

/-- A position in a script in words. The parts stand one after another, each in a line of its own,
and `expressions` of them were passed that are expressions. -/
def positionText (isBlock : Bool) : Nat → Nat → List ScriptPart → String
  | _, _, [] => ""
  | expressions, position, part :: rest =>
    let length := part.text.length
    if position ≤ length || rest.isEmpty then
      match part.file with
      | some name =>
        let lines := (part.text.toList.take position).count '\n'
        "file " ++ name ++ " line " ++ toString (lines + 1) ++ ": "
      | none =>
        "-e expression #" ++ toString (expressions + 1) ++ ", char " ++
          toString (if isBlock then 0 else min position length) ++ ": "
    else
      positionText isBlock (if part.file.isNone then expressions + 1 else expressions)
        (position - length - 1) rest

/-- Say what is wrong with a script. -/
def complainFlaw (parts : List ScriptPart) (size : Nat) (flaw : Edit.Flaw) : Act Nat := do
  match flaw.place with
  | .nowhere =>
    complain flaw.reason
    return 4
  | .before unread =>
    complain (positionText false 0 (size - unread.length) parts ++ flaw.reason)
    return 1
  | .block inside =>
    complain (positionText true 0 (size - inside.length) parts ++ flaw.reason)
    return 1

/-- Edit files where they are. -/
def editInPlace (script : Array Edit.Instruction) (suffix : String) (paths : List String)
    (editor : Edit.Editor) : Act Nat := do
  let (status, _, _) ← paths.foldlM (fun (status, (ended : Option Nat), editor) path => do
    if ended.isSome then return (status, ended, editor)
    else
      match ← readInput path with
      | .error reason =>
        if reason = .isDirectory then complain ("couldn't edit " ++ path ++ ": not a regular file")
        else complain ("can't read " ++ path ++ ": " ++ reason.text)
        return (if reason = .isDirectory then 4 else 2, ended, editor)
      | .ok text =>
        let lines := Edit.linesFrom editor.lineBreak 1 text
        let (printed, ended, editor) ←
          Edit.runOn script path lines { editor with ranges := [] }
        if !suffix.isEmpty then
          let backup := if suffix.contains '*' then suffix.replace "*" path else path ++ suffix
          let _ ← Act.writeFile backup .write (Octets.toBytes text)
        match ← Act.find .target path with
        | .ok (place, .file _ bits) =>
          Act.remove place
          Act.place place (.file (Octets.toBytes printed) bits)
        | _ => pure ()
        return (ended.getD status, ended, editor)) (0, none, editor)
  return status

/-- Edit texts by a script. -/
def sed : Utility := fun _ args =>
  withOptions editFlags false 1 (inPlaceArguments args) fun given => do
    let hasScript := given.has 'e' || given.has 'f'
    if !hasScript && given.operands.isEmpty then
      Act.say 2 ("Usage: " ++ (← calledName) ++
        " [OPTION]... \x7bscript-only-if-no-other-script\x7d [input-file]...\n")
      return 1
    else
      let parts ← if hasScript then scriptParts given
        else pure (.ok [⟨none, given.operands.headD ""⟩])
      let paths := if hasScript then given.operands else given.operands.drop 1
      match parts with
      | .error reason =>
        complain reason
        return 4
      | .ok parts =>
        let text := "\n".intercalate (parts.map ScriptPart.text)
        let isQuiet := given.has 'n' || text.startsWith "#n\n" || text = "#n"
        match Edit.Script.read ⟨given.has 'E' || given.has 'r'⟩ text.toList with
        | .error flaw => complainFlaw parts text.length flaw
        | .ok script =>
          match Edit.Script.missingLabel? script with
          | some label =>
            complain ("can't find label for jump to \x60" ++ label ++ "'")
            return 4
          | none =>
            script.forM fun instruction => do
              let written := match instruction.action with
                | .writeFile path _ => some path
                | .substitute substitution => substitution.file
                | _ => none
              match written with
              | some path =>
                if path != "/dev/stdout" && path != "/dev/stderr" then
                  let _ ← Act.writeFile path .write ByteArray.empty
              | none => return
            let editor := Edit.Editor.start isQuiet (if given.has 'z' then '\x00' else '\n')
            if given.has 'i' then
              editInPlace script ((given.value? 'i').getD "") paths editor
            else
              let named := if paths.isEmpty then ["-"] else paths
              let (inputs, failure) ← named.foldlM (fun (inputs, failure) path => do
                match ← readInput path with
                | .ok text => return (inputs ++ [(path, text)], failure)
                | .error reason =>
                  if reason = .isDirectory then
                    complain ("read error on " ++ path ++ ": " ++ reason.text)
                  else complain ("can't read " ++ path ++ ": " ++ reason.text)
                  return (inputs, if reason = .isDirectory then 4 else 2))
                (([] : List (String × String)), 0)
              if given.has 's' then
                let (status, _, _) ← inputs.foldlM
                  (fun (status, (ended : Option Nat), editor) (path, text) => do
                    if ended.isSome then return (status, ended, editor)
                    else
                      let (printed, ended, editor) ←
                        Edit.runOn script path (Edit.linesFrom editor.lineBreak 1 text) editor
                      print printed
                      return (ended.getD status, ended, editor)) (failure, none, editor)
                return status
              else
                let lines := inputs.foldl
                  (fun (lines : List Edit.Line) (_, text) =>
                    lines ++ Edit.linesFrom editor.lineBreak (lines.length + 1) text) []
                let name := (inputs.head?.map Prod.fst).getD "-"
                let (printed, ended, _) ← Edit.runOn script name lines editor
                print printed
                return ended.getD failure

end Utility

end TestCursor
