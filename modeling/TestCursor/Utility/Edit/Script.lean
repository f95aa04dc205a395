import TestCursor.Regex.Remark

/-!
# Scripts of the stream editor

A script is a list of commands, each with the lines that it is for. A block is a command that is
passed over together with what is inside of it.
-/

namespace TestCursor

namespace Edit

/-- A line that a command is for. -/
inductive Address
  | line (number : Nat)
  | last
  /-- Lines that the expression fits; without one, the expression that was used last. -/
  | pattern (regex : Option Regex)
  /-- Every so many lines, from the first one on. -/
  | step (first step : Nat)

inductive RangeEnd
  | at (address : Address)
  /-- So many lines behind the first one. -/
  | after (count : Nat)
  /-- The next line whose number is a multiple. -/
  | multiple (factor : Nat)

/-- The lines that a command is for. -/
structure Selector where
  first : Option Address
  finish : Option RangeEnd
  /-- The range can end on its first line. -/
  isEager : Bool
  isNegated : Bool

/-- A part of what is put in the place of a text. -/
inductive Piece
  | text (text : List Char)
  | group (number : Nat)
  /-- The case of what follows changes. -/
  | case (letter : Char)

/-- How a text is replaced. -/
structure Substitution where
  regex : Option Regex
  pieces : List Piece
  /-- All matches from that one on are replaced. -/
  isGlobal : Bool
  /-- The number of the first match that is replaced. -/
  first : Nat
  prints : Bool
  file : Option String

inductive Action
  /-- The commands up to the one of that number are a block. -/
  | block (stop : Nat)
  /-- A command that is only a letter. -/
  | plain (letter : Char)
  | append (text : List Char)
  | insert (text : List Char)
  | change (text : List Char)
  | label (name : String)
  /-- Go on at a label, or at the end. -/
  | branch (letter : Char) (label : String)
  | quit (prints : Bool) (status : Nat)
  | list (width : Option Nat)
  | readFile (path : String)
  /-- Print the next line of a file when the script has ended. -/
  | readLine (path : String)
  | writeFile (path : String) (isFirstLine : Bool)
  | substitute (substitution : Substitution)
  | translate (pairs : List (Char × Char))

structure Instruction where
  selector : Selector
  action : Action

/-- How expressions are written. -/
structure Manner where
  isExtended : Bool

/-- The dialect of an expression with flags. -/
def Manner.dialect (manner : Manner) (ignoresCase isMultiline : Bool) : Regex.Dialect :=
  { isExtended := manner.isExtended, ignoresCase := ignoresCase, isMultiline := isMultiline
    knowsControls := true, isStrict := true }

/-- What is wrong with a script. -/
inductive FlawPlace
  /-- What was not read when it was found. -/
  | before (unread : List Char)
  /-- A block is open that begins in front of that text. -/
  | block (inside : List Char)
  | nowhere

/-- What is wrong with a script, and where. -/
structure Flaw where
  reason : String
  place : FlawPlace

namespace Script

/-- Something is wrong that was found when a text was not yet read. -/
def wrong {α : Type} (reason : String) (unread : List Char) : Except Flaw α :=
  .error ⟨reason, .before unread⟩

/-- A blank in front of a command. -/
def isBlank (c : Char) : Bool := c == ' ' || ('\t' ≤ c && c ≤ '\r' && c != '\n')

/-- A text without blanks at its front. -/
def dropBlanks (text : List Char) : List Char := text.dropWhile isBlank

/-- The number at the front of a text, and what follows it. -/
def number? (text : List Char) : Option (Nat × List Char) :=
  let digits := text.takeWhile Char.isDigit
  if digits.isEmpty then none
  else some (digits.foldl (fun value c => value * 10 + (c.toNat - '0'.toNat)) 0,
    text.drop digits.length)

/-- How many characters a set of characters has up to its closing bracket. -/
def setLength : Nat → List Char → Option Nat
  | 0, _ => none
  | _, [] => none
  | _, ']' :: _ => some 1
  | bound + 1, '[' :: ':' :: rest =>
    let name := rest.takeWhile (· != ':')
    match rest.drop name.length with
    | ':' :: ']' :: after => (setLength bound after).map (· + name.length + 4)
    | _ => (setLength bound (':' :: rest)).map (· + 1)
  | bound + 1, _ :: rest => (setLength bound rest).map (· + 1)

/-- The set of characters behind an opening bracket, and what follows it. -/
def set? (text : List Char) : Option (List Char × List Char) :=
  let start := match text with
    | '^' :: ']' :: _ => 2
    | '^' :: _ | ']' :: _ => 1
    | _ => 0
  (setLength (text.length + 1) (text.drop start)).map fun length =>
    (text.take (start + length), text.drop (start + length))

/-- The text up to a mark, and what follows it. A backslash in front of the mark is dropped. In a
set of characters of an expression the mark stands for itself. An error tells what is not read when
the mark is missed. -/
def upToMark (mark : Char) (isRegex : Bool) :
    Nat → List Char → Except (List Char) (List Char × List Char)
  | 0, text => .error text
  | _, [] => .error []
  | _, ['\\'] => .error []
  | bound + 1, '\\' :: c :: rest =>
    let here := if c = '\n' then ['\n']
      else if c = mark && (isRegex || c != '&') then [c]
      else ['\\', c]
    (upToMark mark isRegex bound rest).map fun (text, rest) => (here ++ text, rest)
  | bound + 1, c :: rest =>
    if c = mark then .ok ([], rest)
    else if c = '\n' then .error (c :: rest)
    else if isRegex && c = '[' then
      match set? rest with
      | some (inside, rest) =>
        (upToMark mark isRegex bound rest).map fun (text, rest) => (c :: inside ++ text, rest)
      | none => .error (rest.dropWhile (· != '\n'))
    else (upToMark mark isRegex bound rest).map fun (text, rest) => (c :: text, rest)

/-- The text up to a mark, and what follows it. What is wrong if the mark is missed is given. -/
def upTo (reason : String) (mark : Char) (isRegex : Bool) (text : List Char) :
    Except Flaw (List Char × List Char) :=
  match upToMark mark isRegex (text.length + 1) text with
  | .ok found => .ok found
  | .error unread => wrong reason unread

/-- An expression between marks; an empty one is the one used last. What follows it is not read
when something is wrong with it. -/
def regexOf (manner : Manner) (ignoresCase isMultiline : Bool) (text unread : List Char) :
    Except Flaw (Option Regex × Nat) :=
  if text.isEmpty then .ok (none, 9)
  else
    let dialect := manner.dialect ignoresCase isMultiline
    match Regex.ofText dialect text with
    | .error fault => wrong fault.text unread
    | .ok (regex, groups) =>
      if (Regex.remarks dialect text).contains .kindAsSet then
        .error ⟨Regex.Remark.kindAsSet.text, .nowhere⟩
      else .ok (some regex, groups)

/-- The flags behind an address that is an expression, and what follows them and blanks. -/
def addressFlags : Nat → List Char → List Char × List Char
  | 0, text => ([], text)
  | bound + 1, text =>
    match dropBlanks text with
    | 'I' :: rest => ((addressFlags bound rest).1 ++ ['I'], (addressFlags bound rest).2)
    | 'M' :: rest => ((addressFlags bound rest).1 ++ ['M'], (addressFlags bound rest).2)
    | rest => ([], rest)

/-- The number at the front of a text, 0 if there is none, and what follows it. -/
def numberOr0 (text : List Char) : Nat × List Char := (number? text).getD (0, text)

/-- The address at the front of a text, and what follows it. -/
def address? (manner : Manner) (text : List Char) : Except Flaw (Option Address × List Char) := do
  let pattern (mark : Char) (rest : List Char) : Except Flaw (Option Address × List Char) := do
    let (inside, rest) ← upTo "unterminated address regex" mark true rest
    let (flags, rest) := addressFlags rest.length rest
    let (regex, _) ← regexOf manner (flags.contains 'I') (flags.contains 'M') inside rest
    return (some (.pattern regex), rest)
  match text with
  | '$' :: rest => return (some .last, rest)
  | '/' :: rest => pattern '/' rest
  | '\\' :: mark :: rest => pattern mark rest
  | text =>
    match number? text with
    | none => return (none, text)
    | some (first, rest) =>
      match dropBlanks rest with
      | '~' :: more =>
        let (step, rest) := numberOr0 (dropBlanks more)
        return (some (.step first step), rest)
      | _ => return (some (.line first), rest)

/-- The end of a range at the front of a text, and what follows it. -/
def rangeEnd? (manner : Manner) (text : List Char) :
    Except Flaw (Option RangeEnd × List Char) := do
  match text with
  | '+' :: rest =>
    let (count, rest) := numberOr0 (dropBlanks rest)
    return (some (.after count), rest)
  | '~' :: rest =>
    let (factor, rest) := numberOr0 (dropBlanks rest)
    return (some (.multiple factor), rest)
  | text =>
    let (address, rest) ← address? manner text
    return (address.map RangeEnd.at, rest)

/-- The lines that the mark behind an address excludes, and what follows it. -/
def negated (selector : Selector) (text : List Char) : Except Flaw (Selector × List Char) := do
  match dropBlanks text with
  | '!' :: rest =>
    match dropBlanks rest with
    | '!' :: rest => wrong "multiple \x60!'s" rest
    | rest => return ({ selector with isNegated := true }, rest)
  | rest => return (selector, rest)

/-- The lines at the front of a text, and what follows them. -/
def selector (manner : Manner) (text : List Char) : Except Flaw (Selector × List Char) := do
  match text with
  | '+' :: rest | '~' :: rest =>
    wrong "invalid usage of +N or ~N as first address" (numberOr0 (dropBlanks rest)).2
  | text =>
    let (first, rest) ← address? manner text
    match first with
    | none => negated ⟨none, none, false, false⟩ rest
    | some address =>
      let isZero := match address with
        | .line 0 | .step 0 0 => true
        | _ => false
      let checked (endsInPattern : Bool) (selector : Selector) (rest : List Char) :
          Except Flaw (Selector × List Char) :=
        if isZero && !endsInPattern then
          wrong "invalid usage of line address 0" ((dropBlanks rest).drop 1)
        else negated selector rest
      match dropBlanks rest with
      | ',' :: rest =>
        let (finish, rest) ← rangeEnd? manner (dropBlanks rest)
        match finish with
        | none => wrong "unexpected \x60,'" ((dropBlanks rest).drop 1)
        | some finish =>
          let endsInPattern := match finish with
            | .at (.pattern _) => true
            | _ => false
          checked endsInPattern ⟨some address, some finish, isZero, false⟩ rest
      | _ => checked false ⟨some address, none, false, false⟩ rest

/-- A text for a command up to the end of the line, and what follows. Backslashes join lines. -/
def textUpTo : Nat → List Char → List Char × List Char
  | 0, text => ([], text)
  | _, [] | _, ['\\'] => ([], [])
  | _, '\n' :: rest => ([], rest)
  | bound + 1, '\\' :: c :: rest =>
    let (text, rest) := textUpTo bound rest
    ((if c = '\n' then c else (Regex.controlOf? c).getD c) :: text, rest)
  | bound + 1, c :: rest =>
    let (text, rest) := textUpTo bound rest
    (c :: text, rest)

/-- The text of a command that adds lines, and what follows it. -/
def addedText (text : List Char) : Except Flaw (List Char × List Char) :=
  let rest := dropBlanks text
  let done (text : List Char) : Except Flaw (List Char × List Char) :=
    let (found, rest) := textUpTo (text.length + 1) text
    .ok (found ++ ['\n'], rest)
  match rest with
  | [] => wrong "expected \\ after \x60a', \x60c' or \x60i'" []
  | '\\' :: rest =>
    match dropBlanks rest with
    | '\n' :: after => done after
    | [] => .ok ([], [])
    | c :: _ =>
      if rest.head?.map isBlank = some true || c = '\\' then done rest
      else
        let (found, after) := textUpTo (rest.length + 1) (rest.drop 1)
        .ok (rest.take 1 ++ found ++ ['\n'], after)
  | rest => done rest

def pieces : Nat → List Char → List Piece
  | 0, _ => []
  | _, [] => []
  | bound + 1, '&' :: rest => .group 0 :: pieces bound rest
  | bound + 1, '\\' :: c :: rest =>
    if c.isDigit then .group (c.toNat - '0'.toNat) :: pieces bound rest
    else if "ULEul".toList.contains c then .case c :: pieces bound rest
    else .text [(Regex.controlOf? c).getD c] :: pieces bound rest
  | bound + 1, c :: rest => .text [c] :: pieces bound rest

def largestGroup (pieces : List Piece) : Nat :=
  pieces.foldl (fun largest piece =>
    match piece with
    | .group number => max largest number
    | _ => largest) 0

/-- The name of a file up to the end of the line. -/
def fileName (text : List Char) : Except Flaw (String × List Char) :=
  let rest := dropBlanks text
  let name := rest.takeWhile (· != '\n')
  let rest := rest.drop name.length
  if name.isEmpty then wrong "missing filename in r/R/w/W commands" (rest.drop 1)
  else .ok (String.ofList name, rest)

structure Flags where
  isGlobal : Bool
  number : Option Nat
  prints : Bool
  ignoresCase : Bool
  isMultiline : Bool
  file : Option String

/-- The flags behind a replacement, and what follows them and the end of the command. -/
def flags : Nat → Flags → List Char → Except Flaw (Flags × List Char)
  | 0, found, text => .ok (found, text)
  | bound + 1, found, text =>
    match text with
    | [] => .ok (found, [])
    | '\n' :: rest | ';' :: rest => .ok (found, rest)
    | '\x7d' :: _ | '#' :: _ => .ok (found, text)
    | 'g' :: rest =>
      if found.isGlobal then wrong "multiple \x60g' options to \x60s' command" rest
      else flags bound { found with isGlobal := true } rest
    | 'p' :: rest =>
      if found.prints then wrong "multiple \x60p' options to \x60s' command" rest
      else flags bound { found with prints := true } rest
    | 'i' :: rest | 'I' :: rest => flags bound { found with ignoresCase := true } rest
    | 'm' :: rest | 'M' :: rest => flags bound { found with isMultiline := true } rest
    | 'w' :: rest => do
      let (name, rest) ← fileName rest
      return ({ found with file := some name }, rest)
    | c :: rest =>
      if isBlank c then flags bound found rest
      else
        match number? text with
        | none => wrong "unknown option to \x60s'" rest
        | some (number, after) =>
          if found.number.isSome then wrong "multiple number options to \x60s' command" rest
          else if number = 0 then
            wrong "number option to \x60s' command may not be zero" after
          else flags bound { found with number := some number } after

/-- The replacement behind its letter, and what follows it. -/
def substitution (manner : Manner) (text : List Char) : Except Flaw (Action × List Char) := do
  let broken := "unterminated \x60s' command"
  match text with
  | [] => wrong broken []
  | mark :: rest =>
    if mark = '\n' || mark = '\\' then wrong broken []
    else
      let (pattern, rest) ← upTo broken mark true rest
      let (replacement, rest) ← upTo broken mark false rest
      let (found, rest) ←
        flags (rest.length + 1) ⟨false, none, false, false, false, none⟩ rest
      let (regex, groups) ← regexOf manner found.ignoresCase found.isMultiline pattern rest
      let parts := pieces (replacement.length + 1) replacement
      if groups < largestGroup parts then
        wrong ("invalid reference \\" ++ toString (largestGroup parts) ++
          " on \x60s' command's RHS") rest
      else
        return (.substitute ⟨regex, parts, found.isGlobal, found.number.getD 1, found.prints,
          found.file⟩, rest)

/-- The characters of a list of characters to translate. -/
def translated : Nat → List Char → List Char
  | 0, _ => []
  | _, [] => []
  | bound + 1, '\\' :: c :: rest =>
    if c = '\\' then '\\' :: translated bound rest
    else
      match Regex.controlOf? c with
      | some control => control :: translated bound rest
      | none => '\\' :: c :: translated bound rest
  | bound + 1, c :: rest => c :: translated bound rest

/-- The translation behind its letter, and what follows it. -/
def translation (text : List Char) : Except Flaw (Action × List Char) := do
  let broken := "unterminated \x60y' command"
  match text with
  | [] => wrong broken []
  | mark :: rest =>
    let (old, rest) ← upTo broken mark false rest
    let (new, rest) ← upTo broken mark false rest
    let first := translated (old.length + 1) old
    let second := translated (new.length + 1) new
    if first.length != second.length then
      wrong "strings for \x60y' command are different lengths" rest
    else return (.translate (first.zip second), rest)

/-- The label behind its letter, and what follows it. -/
def labelName (text : List Char) : String × List Char :=
  let rest := dropBlanks text
  let name := rest.takeWhile fun c => !isBlank c && c != '\n' && c != ';' && c != '\x7d'
  (String.ofList name, rest.drop name.length)

/-- What follows a command must be its end. -/
def finished (action : Action) (text : List Char) : Except Flaw (Action × List Char) :=
  match dropBlanks text with
  | [] => .ok (action, [])
  | '\n' :: rest | ';' :: rest => .ok (action, rest)
  | '\x7d' :: rest => .ok (action, '\x7d' :: rest)
  | '#' :: rest => .ok (action, '#' :: rest)
  | _ :: rest => wrong "extra characters after command" rest

/-- The command of a letter, for some lines, and what follows it. -/
def action (manner : Manner) (lines : Selector) (letter : Char) (text : List Char) :
    Except Flaw (Action × List Char) := do
  match letter with
  | 'a' => (addedText text).map fun (added, rest) => (.append added, rest)
  | 'i' => (addedText text).map fun (added, rest) => (.insert added, rest)
  | 'c' => (addedText text).map fun (added, rest) => (.change added, rest)
  | ':' =>
    let (name, rest) := labelName text
    if lines.first.isSome then wrong ": doesn't want any addresses" text
    else if name.isEmpty then wrong "\":\" lacks a label" rest
    else return (.label name, rest)
  | 'b' | 't' | 'T' =>
    let (name, rest) := labelName text
    return (.branch letter name, rest)
  | 'q' | 'Q' =>
    if lines.finish.isSome then wrong "command only uses one address" text
    else
      let (status, rest) := numberOr0 (dropBlanks text)
      finished (.quit (letter == 'q') status) rest
  | 'l' =>
    match number? (dropBlanks text) with
    | some (width, rest) => finished (.list (some width)) rest
    | none => finished (.list none) text
  | 'r' => (fileName text).map fun (name, rest) => (.readFile name, rest)
  | 'R' => (fileName text).map fun (name, rest) => (.readLine name, rest)
  | 'w' => (fileName text).map fun (name, rest) => (.writeFile name false, rest)
  | 'W' => (fileName text).map fun (name, rest) => (.writeFile name true, rest)
  | 's' => substitution manner text
  | 'y' => do
    let (action, rest) ← translation text
    finished action rest
  | letter =>
    if "=dDgGhHnNpPxzF".toList.contains letter then finished (.plain letter) text
    else wrong ("unknown command: \x60" ++ String.ofList [letter] ++ "'") text

/-- A block that is open: the number of its command, and what follows its beginning. -/
structure OpenBlock where
  index : Nat
  inside : List Char

/-- The commands of a text behind those that were read. -/
def instructionsUpTo (manner : Manner) :
    Nat → Array Instruction → List OpenBlock → List Char → Except Flaw (Array Instruction)
  | 0, done, _, _ => .ok done
  | bound + 1, done, blocks, text =>
    match text with
    | [] =>
      match blocks with
      | [] => .ok done
      | block :: _ => .error ⟨"unmatched \x60\x7b'", .block block.inside⟩
    | c :: rest =>
      if isBlank c || c = '\n' || c = ';' then instructionsUpTo manner bound done blocks rest
      else do
        let (lines, rest) ← selector manner (c :: rest)
        match rest, blocks with
        | [], _ => wrong "missing command" []
        | '#' :: rest, _ =>
          if lines.first.isSome then wrong "comments don't accept any addresses" rest
          else instructionsUpTo manner bound done blocks (rest.dropWhile (· != '\n'))
        | '\x7b' :: rest, _ =>
          let block : OpenBlock := ⟨done.size, rest⟩
          instructionsUpTo manner bound (done.push ⟨lines, .block 0⟩) (block :: blocks) rest
        | '\x7d' :: rest, [] => wrong "unexpected \x60\x7d'" rest
        | '\x7d' :: rest, block :: blocks =>
          if lines.first.isSome then wrong "\x60\x7d' doesn't want any addresses" rest
          else
            let (stop, rest) ← finished (.block done.size) rest
            let closed := done.modify block.index fun instruction =>
              { instruction with action := stop }
            instructionsUpTo manner bound closed blocks rest
        | letter :: rest, _ =>
          let (action, rest) ← action manner lines letter rest
          instructionsUpTo manner bound (done.push ⟨lines, action⟩) blocks rest

def placeOf? (script : Array Instruction) (name : String) : Option Nat :=
  script.findIdx? fun instruction =>
    match instruction.action with
    | .label other => other == name
    | _ => false

/-- The label that a command goes to and that is missing. -/
def missingLabel? (script : Array Instruction) : Option String :=
  script.findSome? fun instruction =>
    match instruction.action with
    | .branch _ name =>
      if name.isEmpty || (placeOf? script name).isSome then none else some name
    | _ => none

/-- The commands of a script. -/
def read (manner : Manner) (text : List Char) : Except Flaw (Array Instruction) :=
  instructionsUpTo manner (text.length + 2) #[] [] text

end Script

end Edit

end TestCursor
