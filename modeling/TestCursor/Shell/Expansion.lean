import TestCursor.Shell.Arithmetic
import TestCursor.Shell.Field
import TestCursor.Shell.User
import TestCursor.Shell.Variable

/-!
# Expansion of words

Parameters, outputs of scripts and expressions are put into words. How the output of a script is
captured is left open here, because running it is expanding more words. The order is that of word
expansions in the POSIX description of the shell command language.
-/

namespace TestCursor

namespace Shell

/-- What gives the output of a script. -/
abbrev Capture := Option Command → Act String

/-- Where in a word a tilde stands for a home directory. -/
inductive Homes
  | nowhere
  | atStart
  /-- At the beginning and behind each colon. -/
  | inList
  deriving DecidableEq, Repr

/-- How a word is expanded. -/
structure Manner where
  homes : Homes
  /-- It is cut into fields. -/
  isCut : Bool
  /-- Its own plain text is cut, too. -/
  isLoose : Bool

namespace Manner

/-- The words of a command. -/
def full : Manner := ⟨.atStart, true, false⟩

/-- A word that stays one text. -/
def single : Manner := ⟨.atStart, false, false⟩

def value : Manner := ⟨.inList, false, false⟩

def document : Manner := ⟨.nowhere, false, false⟩

/-- The word of a parameter. -/
def inner (manner : Manner) : Manner := ⟨.atStart, manner.isCut, manner.isCut⟩

end Manner

/-- The home directory that a name behind a tilde stands for. -/
def home? (process : Process) (name : String) : Option String :=
  if name.isEmpty then process.valueOf? "HOME"
  else (User.find? name).map User.home

/-- Plain text whose tildes were replaced. `isStart` tells that it begins the word, and `isEnd`
that nothing follows. -/
def homeRuns (process : Process) (manner : Manner) (isStart isEnd : Bool) (text : String) :
    List Run :=
  let pieces := if manner.homes == .inList then splitOn ':' text.toList else [text.toList]
  let kind := if manner.isLoose then RunKind.loose else .solid
  let plain (text : List Char) : Run := ⟨kind, glyphsOf false (String.ofList text)⟩
  let rec go (isFirst : Bool) : List (List Char) → List Run
    | [] => []
    | piece :: more =>
      let here := match piece with
        | '~' :: rest =>
          let name := rest.takeWhile (· != '/')
          let after := rest.drop name.length
          let isBound := isEnd || !after.isEmpty || !more.isEmpty
          match if (isFirst && !isStart) || !isBound then none
            else home? process (String.ofList name) with
          | some home => [⟨.solid, glyphsOf true home⟩, plain after]
          | none => [plain piece]
        | piece => [plain piece]
      here ++ (if more.isEmpty then [] else plain [':'] :: go false more)
  if manner.homes == .nowhere || !text.contains '~' then [plain text.toList] else go true pieces

/-- The arguments of a shell, as they are put in place of a parameter. -/
def argumentGlyphs (process : Process) (name : String) (inQuotes isCut : Bool) : List Glyph :=
  let separators := process.valueOf? "IFS"
  let between : List Glyph :=
    if inQuotes && isCut && name = "@" then [.boundary]
    else if inQuotes || !isCut then
      match (separators.getD " ").toList with
      | [] => []
      | c :: _ => [.char c inQuotes]
    else if separators.isSome then [.boundary] else [.char ' ' false]
  between.intercalate (process.arguments.map (glyphsOf inQuotes))

/-- What a parameter is worth, if anything. -/
def valueGlyphs? (process : Process) (name : String) (inQuotes isCut : Bool) :
    Option (List Glyph) :=
  if name = "@" || name = "*" then some (argumentGlyphs process name inQuotes isCut)
  else (parameter? process name).map (glyphsOf inQuotes)

def valueRun (process : Process) (name : String) (inQuotes : Bool) (glyphs : List Glyph) : Run :=
  if !inQuotes then ⟨.loose, glyphs⟩
  else if name = "@" && !process.arguments.isEmpty then ⟨.listed, glyphs⟩
  else ⟨.solid, glyphs⟩

/-- A value is missing: it is not there or, where that counts, empty. -/
def isMissing (alsoEmpty : Bool) : Option (List Glyph) → Bool
  | none => true
  | some glyphs => alsoEmpty && glyphs.isEmpty

/-- The value of an expression. -/
def calculate (text : String) : Act Int := do
  let complaint (reason : String) : String :=
    "arithmetic expression: " ++ reason ++ ": \"" ++ text ++ "\""
  let scope : Expression.Scope :=
    { value := fun name => do
        let value := ((← Act.process).valueOf? name).getD ""
        match Expression.ofText? value with
        | some value => return value
        | none => Act.fail ("Illegal number: " ++ value)
      assign := fun name value => Act.assign name (toString value)
      divisionByZero := Act.fail (complaint "division by zero") }
  match Expression.parse text with
  | .ok expression => expression.evaluate scope
  | .error e =>
    let _ ← e.begun.evaluate scope
    Act.fail (complaint e.reason)

/-- A text without the line breaks at its end. -/
def dropFinalBreaks (text : String) : String :=
  String.ofList (text.toList.reverse.dropWhile (· == '\n')).reverse

/-- A text without the characters that no variable can hold. -/
def dropNuls (text : String) : String := String.ofList (text.toList.filter (· != '\x00'))

/-- The end of a value at which a pattern is tried. -/
inductive ValueEnd
  | start
  | finish
  deriving DecidableEq, Repr

def firstArgument (glyphs : List Glyph) : List Char :=
  (textOf (glyphs.takeWhile (· != .boundary))).toList

/-- A value without what a pattern fits at one of its ends. A text that is compared with the
pattern ends where its first argument ends, and so does a search from the left. A search from the
right begins at the end of all arguments. But among quoted arguments of which the first one has a
character of patterns, it begins in that one, and the places are still counted from the end of
all. -/
def withoutFitting (glob : Glob) (side : ValueEnd) (longest inQuotes : Bool)
    (glyphs : List Glyph) : List Glyph :=
  let parts := glob.parts
  let first := firstArgument glyphs
  let isShort := inQuotes && first.any "!*?[=~:/-]\\".toList.contains
  let places := if (side == .start) == longest then
      (List.range ((if isShort then first.length else glyphs.length) + 1)).reverse
    else List.range (first.length + 1)
  let fits (place : Nat) : Bool := GlobPart.fit parts <|
    match side with
    | .start => first.take place
    | .finish => if isShort then first.drop place else firstArgument (glyphs.drop place)
  match places.find? fits with
  | none => glyphs
  | some place =>
    let isFromRight := (side == .start) == longest
    let place := if isShort && isFromRight then place + (glyphs.length - first.length) else place
    match side with
    | .start => glyphs.drop place
    | .finish => glyphs.take place

/-- The value of a parameter without what a pattern fits at one of its ends. -/
def trim (inQuotes : Bool) (name : String) (manner : Manner) (side : ValueEnd) (longest : Bool)
    (pattern : List Run) : Act (List Run) := do
  let p ← Act.process
  match valueGlyphs? p name inQuotes manner.isCut with
  | some glyphs =>
    let kept := withoutFitting (globOfRuns pattern) side longest inQuotes glyphs
    return [valueRun p name inQuotes kept]
  | none =>
    if ← Act.hasOption 'u' then Act.fail (name ++ ": parameter not set")
    else return [valueRun p name inQuotes []]

mutual

/-- Expand the parts of a word. `isStart` tells that they are its first ones. -/
def expandParts (capture : Capture) (manner : Manner) (isStart : Bool) :
    List Part → Act (List Run)
  | [] => return []
  | part :: rest => do
    let runs ← expandPart capture manner isStart rest.isEmpty part
    return runs ++ (← expandParts capture manner false rest)

def expandPart (capture : Capture) (manner : Manner) (isStart isEnd : Bool) :
    Part → Act (List Run)
  | .plain text => return homeRuns (← Act.process) manner isStart isEnd text
  | .escaped text => return [⟨.solid, glyphsOf true text⟩]
  | .quotes [.parameter true "@" .value] => do
    expandForm capture manner true "@" .value
  | .quotes parts => do
    let runs ← expandParts capture { manner with homes := .nowhere, isLoose := false } false parts
    return [⟨.solid, [.mark]⟩] ++ runs ++ [⟨.solid, [.mark]⟩]
  | .parameter inQuotes name form => expandForm capture manner inQuotes name form
  | .output inQuotes script => do
    let text := dropFinalBreaks (dropNuls (← capture script))
    return [⟨if inQuotes then .solid else .loose, glyphsOf inQuotes text⟩]
  | .arithmetic inQuotes expression => do
    let runs ← expandParts capture .document false expression
    let value ← calculate (textOfRuns runs)
    return [⟨if inQuotes then .solid else .loose, glyphsOf inQuotes (toString value)⟩]

/-- Expand what a parameter is asked for. -/
def expandForm (capture : Capture) (manner : Manner) (inQuotes : Bool) (name : String) :
    Form → Act (List Run)
  | .malformed => Act.fail "Bad substitution"
  | .value => do
    let p ← Act.process
    match valueGlyphs? p name inQuotes manner.isCut with
    | some glyphs => return [valueRun p name inQuotes glyphs]
    | none =>
      if ← Act.hasOption 'u' then Act.fail (name ++ ": parameter not set")
      else return [valueRun p name inQuotes []]
  | .length => do
    let p ← Act.process
    match valueGlyphs? p name inQuotes manner.isCut with
    | some glyphs =>
      return [valueRun p "" inQuotes (glyphsOf inQuotes (toString glyphs.length))]
    | none =>
      if ← Act.hasOption 'u' then Act.fail (name ++ ": parameter not set")
      else return [valueRun p "" inQuotes (glyphsOf inQuotes "0")]
  | .orElse alsoEmpty word => do
    let p ← Act.process
    let value := valueGlyphs? p name inQuotes manner.isCut
    if isMissing alsoEmpty value then expandParts capture manner.inner true word
    else return [valueRun p name inQuotes (value.getD [])]
  | .instead alsoEmpty word => do
    let p ← Act.process
    if isMissing alsoEmpty (valueGlyphs? p name inQuotes manner.isCut) then
      return [valueRun p name inQuotes []]
    else expandParts capture manner.inner true word
  | .orAssign alsoEmpty word => do
    let value := valueGlyphs? (← Act.process) name inQuotes manner.isCut
    if isMissing alsoEmpty value then
      let runs ← expandParts capture .single true word
      Act.assign name (textOfRuns runs)
    let p ← Act.process
    return [valueRun p name inQuotes ((valueGlyphs? p name inQuotes manner.isCut).getD [])]
  | .orFail alsoEmpty word => do
    let p ← Act.process
    let value := valueGlyphs? p name inQuotes manner.isCut
    if isMissing alsoEmpty value then
      let runs ← expandParts capture .single true word
      let reason := if word.isEmpty then
          "parameter not set" ++ (if alsoEmpty then " or null" else "")
        else textOfRuns runs
      Act.fail (name ++ ": " ++ reason)
    else return [valueRun p name inQuotes (value.getD [])]
  | .withoutStart longest pattern => do
    trim inQuotes name manner .start longest (← expandParts capture .single true pattern)
  | .withoutEnd longest pattern => do
    trim inQuotes name manner .finish longest (← expandParts capture .single true pattern)

end

def expandWord (capture : Capture) (word : Word) : Act (List String) := do
  let runs ← expandParts capture .full true word
  let machine ← get
  let fields := fieldsOf machine.process.separators runs
  if ← Act.hasOption 'f' then return fields.map textOf
  else return fields.flatMap (pathsOf machine.tree machine.process.cwd)

def expandWords (capture : Capture) : List Word → Act (List String)
  | [] => return []
  | word :: words => do
    let here ← expandWord capture word
    return here ++ (← expandWords capture words)

def expandText (capture : Capture) (manner : Manner) (word : Word) : Act String := do
  return textOfRuns (← expandParts capture manner true word)

def expandGlob (capture : Capture) (word : Word) : Act Glob := do
  return globOfRuns (← expandParts capture .single true word)

end Shell

end TestCursor
