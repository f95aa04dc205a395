import TestCursor.Shell.Machine
import TestCursor.Shell.Pattern

/-!
# Fields

What a word expands to is cut into fields. Only what was put in place of something outside of
quotes is cut, at the characters that separate fields. A field with wildcards then stands for the
paths that it fits.
-/

namespace TestCursor

namespace Shell

/-- A piece of an expanded word. -/
inductive Glyph
  | char (c : Char) (isQuoted : Bool)
  /-- Quotes, which make a field even of nothing. -/
  | mark
  /-- The end of an argument of the shell. -/
  | boundary
  deriving DecidableEq, Repr

/-- How a run of glyphs is cut into fields. -/
inductive RunKind
  /-- Not at all. -/
  | solid
  /-- At the characters that separate fields, and between arguments. -/
  | loose
  /-- Between arguments only. -/
  | listed
  deriving DecidableEq, Repr

/-- Glyphs that are cut in the same way. -/
structure Run where
  kind : RunKind
  glyphs : List Glyph
  deriving Repr

def glyphsOf (isQuoted : Bool) (text : String) : List Glyph :=
  text.toList.map fun c => .char c isQuoted

namespace Glyph

/-- The character of a glyph with whether it is quoted. -/
def char? : Glyph → Option (Char × Bool)
  | .char c isQuoted => some (c, isQuoted)
  | _ => none

end Glyph

def globOf (glyphs : List Glyph) : Glob := glyphs.filterMap Glyph.char?

def textOf (glyphs : List Glyph) : String := (globOf glyphs).text

/-- The text of runs that stay together. -/
def textOfRuns (runs : List Run) : String := textOf (runs.flatMap Run.glyphs)

/-- The pattern of runs that stay together. -/
def globOfRuns (runs : List Run) : Glob := globOf (runs.flatMap Run.glyphs)

/-- The state of cutting: the fields that are complete and the glyphs of the next one, both with
the last one in front. -/
structure Cutter where
  fields : List (List Glyph)
  current : List Glyph
  /-- The last field ended at a blank, and more blanks do not count. -/
  afterBlank : Bool
  /-- The run before this one was cut between arguments only. -/
  afterListed : Bool
  /-- The kind of the last run that can be cut. -/
  last : RunKind

namespace Cutter

/-- Nothing was cut. -/
def start : Cutter := ⟨[], [], false, false, .solid⟩

/-- How a glyph separates fields: not, or as a blank does, or otherwise. -/
def separation (separators : List Char) (kind : RunKind) (glyph : Glyph) : Option Bool :=
  match glyph with
  | .boundary => some true
  | .mark => none
  | .char c _ =>
    if kind == .loose && separators.contains c then some (defaultSeparators.toList.contains c)
    else none

def step (separators : List Char) (kind : RunKind) (cutter : Cutter) (glyph : Glyph) : Cutter :=
  let keep : Cutter :=
    { cutter with current := glyph :: cutter.current, afterBlank := false }
  match separation separators kind glyph with
  | none => if cutter.afterBlank then { keep with current := [glyph] } else keep
  | some isBlank =>
    if cutter.afterBlank then { cutter with current := [], afterBlank := isBlank }
    else
      let counts := !(cutter.afterListed || kind == .listed)
      let afterBlank := counts && isBlank
      if cutter.current.isEmpty && afterBlank then { cutter with afterBlank := false }
      else
        { cutter with
          fields := cutter.current.reverse :: cutter.fields, current := []
          afterBlank := afterBlank }

def run (separators : List Char) (cutter : Cutter) (run : Run) : Cutter :=
  match run.kind with
  | .solid => { cutter with current := run.glyphs.reverse ++ cutter.current }
  | kind =>
    run.glyphs.foldl (step separators kind)
      { cutter with
        afterBlank := false, afterListed := cutter.last == .listed, last := kind }

def finish (cutter : Cutter) : List (List Glyph) :=
  if cutter.last == .listed || !cutter.current.isEmpty then
    (cutter.current.reverse :: cutter.fields).reverse
  else cutter.fields.reverse

end Cutter

/-- The fields of an expanded word. -/
def fieldsOf (separators : String) (runs : List Run) : List (List Glyph) :=
  (runs.foldl (Cutter.run separators.toList) .start).finish

/-- The names in a directory, with the directory itself and the one above it. -/
def namesIn (node : FileTree) : List String :=
  "." :: ".." :: node.entries.map fun entry => Octets.encode entry.1

/-- A hidden name fits only a pattern that begins with a dot. -/
def fitsName (piece : Glob) (name : String) : Bool :=
  let showsHidden := match Glob.quotedChar piece with
    | some ('.', _) => true
    | _ => false
  (showsHidden || name.toList.head? != some '.') && piece.fits name.toList

/-- The name that a piece spells that is not general. -/
def plainName (piece : Glob) : String :=
  String.ofList (piece.parts.filterMap fun part => match part with
    | .one c => some c
    | _ => none)

/-- The paths that fit a pattern in pieces, each behind what was fitted so far. -/
def fitting (tree : FileTree) (cwd : Location) : String → List Glob → List String
  | done, [] => [done]
  | done, piece :: pieces =>
    let behind (name : String) : String := if pieces.isEmpty then name else name ++ "/"
    if piece.isGeneral then
      match tree.node? cwd (if done.isEmpty then "." else Octets.decode done) with
      | some node =>
        (if node.isDir then namesIn node else []).flatMap fun name =>
          if fitsName piece name then fitting tree cwd (done ++ behind name) pieces else []
      | none => []
    else fitting tree cwd (done ++ behind (plainName piece)) pieces

/-- A path names an entry, also a link that leads nowhere. -/
def isEntry (tree : FileTree) (cwd : Location) (path : String) : Bool :=
  match tree.arrive cwd .entry (Octets.decode path) with
  | .ok (.here _) => true
  | _ => false

/-- The words that a field stands for. -/
def pathsOf (tree : FileTree) (cwd : Location) (field : List Glyph) : List String :=
  let glob := globOf field
  if glob.hasWildcard && glob.pieces.any Glob.isGeneral then
    match (fitting tree cwd "" glob.pieces).filter (isEntry tree cwd) with
    | [] => [glob.text]
    | paths => paths.mergeSort fun x y => decide (x ≤ y)
  else [glob.text]

/-- The state of cutting a line into at most so many fields. -/
structure LineCutter where
  fields : List String
  /-- The characters since the last field, the last one in front. -/
  current : List Char
  /-- How many fields can still be cut off; the rest of the line is the last one. -/
  left : Nat
  afterBlank : Bool
  /-- How many of the characters belong to the last field if nothing but separators follows. -/
  kept : Option Nat

namespace LineCutter

/-- Cut at a character or not. -/
def step (separators : List Char) (cutter : LineCutter) (entry : Char × Bool) : LineCutter :=
  let (c, isQuoted) := entry
  let isSeparator := !isQuoted && separators.contains c
  let isBlank := isSeparator && defaultSeparators.toList.contains c
  let longer : LineCutter := { cutter with current := c :: cutter.current }
  if cutter.left = 0 then
    if isBlank then { longer with kept := cutter.kept <|> some cutter.current.length }
    else
      { longer with
        kept := if isSeparator && cutter.afterBlank then cutter.kept else none
        afterBlank := false }
  else if cutter.afterBlank then
    if isSeparator then { cutter with current := [], afterBlank := isBlank }
    else { cutter with current := [c], afterBlank := false }
  else if !isSeparator then longer
  else if cutter.current.isEmpty && isBlank then cutter
  else if cutter.left = 1 then
    { longer with left := 0, kept := some cutter.current.length, afterBlank := isBlank }
  else
    { cutter with
      fields := String.ofList cutter.current.reverse :: cutter.fields, current := []
      left := cutter.left - 1, afterBlank := isBlank }

def finish (cutter : LineCutter) : List String :=
  let rest := cutter.current.reverse
  let rest := match cutter.kept with
    | some count => rest.take count
    | none => rest
  (if rest.isEmpty then cutter.fields else String.ofList rest :: cutter.fields).reverse

end LineCutter

/-- A line cut into at most so many fields. The last one is the rest of the line without the
separators at its end. -/
def fieldsUpTo (separators : String) (count : Nat) (line : List (Char × Bool)) : List String :=
  (line.foldl (LineCutter.step separators.toList) ⟨[], [], count, false, none⟩).finish

end Shell

end TestCursor
