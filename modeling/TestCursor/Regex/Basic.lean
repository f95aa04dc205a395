/-!
# Regular expressions

A regular expression fits parts of a text. Of all parts that it fits the first one counts, and of
those that begin there the longest. What its groups fit is told by the order in which the
expression is tried: the first of several alternatives and as many repetitions as possible.
-/

namespace TestCursor

/-- A regular expression. -/
inductive Regex
  | empty
  /-- A character of a kind. -/
  | one (accepts : Char → Bool)
  /-- The empty text between two characters, of which either can be missing. -/
  | border (accepts : Option Char → Option Char → Bool)
  | group (number : Nat) (body : Regex)
  /-- What a group has fitted. -/
  | again (number : Nat)
  | append (first second : Regex)
  | either (first second : Regex)
  /-- So many repetitions at least, and at most if there is a limit. -/
  | many (low : Nat) (high : Option Nat) (body : Regex)
  deriving Inhabited

namespace Regex

/-- How far a match has come. -/
structure Spot where
  position : Nat
  /-- The parts that groups have fitted: the number of the group, its start and its end. -/
  groups : List (Nat × Nat × Nat)
  deriving Repr, Inhabited, BEq

/-- A part of a text that an expression fits. -/
structure Fit where
  start : Nat
  stop : Nat
  groups : List (Nat × Nat × Nat)
  deriving Repr, Inhabited

/-- The expression refers to what a group has fitted. -/
def looksBack : Regex → Bool
  | .empty | .one _ | .border _ => false
  | .again _ => true
  | .group _ body | .many _ _ body => looksBack body
  | .append first second | .either first second => looksBack first || looksBack second

/-- The spots that were reached first of those at the same position. If the expression looks back,
groups tell spots apart, too. -/
def distinct (looksBack : Bool) (spots : List Spot) : List Spot :=
  (spots.foldl
    (fun (kept : List Spot) spot =>
      let isKnown := kept.any fun other =>
        other.position == spot.position && (!looksBack || other == spot)
      if isKnown then kept else spot :: kept) []).reverse

/-- The spots that steps lead to, those that more steps lead to in front of those where they
begin. `seen` are the spots that were left already. -/
def closure (looksBack : Bool) (step : Spot → List Spot) :
    Nat → List Spot → Spot → List Spot × List Spot
  | 0, seen, spot => ([spot], seen)
  | bound + 1, seen, spot =>
    let (found, seen) := (step spot).foldl
      (fun (found, seen) next =>
        let isKnown := seen.any fun other =>
          other.position == next.position && (!looksBack || other == next)
        if isKnown then (found, seen)
        else
          let (more, seen) := closure looksBack step bound (next :: seen) next
          (found ++ more, seen))
      (([] : List Spot), seen)
    (found ++ [spot], seen)

/-- The spots after at most so many steps, those after more steps in front. -/
def atMost (looksBack : Bool) (step : Spot → List Spot) : Nat → Spot → List Spot
  | 0, spot => [spot]
  | count + 1, spot =>
    let further := (step spot).flatMap fun next =>
      if next.position = spot.position then [next] else atMost looksBack step count next
    distinct looksBack (further ++ [spot])

/-- The spots after just so many steps. -/
def exactly (looksBack : Bool) (step : Spot → List Spot) : Nat → Spot → List Spot
  | 0, spot => [spot]
  | count + 1, spot =>
    distinct looksBack ((step spot).flatMap (exactly looksBack step count))

/-- How many characters of a kind follow one another from a position on, at most so many. -/
def countFrom (text : Array Char) (accepts : Char → Bool) : Nat → Nat → Nat
  | 0, _ => 0
  | bound + 1, position =>
    match text[position]? with
    | some c => if accepts c then countFrom text accepts bound (position + 1) + 1 else 0
    | none => 0

/-- The spots that a match can reach from one, the preferred ones in front. -/
def reach (text : Array Char) (isBack : Bool) : Regex → Spot → List Spot
  | .empty, spot => [spot]
  | .one accepts, spot =>
    match text[spot.position]? with
    | some c => if accepts c then [{ spot with position := spot.position + 1 }] else []
    | none => []
  | .border accepts, spot =>
    let before := if spot.position = 0 then none else text[spot.position - 1]?
    if accepts before text[spot.position]? then [spot] else []
  | .group number body, spot =>
    (reach text isBack body spot).map fun found =>
      { found with groups := (number, spot.position, found.position) ::
          found.groups.filter fun group => group.1 != number }
  | .again number, spot =>
    match spot.groups.lookup number with
    | none => []
    | some (start, stop) =>
      let length := stop - start
      if text.extract start stop == text.extract spot.position (spot.position + length) &&
          spot.position + length ≤ text.size then
        [{ spot with position := spot.position + length }]
      else []
  | .append first second, spot =>
    match reach text isBack first spot with
    | [next] => reach text isBack second next
    | nexts => distinct isBack (nexts.flatMap (reach text isBack second))
  | .either first second, spot =>
    distinct isBack (reach text isBack first spot ++ reach text isBack second spot)
  | .many low high (.one accepts), spot =>
    let limit := high.getD (text.size - spot.position)
    let count := countFrom text accepts limit spot.position
    if count < low then []
    else
      (List.range (count - low + 1)).map fun fewer =>
        { spot with position := spot.position + (count - fewer) }
  | .many low high body, spot =>
    let step := reach text isBack body
    let starts := exactly isBack step low spot
    let further (start : Spot) : List Spot :=
      match high with
      | some high => atMost isBack step (high - low) start
      | none => (closure isBack step (text.size + 1) [start] start).1
    distinct isBack (starts.flatMap further)

/-- The longest part that the expression fits from a position on. -/
def fitAt? (regex : Regex) (text : Array Char) (start : Nat) : Option Fit :=
  let found := reach text regex.looksBack regex ⟨start, []⟩
  let longest := found.foldl
    (fun (best : Option Spot) spot =>
      match best with
      | none => some spot
      | some best => if best.position < spot.position then some spot else some best)
    none
  longest.map fun spot => ⟨start, spot.position, spot.groups⟩

/-- The first part that the expression fits from a position on, where at most so many positions
are tried. -/
def fitFrom? (regex : Regex) (text : Array Char) : Nat → Nat → Option Fit
  | 0, _ => none
  | bound + 1, start =>
    if text.size < start then none
    else
      match regex.fitAt? text start with
      | some fit => some fit
      | none => fitFrom? regex text bound (start + 1)

/-- The first part of a text from a position on that the expression fits. -/
def find? (regex : Regex) (text : Array Char) (start : Nat) : Option Fit :=
  regex.fitFrom? text (text.size + 1 - start) start

/-- The expression fits a part of a text. -/
def fits (regex : Regex) (text : String) : Bool := (regex.find? text.toList.toArray 0).isSome

def Fit.group (fit : Fit) (text : Array Char) (number : Nat) : List Char :=
  if number = 0 then (text.extract fit.start fit.stop).toList
  else
    match fit.groups.lookup number with
    | some (start, stop) => (text.extract start stop).toList
    | none => []

end Regex

end TestCursor
