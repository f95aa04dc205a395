import TestCursor.Shell.Expansion

/-!
# Redirections

First the words of all redirections of a command are expanded, then the streams are changed one
after another. A stream that was changed for a command becomes again what it was.
-/

namespace TestCursor

namespace Shell

/-- A redirection whose word was expanded. -/
inductive StreamChange
  | file (stream : Nat) (access : Access) (path : String)
  /-- The stream becomes the same as another one. -/
  | same (stream source : Nat)
  | closed (stream : Nat)
  | document (stream : Nat) (index : Nat)
  deriving Repr

namespace StreamChange

def stream : StreamChange → Nat
  | .file stream _ _ | .same stream _ | .closed stream | .document stream _ => stream

end StreamChange

/-- Complain about the number of a stream, as about the script up to where it was read. -/
def badNumber {α : Type} : Act α := do
  Act.modifyProcess fun p => { p with line := p.scriptLine }
  Act.fail "Syntax error: Bad fd number"

def Redirection.expand (capture : Capture) : Redirection → Act StreamChange
  | .file stream access path => do
    return .file stream access (← expandText capture .single path)
  | .duplicate stream source => do
    match (← expandText capture .single source).toList with
    | ['-'] => return .closed stream
    | [c] =>
      if c.isDigit then return .same stream (c.toNat - '0'.toNat)
      else badNumber
    | _ => badNumber
  | .document stream index => return .document stream index

/-- Why a file cannot be opened, as the shell tells it. -/
def openingComplaint (access : Access) (path : String) (reason : Reason) : String :=
  let isMissing := reason == .notFound || reason == .notDirectory
  if access == .read then
    "cannot open " ++ path ++ ": " ++ (if isMissing then "No such file" else reason.text)
  else
    "cannot create " ++ path ++ ": " ++
      (if isMissing then "Directory nonexistent" else reason.text)

/-- Change a stream. `isSetAside` tells that it was put away to be restored: then it stays closed
if it cannot become the same as another one, and nobody hears of that on a closed stream. -/
def StreamChange.apply (capture : Capture) (isSetAside : Bool) : StreamChange → Act Unit
  | .file stream access path => do
    match ← Act.openPath access (← Act.hasOption 'C') path with
    | .ok index => Act.bind stream (some index)
    | .error reason => Act.fail (openingComplaint access path reason)
  | .same stream source => do
    if stream = source then return
    else
      match ← Act.opening? source with
      | some index => Act.bind stream (some index)
      | none =>
        if isSetAside then Act.bind stream none
        Act.fail (toString source ++ ": " ++ Reason.badStream.text)
  | .closed stream => Act.bind stream none
  | .document stream index => do
    let word := ((← get).documents[index]?).getD []
    let text ← expandText capture .document word
    let (reading, _) ← Act.newPipe (Octets.toBytes text)
    Act.bind stream (some reading)

namespace Act

/-- Change streams one after another. Each is put away when it changes for the first time;
`earlier` are those that were. -/
def applyEach (capture : Capture) (earlier : List Nat) : List StreamChange → Act Unit
  | [] => return
  | change :: rest => do
    change.apply capture (!earlier.contains change.stream)
    applyEach capture (change.stream :: earlier) rest

/-- Change streams one after another. Whether all of that was possible. -/
def applyAll (capture : Capture) (changes : List StreamChange) : Act Bool := do
  try
    applyEach capture [] changes
    return true
  catch interrupt =>
    match interrupt with
    | .failed => return false
    | interrupt => throw interrupt

/-- Streams become what they are in a table. -/
def restoreStreams (streams : List Nat) (before : List (Nat × Nat)) : Act Unit :=
  streams.forM fun stream => bind stream (before.lookup stream)

/-- Change streams for a time. What is done gets to know whether that was possible. -/
def withStreams {α : Type} (capture : Capture) (redirections : List Redirection)
    (act : Bool → Act α) : Act α := do
  if redirections.isEmpty then act true
  else
    let changes ← redirections.mapM (Redirection.expand capture)
    let before := (← process).streams
    let result ← try
        let isDone ← applyAll capture changes
        act isDone
      catch interrupt =>
        restoreStreams (changes.map StreamChange.stream) before
        throw interrupt
    restoreStreams (changes.map StreamChange.stream) before
    return result

/-- Change streams for the rest of the process. -/
def changeStreams (capture : Capture) (changes : List StreamChange) : Act Unit :=
  changes.forM (StreamChange.apply capture false)

end Act

end Shell

end TestCursor
