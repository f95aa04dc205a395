import TestCursor.Shell.Expansion
import TestCursor.Shell.Job
import TestCursor.Shell.Reader.Command

/-!
# Running scripts

A script is read and run line by line. Running one command is left open here; what is settled is
how lines follow one another, how a process begins and ends, and when the processes in the
background and the actions for signals get their turn.
-/

namespace TestCursor

namespace Shell

/-- What is known about the place of a command. -/
structure Place where
  /-- The process ends with the command. -/
  isLast : Bool
  /-- A failure of the command is looked at. -/
  isTested : Bool

namespace Place

/-- Neither the last command nor a tested one. -/
def plain : Place := ⟨false, false⟩

/-- The same place, but not at the end. -/
def inside (place : Place) : Place := { place with isLast := false }

def tested : Place := ⟨false, true⟩

end Place

abbrev Runner := Place → Command → Act Unit

namespace Act

/-- The lines of a file that were begun when so many characters of it are left, and the others. -/
def splitBegun (unread : List Char) (left : Nat) : List Char × List Char :=
  let count := unread.length - left
  let read := unread.take count
  if read.getLast?.all (· == '\n') then (read, unread.drop count)
  else
    let rest := unread.drop count
    let line := rest.takeWhile (· != '\n')
    (read ++ line ++ (rest.drop line.length).take 1, rest.drop (line.length + 1))

/-- Show the lines of a file that were begun, if they are to be shown. The others. -/
def showBegun (unread : List Char) (left : Nat) : Act (List Char) := do
  let (begun, rest) := splitBegun unread left
  if ← hasOption 'v' then say 2 (String.ofList begun)
  return rest

/-- Read the next line of a script. Of the lines of a file, `unread` are those that were not
begun. -/
def nextLine (input : Input) (unread : List Char) : Act (Option Line × Input × List Char) := do
  let machine ← get
  let input :=
    { input with documents := machine.documents, aliases := machine.process.aliases }
  match readLine input with
  | .ok (line, input) =>
    let unread ← showBegun unread input.left
    modify fun machine =>
      { machine with
        documents := input.documents
        process := { machine.process with scriptLine := input.line } }
    return (line, input, unread)
  | .error e =>
    let _ ← showBegun unread e.left
    modifyProcess fun p => { p with line := e.line }
    fail e.reason

/-- Run the lines of a script one after another, at most so many. Whether there were commands. -/
def runLines (run : Runner) (place : Place) : Nat → Bool → Input → List Char → Act Bool
  | 0, hasRun, _, _ => return hasRun
  | bound + 1, hasRun, input, unread => do
    let (line, input, unread) ← nextLine input unread
    match line with
    | none => return hasRun
    | some line =>
      match line.command with
      | some command =>
        run { place with isLast := place.isLast && line.isLast } command
        runLines run place bound true input unread
      | none => runLines run place bound hasRun input unread

/-- Run a script. Its status is that of its last command, and 0 if it has none. -/
def runScript (run : Runner) (isFile : Bool) (place : Place) (text : String) : Act Unit := do
  let outer := (← process).scriptLine
  andAlways
    (do
      let hasRun ← runLines run place (text.length + 2) false (Input.ofText text #[] [])
        (if isFile then text.toList else [])
      if !hasRun then setStatus 0)
    (modifyProcess fun p => { p with scriptLine := outer })

def runText (run : Runner) : Place → String → Act Unit := runScript run false

def runFile (run : Runner) (content : ByteArray) : Act Unit :=
  runScript run true .plain (Octets.ofBytes content)

/-- The actions for signals are run in between, and leave the status as it is. -/
def runAction (run : Runner) (action : String) : Act Unit := do
  let p ← process
  let status := p.savedStatus.getD p.status
  modifyProcess fun q => { q with savedStatus := some status }
  andAlways (runText run .plain action) (modifyProcess fun q =>
    { q with savedStatus := p.savedStatus })
  setStatus status

/-- Do about the signals that came in what is to be done about them. -/
def handleSignals (run : Runner) : Act Unit := do
  let machine ← get
  if machine.signals.isEmpty then return
  else
    let number := machine.process.number
    let (mine, others) := machine.signals.partition fun entry => entry.1 == number
    set { machine with signals := others }
    mine.forM fun (_, signal) => do
      let p ← process
      if p.ignored.contains signal then return
      else
        match p.traps.lookup signal with
        | some action =>
          if signal = Signal.kill then throw (.killed signal)
          else if !action.isEmpty then runAction run action
        | none => if Signal.isHarmless signal then return else throw (.killed signal)

/-- How an action ends its process. -/
def endingOf (act : Act Unit) : Act Ending := fun machine =>
  match (act machine : Except Interrupt Unit × Machine) with
  | (.error (.killed signal), machine) => (.ok (.killed signal), machine)
  | (_, machine) => (.ok (.exited (machine.process.status % 256)), machine)

/-- A process of the background gets its turn. -/
def runWaiting (run : Runner) (finish : Act Unit → Act Ending) (number : Nat) : Act Unit := do
  let machine ← get
  match machine.waiting.find? fun entry => entry.1 == number with
  | none => return
  | some (_, snapshot, command) =>
    let outer := machine.process
    set { machine with
      waiting := machine.waiting.filter fun entry => entry.1 != number
      living := outer.number :: machine.living, process := snapshot }
    let ending ← finish (run ⟨true, false⟩ command)
    modify fun machine =>
      { machine with
        ended := (number, ending) :: machine.ended
        living := machine.living.drop 1, process := outer }

/-- The action for the end of a shell. -/
def runExitAction (run : Runner) : Act Unit := do
  match (← process).traps.lookup 0 with
  | none => return
  | some action =>
    modifyProcess fun p =>
      { p with traps := p.traps.filter fun entry => entry.1 != 0, loops := 0 }
    runAction run action

/-- Run an action to the end of its process. Before that the action for the end of the shell has
its turn, and after it the processes in the background. -/
def conclude (run : Runner) : Nat → Act Unit → Act Ending
  | 0, act => endingOf act
  | depth + 1, act => do
    let ending ← endingOf act
    let ending ← match ending with
      | .killed signal => pure (.killed signal)
      | .exited status => do
        setStatus status
        endingOf (runExitAction run)
    let jobs := (← process).jobs
    jobs.forM fun job => runWaiting run (conclude run depth) job.process
    return ending

/-- How deep processes of the background can start others. -/
def maxJobDepth : Nat := 20

/-- Run an action as the whole of a process. -/
def toEnd (run : Runner) (act : Act Unit) : Act Ending := conclude run maxJobDepth act

/-- All processes in the background get their turn. -/
def settle (run : Runner) : Act Unit := do
  let waiting := (← get).waiting
  waiting.forM fun entry => runWaiting run (toEnd run) entry.1

/-- A process number that was not used. -/
def freshNumber : Act Nat := do
  let machine ← get
  set { machine with lastNumber := machine.lastNumber + 1 }
  return machine.lastNumber + 1

/-- A copy of a process. Only the signals that are ignored stay so. -/
def copyOf (p : Process) (number : Nat) : Process :=
  { p with
    number := number, parent := p.number
    traps := p.traps.filter fun entry => entry.2.isEmpty && entry.1 != 0
    jobs := [], savedStatus := none, lost := none }

/-- Run an action in a process of its own, and wait for its end. -/
def inChild (run : Runner) (act : Act Unit) : Act Ending := do
  let number ← freshNumber
  let outer ← process
  modify fun machine =>
    { machine with process := copyOf outer number, living := outer.number :: machine.living }
  let ending ← toEnd run act
  let isHeard := ((outer.traps.lookup Signal.child).map fun action => !action.isEmpty).getD false
  modify fun machine =>
    let signals := machine.signals.filter fun entry => entry.1 != number
    let news := (outer.number, Signal.child)
    { machine with
      process := outer, living := machine.living.drop 1
      signals := if isHeard && !signals.contains news then signals ++ [news] else signals }
  noticeEnds
  return ending

/-- Say how a process ended that was waited for. -/
def announce (ending : Ending) : Act Unit := do
  match ending with
  | .killed signal =>
    if signal = 2 || signal = Signal.brokenPipe then return
    else say 2 (Signal.ending signal ++ "\n")
  | .exited _ => return

/-- Wait for an action in a process that is a part of a job. -/
def awaitMember (run : Runner) (act : Act Unit) : Act Unit := do
  let ending ← inChild run act
  announce ending
  setStatus ending.status

/-- Wait for an action in a process of its own. -/
def await (run : Runner) (act : Act Unit) : Act Unit := do
  takeSlot
  awaitMember run act

/-- End a process in the way in which another one ended that took its place. -/
def endAs {α : Type} (ending : Ending) : Act α := do
  match ending with
  | .exited status =>
    setStatus status
    modifyProcess fun p => { p with traps := [] }
    throw .exited
  | .killed signal => throw (.killed signal)

def capture (run : Runner) (script : Option Command) : Act String := do
  let (reading, writing) ← newPipe ByteArray.empty
  takeSlot
  let ending ← inChild run do
    bind 1 (some writing)
    match script with
    | some command => run ⟨true, false⟩ command
    | none => setStatus 0
  announce ending
  modifyProcess fun p => { p with outputStatus := ending.status }
  match ← readOpening none reading with
  | .ok bytes => return Octets.ofBytes bytes
  | .error _ => return ""

end Act

end Shell

end TestCursor
