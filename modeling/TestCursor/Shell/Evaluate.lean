import TestCursor.Shell.Builtin.Condition
import TestCursor.Shell.Builtin.Control
import TestCursor.Shell.Reader.Command

/-!
# Running commands

What a command does, given what the commands inside of it do. Commands that run inside of others
are bounded in their depth, as the stack of a process is. Lists, pipelines and compound commands
have the statuses that the POSIX description of the shell command language gives them.
-/

namespace TestCursor

namespace Shell

/-- The programs of a system. -/
abbrev Utilities := String → Option Utility

/-- How often a loop can go round. -/
def maxRounds : Nat := 100000000

namespace Evaluation

section

variable (utilities : Utilities) (run : Runner)

/-- The output of a script, in an expansion. -/
def capture : Capture := Act.capture run

/-! ## Simple commands -/

def runBuiltin (place : Place) (name : String) (args : List String) : Act Nat :=
  match name with
  | "." => Builtin.source run args
  | ":" | "true" => return 0
  | "false" => return 1
  | "[" => testBracketed args
  | "alias" => Builtin.aliasAll args
  | "bg" | "fg" => Builtin.resume args
  | "break" => Builtin.leaveLoops false args
  | "cd" | "chdir" => Builtin.cd args
  | "continue" => Builtin.leaveLoops true args
  | "echo" => Builtin.echo args
  | "eval" => Builtin.eval run place args
  | "exit" => Builtin.exit args
  | "export" => Builtin.exportAll args
  | "getopts" => Builtin.getopts args
  | "hash" => Builtin.hash args
  | "jobs" => Builtin.jobs args
  | "kill" => Builtin.kill args
  | "local" => Builtin.localise args
  | "printf" => Builtin.printf args
  | "pwd" => Builtin.pwd args
  | "read" => Builtin.readLine args
  | "readonly" => Builtin.fixAll args
  | "return" => Builtin.leaveFunction args
  | "set" => Builtin.setAll args
  | "shift" => Builtin.shift args
  | "test" => testCondition args
  | "times" => Builtin.times
  | "trap" => Builtin.trap args
  | "type" => Builtin.type args
  | "ulimit" => Builtin.ulimit args
  | "umask" => Builtin.umask args
  | "unalias" => Builtin.unaliasAll args
  | "unset" => Builtin.unsetAll args
  | "wait" => Builtin.wait run args
  | _ => return 0

/-- Run a builtin command under its name. Its failure ends the shell if it is a special one. -/
def callBuiltin (place : Place) (isSpecial : Bool) (name : String) (args : List String) :
    Act Unit := do
  let outer := (← Act.process).command
  Act.modifyProcess fun p => { p with command := some name }
  let restore : Act Unit := Act.modifyProcess fun p => { p with command := outer }
  try
    let status ← runBuiltin run place name args
    restore
    Act.setStatus status
  catch interrupt =>
    restore
    if interrupt = .failed && !isSpecial then return else throw interrupt

/-- How many functions can be called inside of one another. -/
def maxCalls : Nat := 1000

def callFunction (place : Place) (body : Command) (args : List String) : Act Unit := do
  let outer ← Act.process
  if maxCalls ≤ outer.calls then
    Act.fail ("Maximum function recursion depth (" ++ toString maxCalls ++ ") reached")
  else
    Act.modifyProcess fun p =>
      { p with
        arguments := args, loops := 0, calls := p.calls + 1, optionIndex := 1
        optionOffset := none }
    let restore : Act Unit := Act.modifyProcess fun p =>
      { p with
        arguments := outer.arguments, loops := outer.loops, calls := outer.calls
        optionIndex := outer.optionIndex, optionOffset := outer.optionOffset }
    Act.andAlways
      (try run place.inside body
      catch interrupt => if interrupt = .leaveFunction then return else throw interrupt)
      restore

/-- Remember the line of the command. -/
def enterLine (line : Nat) : Act Unit := Act.modifyProcess fun p => { p with line := line }

/-- The shell does something about signals. -/
def hasTraps : Act Bool := return (← Act.process).traps.any fun entry => !entry.2.isEmpty

/-- The status of a command that is no program that can be run. -/
def failureStatus : Reason → Nat
  | .notFound | .notDirectory => 127
  | _ => 126

def callProgram (place : Place) (path : String) (words : List String) : Act Unit := do
  match ← Act.executableAt path words with
  | .error reason =>
    Act.complain (words.headD "" ++ ": " ++ Act.reasonText reason)
    Act.setStatus (failureStatus reason)
  | .ok executable =>
    if place.isLast && !(← hasTraps) then Act.become utilities run executable
    else Act.await run (Act.become utilities run executable)

/-- Replace the shell by a program. -/
def execute (args : List String) : Act Unit := do
  let outer := (← Act.process).command
  Act.modifyProcess fun p => { p with command := some "exec" }
  let (_, words) ← Builtin.options "" "" args
  if words.isEmpty then
    Act.modifyProcess fun p => { p with command := outer }
    Act.setStatus 0
  else
    match ← Act.executableOf false words with
    | .ok executable => do
      Act.modifyProcess fun p => { p with command := outer }
      Act.become utilities run executable
    | .error reason =>
      Act.complain (words.headD "" ++ ": " ++ Act.reasonText reason)
      Act.setStatus (failureStatus reason)
      throw .exited

/-- The words of a command behind a word that passes over functions, and whether the standard
directories are searched; nothing if that word is the command itself. -/
def passedOver (bound : Nat) (words : List String) (isStandard : Bool) :
    Option (List String × Bool) :=
  match bound, words with
  | bound + 1, word :: rest =>
    match word.toList with
    | ['-', '-'] => if rest.isEmpty then none else some (rest, isStandard)
    | '-' :: c :: letters =>
      if (c :: letters).all (· == 'p') then passedOver bound rest true else none
    | _ => some (word :: rest, isStandard)
  | _, _ => none

/-- What is to be run by the words of a command. -/
structure Call where
  words : List String
  usesFunctions : Bool
  isStandard : Bool

/-- Pass over the words in front of a command that only change how it is looked up. -/
def Call.resolve : Nat → Call → Call
  | 0, call => call
  | bound + 1, call =>
    match call.words with
    | "command" :: rest =>
      match passedOver rest.length rest call.isStandard with
      | some (words, isStandard) => resolve bound ⟨words, false, isStandard⟩
      | none => { call with usesFunctions := false }
    | _ => call

/-- The options of the command that passes over functions, if it only tells something. -/
def tellWord (args : List String) : Act Unit := do
  let outer := (← Act.process).command
  Act.modifyProcess fun p => { p with command := some "command" }
  let restore : Act Unit := Act.modifyProcess fun p => { p with command := outer }
  try
    let (found, words) ← Builtin.options "pvV" "" args
    let status ← match words, found.find? fun entry => entry.1 != 'p' with
      | word :: _, some (letter, _) => Builtin.tell (letter == 'v') word
      | _, _ => pure 0
    restore
    Act.setStatus status
  catch interrupt =>
    restore
    if interrupt = .failed then return else throw interrupt

/-- The fields of a word of a command whose arguments can be assignments. -/
def expandArgument (word : Word) : Act (List String) := do
  if (assignmentWord? word).isSome then return [← expandText (capture run) .value word]
  else expandWord (capture run) word

/-- The words that come out of those of a command. -/
def expandCall : List String → List Word → Act (List String)
  | done, [] => return done
  | done, word :: words => do
    let takesAssignments := match done.dropWhile (· == "command") with
      | name :: _ => assigningNames.contains name
      | [] => false
    let isHidden : Bool ← match done with
      | name :: _ => pure ((← Act.process).functions.lookup name).isSome
      | [] => pure false
    let fields ← if takesAssignments && !isHidden then expandArgument run word
      else expandWord (capture run) word
    expandCall (done ++ fields) words

/-- Expand and make the assignments of a command. What they are, for the trace. -/
def assignEach (isLocal : Bool) : List (String × Word) → Act (List String)
  | [] => return []
  | (name, word) :: rest => do
    let value ← expandText (capture run) .value word
    if isLocal then
      Act.makeLocal name
      Act.assign name value
      Act.exportVariable name
    else Act.assign name value
    return (name ++ "=" ++ value) :: (← assignEach isLocal rest)

/-- Show a command before it runs, on the stream of complaints as it was. -/
def trace (errors : Option Nat) (words : List String) : Act Unit := do
  if ← Act.hasOption 'x' then
    match errors with
    | some index =>
      let options := (← Act.process).options
      let text := ((← Act.process).valueOf? "PS4").getD ""
      Act.modifyProcess fun p => { p with options := options.filter (· != 'x') }
      let start ← match readText text with
        | .ok word => expandText (capture run) .document word
        | .error _ => pure text
      Act.modifyProcess fun p => { p with options := options }
      let _ ← Act.writeOpening index (Octets.toBytes (start ++ " ".intercalate words ++ "\n"))
    | none => return

/-- Run the call of a command whose words were expanded. -/
def runCall (place : Place) (assignments : List (String × Word)) (errors : Option Nat)
    (call : Call) : Act Unit := do
  let name := call.words.headD ""
  let args := call.words.drop 1
  let functions := (← Act.process).functions
  let function? := if call.usesFunctions then functions.lookup name else none
  let isSpecial := function?.isNone && specialNames.contains name && call.usesFunctions
  let enter : Act Unit := do
    let made ← assignEach run (!isSpecial) assignments
    trace run errors (made ++ call.words)
  let act : Act Unit := do
    enter
    match function? with
    | some body => callFunction run place body args
    | none =>
      if name = "command" then tellWord args
      else if name = "exec" then execute utilities run args
      else if name.contains '/' then callProgram utilities run place name call.words
      else if isBuiltin name then callBuiltin run place isSpecial name args
      else
        let isHidden := (functions.lookup name).isSome
        let isElsewhere := assignments.any fun assignment => assignment.1 == searchPathName
        let found ← if call.isStandard then
            Act.searchIn name .notFound (splitString ':' Act.defaultPath)
          else if isHidden || isElsewhere then Act.searchProgram name
          else Act.lookUp name
        match found with
        | .ok path => callProgram utilities run place (← Act.runnablePath name path) call.words
        | .error reason =>
          Act.complain (name ++ ": " ++ Act.reasonText reason)
          Act.setStatus 127
  if isSpecial then act else Act.withFrame act

def runSimple (place : Place) (line : Nat) (assignments : List (String × Word))
    (words : List Word) (redirections : List Redirection) : Act Unit := do
  Act.modifyProcess fun p => { p with line := line, outputStatus := 0 }
  let fields ← expandCall run [] words
  let errors ← Act.opening? 2
  let call := Call.resolve fields.length ⟨fields, true, false⟩
  match call.words with
  | [] =>
    Act.withStreams (capture run) redirections fun isDone => do
      if isDone then
        let made ← assignEach run false assignments
        if !made.isEmpty then trace run errors made
        Act.setStatus (← Act.process).outputStatus
  | name :: _ =>
    let isFunction := call.usesFunctions && ((← Act.process).functions.lookup name).isSome
    if name = "exec" && !isFunction then
      let changes ← redirections.mapM (Redirection.expand (capture run))
      if ← Act.applyAll (capture run) changes then
        runCall utilities run place assignments errors call
      else if call.usesFunctions then throw .failed
      else return
    else
      Act.withStreams (capture run) redirections fun isDone => do
        if isDone then runCall utilities run place assignments errors call
        else if !isFunction && call.usesFunctions && specialNames.contains name then
          throw .failed

/-! ## Compound commands -/

/-- How a round of a loop ended. -/
inductive Round
  | over
  /-- The loop ends with the round. -/
  | last

/-- Run a part of a loop. -/
def inRound (act : Act Unit) : Act Round := do
  try
    act
    return .over
  catch interrupt =>
    match interrupt with
    | .leaveLoops count => if count ≤ 1 then return .last else throw (.leaveLoops (count - 1))
    | .nextRound count => if count ≤ 1 then return .over else throw (.nextRound (count - 1))
    | interrupt => throw interrupt

/-- Something happens in a loop. -/
def inLoop (act : Act Unit) : Act Unit := do
  Act.modifyProcess fun p => { p with loops := p.loops + 1 }
  Act.andAlways act (Act.modifyProcess fun p => { p with loops := p.loops - 1 })

/-- Run the test of a loop: whether its body runs, or nothing if the loop goes on with its next
round or ends. -/
def testRound (expected : Bool) (test : Command) : Act (Except Round Bool) := do
  try
    run .tested test
    return .ok (((← Act.status) == 0) == expected)
  catch interrupt =>
    match interrupt with
    | .leaveLoops count =>
      if count ≤ 1 then return .error .last else throw (.leaveLoops (count - 1))
    | .nextRound count =>
      if count ≤ 1 then return .error .over else throw (.nextRound (count - 1))
    | interrupt => throw interrupt

/-- The rounds of a loop with a test. The number is the status if no more rounds follow. -/
def loopRounds (place : Place) (expected : Bool) (test body : Command) : Nat → Nat → Act Unit
  | 0, status => Act.setStatus status
  | bound + 1, status => do
    match ← testRound run expected test with
    | .error .last => Act.setStatus status
    | .error .over => loopRounds place expected test body bound status
    | .ok false => Act.setStatus status
    | .ok true =>
      match ← inRound (run place body) with
      | .last => return
      | .over => loopRounds place expected test body bound (← Act.status)

def iterationRounds (place : Place) (name : String) (body : Command) : List String → Act Unit
  | [] => return
  | value :: values => do
    Act.assign name value
    match ← inRound (run place body) with
    | .last => return
    | .over => iterationRounds place name body values

def fitsSome (text : String) : List Word → Act Bool
  | [] => return false
  | pattern :: patterns => do
    let glob ← expandGlob (capture run) pattern
    if glob.fits text.toList then return true else fitsSome text patterns

/-- Run the first clause whose patterns a text fits. -/
def select (place : Place) (text : String) : List (List Word × Option Command) → Act Unit
  | [] => Act.setStatus 0
  | (patterns, body) :: clauses => do
    if ← fitsSome run text patterns then
      match body with
      | some body => run place body
      | none => Act.setStatus 0
    else select place text clauses

/-- Look up the program of a command before a process runs it. -/
def lookUpName : Command → Act Unit
  | .simple _ _ ([.plain name] :: _) _ => do
    if isVariableName name && ((← Act.process).functions.lookup name).isNone && !isBuiltin name then
      let _ ← Act.lookUp name
  | _ => return

/-- Run the commands of a pipeline, each of which reads what the one before it wrote. -/
def runPiped (isTested : Bool) : Option Nat → List Command → Act Unit
  | _, [] => return
  | input, [command] => runMember input none command
  | input, command :: commands => do
    let (reading, writing) ← Act.newPipe ByteArray.empty
    runMember input (some writing) command
    runPiped isTested (some reading) commands
where
  /-- Run a command of a pipeline. -/
  runMember (input output : Option Nat) (command : Command) : Act Unit := do
    lookUpName command
    Act.awaitMember run do
      if input.isSome then Act.bind 0 input
      if output.isSome then Act.bind 1 output
      run ⟨true, isTested⟩ command

/-- Run commands one after another. -/
def runSequence (place : Place) : List Command → Act Unit
  | [] => return
  | [command] => run place command
  | command :: commands => do
    run place.inside command
    runSequence place commands

/-- Put a command in the background. -/
def enqueue (line : Nat) (command : Command) (redirections : List Redirection) : Act Unit := do
  let number ← Act.freshNumber
  let null ← Act.addOpening ⟨.device .null, 0, false, true, false⟩
  let members := match command with
    | .pipeline commands => commands
    | _ => []
  members.forM lookUpName
  let command := if redirections.isEmpty then command
    else .redirected line command redirections
  modify fun machine =>
    let copy := Act.copyOf machine.process number
    let copy :=
      { copy with
        streams := (0, null) :: copy.streams.filter fun entry => entry.1 != 0
        ignored := Signal.keyboard ++ copy.ignored }
    { machine with waiting := machine.waiting ++ [(number, copy, command)] }
  Act.addJob number members.length
  Act.setStatus 0

/-- Run a command in a subshell. At its end a shell becomes the subshell. -/
def runSubshell (place : Place) (command : Command) (redirections : List Redirection) :
    Act Unit := do
  let changes ← redirections.mapM (Redirection.expand (capture run))
  let act : Act Unit := do
    Act.changeStreams (capture run) changes
    run ⟨true, place.isTested⟩ command
  if place.isLast && !(← hasTraps) then act else Act.await run act

/-- Run a command without a look at what follows from its status. -/
def runPlain (place : Place) : Command → Act Unit
  | .simple line assignments words redirections =>
    runSimple utilities run place line assignments words redirections
  | .pipeline commands => do
    Act.takeSlot
    runPiped run place.isTested none commands
  | .negation command => do
    run .tested command
    Act.setStatus (if (← Act.status) = 0 then 1 else 0)
  | .both first second => do
    run .tested first
    if (← Act.status) = 0 then run place second
  | .either first second => do
    run .tested first
    if (← Act.status) != 0 then run place second
  | .sequence commands => runSequence run place commands
  | .background line command redirections => enqueue line command redirections
  | .subshell line command redirections => do
    enterLine line
    runSubshell run place command redirections
  | .redirected line command redirections => do
    enterLine line
    Act.withStreams (capture run) redirections fun isDone => do
      if isDone then run place.inside command
  | .choice test yes no => do
    run .tested test
    if (← Act.status) = 0 then run place yes
    else
      match no with
      | some no => run place no
      | none => Act.setStatus 0
  | .loop expected test body =>
    inLoop (loopRounds run place.inside expected test body maxRounds 0)
  | .iteration line name words body => do
    enterLine line
    let values ← expandWords (capture run) words
    if values.isEmpty then Act.setStatus 0
    inLoop (iterationRounds run place.inside name body values)
  | .selection line subject clauses => do
    enterLine line
    let text ← expandText (capture run) .single subject
    select run place text clauses
  | .definition name body => do
    Act.modifyProcess fun p => { p with functions := putPair name body p.functions }
    Act.forgetProgram name
    Act.setStatus 0

/-- A failure of a command ends a shell that asks for that. -/
def isDecisive : Command → Bool
  | .simple _ _ _ _ | .pipeline _ | .background _ _ _ | .subshell _ _ _ => true
  | _ => false

def runCommand (place : Place) (command : Command) : Act Unit := do
  if ← Act.hasOption 'n' then return
  else
    runPlain utilities run place command
    Act.handleSignals run
    if isDecisive command && !place.isTested && (← Act.status) != 0 then
      if ← Act.hasOption 'e' then throw .exited

end

end Evaluation

/-- Run commands inside of one another at most so deep. A deeper one uses up the stack. -/
def evaluate (utilities : Utilities) : Nat → Runner
  | 0 => fun _ _ => throw (.killed Signal.segmentation)
  | depth + 1 => Evaluation.runCommand utilities (evaluate utilities depth)

end Shell

end TestCursor
