import TestCursor.Shell.Builtin.Job

/-!
# Builtin commands that control the shell

They run text as a script, end loops, functions and the shell, tell what a word means, and deal
with signals.
-/

namespace TestCursor

namespace Shell

namespace Builtin

/-! ## Scripts -/

/-- Run the arguments as a script. -/
def eval (run : Runner) (place : Place) (args : List String) : Act Nat := do
  if args.isEmpty then return 0
  else
    Act.runText run place.inside (" ".intercalate args)
    Act.status

/-- Run a file as a part of the script. -/
def source (run : Runner) (args : List String) : Act Nat := do
  let (_, args) ← options "" "" args
  match args with
  | [] => return 0
  | name :: _ =>
    let path : Option String ← if name.contains '/' then pure (some name)
      else
        (← Act.searchPath).findSomeM? fun directory => do
          let path := if directory.isEmpty then name else directory ++ "/" ++ name
          match ← Act.node? path with
          | some (.file _ _) => return some path
          | _ => return none
    match path with
    | none => Act.fail (name ++ ": not found")
    | some path =>
      match ← Act.readFile none path with
      | .error .isDirectory => return 0
      | .error reason => Act.fail (openingComplaint .read path reason)
      | .ok bytes =>
        let outer ← Act.process
        Act.modifyProcess fun p => { p with line := 1, command := some path }
        Act.andAlways
          (try Act.runFile run bytes
          catch interrupt =>
            match interrupt with
            | .leaveFunction => return
            | interrupt => throw interrupt)
          (Act.modifyProcess fun p => { p with line := outer.line, command := outer.command })
        Act.status

/-! ## Ends -/

/-- End loops, or go on with their next round. -/
def leaveLoops (isNext : Bool) (args : List String) : Act Nat := do
  let count ← match args with
    | [] => pure 1
    | arg :: _ => number arg
  if count = 0 then Act.fail ("Illegal number: " ++ args.headD "")
  else
    let count := min count (← Act.process).loops
    if count = 0 then return 0
    else
      Act.setStatus 0
      throw (if isNext then .nextRound count else .leaveLoops count)

/-- End the shell. -/
def exit (args : List String) : Act Nat := do
  let p ← Act.process
  let status ← match args with
    | [] => pure (p.savedStatus.getD p.status)
    | arg :: _ => number arg
  Act.modifyProcess fun p => { p with status := status % 256, savedStatus := none }
  throw .exited

/-- End the function or the file. -/
def leaveFunction (args : List String) : Act Nat := do
  match args with
  | [] => throw .leaveFunction
  | arg :: _ =>
    Act.setStatus (← number arg)
    throw .leaveFunction

/-! ## What words mean -/

def described (word : String) : Meaning → Act (Option String)
  | .keyword => return some (word ++ " is a shell keyword")
  | .aliased text => return some (word ++ " is an alias for " ++ text)
  | .function _ => return some (word ++ " is a shell function")
  | .special => return some (word ++ " is a special shell builtin")
  | .regular => return some (word ++ " is a shell builtin")
  | .program path isKnown => do
    if word.contains '/' then
      match ← Act.executableAt path [path] with
      | .ok _ => return some (word ++ " is " ++ path)
      | .error _ => return none
    else
      return some (word ++ (if isKnown then " is a tracked alias for " else " is ") ++ path)
  | .missing _ => return none

/-- What a word means, as short as possible. -/
def abridged (word : String) : Meaning → Act (Option String)
  | .keyword | .function _ | .special | .regular => return some word
  | .aliased text => return some ("alias " ++ word ++ "=" ++ quotedText text)
  | .program path isKnown => do
    if isKnown then return some path
    else
      match ← Act.executableAt path [path] with
      | .ok _ => return some path
      | .error _ => return none
  | .missing _ => return none

/-- Tell what words mean. -/
def type (args : List String) : Act Nat :=
  args.foldlM (fun status word => do
    match ← described word (← Act.meaningOf true true word) with
    | some text =>
      let printed ← print (text ++ "\n")
      return max status printed
    | none =>
      Act.say 1 (word ++ ": not found\n")
      return 127) 0

def tell (isShort : Bool) (word : String) : Act Nat := do
  let meaning ← Act.meaningOf true true word
  match ← if isShort then abridged word meaning else described word meaning with
  | some text => print (text ++ "\n")
  | none =>
    if !isShort then Act.say 1 (word ++ ": not found\n")
    return 127

/-- The programs that were looked up are kept in so many groups. -/
def programGroups : Nat := 31

def programGroup (name : String) : Nat :=
  let codes := name.toList.map Char.toNat
  (codes.headD 0 * 16 + codes.foldl (· + ·) 0) % 32768 % programGroups

/-- Look programs up in advance, or show those that were looked up, or forget them. -/
def hash (args : List String) : Act Nat := do
  let (found, args) ← options "r" "" args
  if !found.isEmpty then
    Act.modifyProcess fun p => { p with programs := [] }
    return 0
  else if args.isEmpty then
    let programs := (← Act.process).programs
    let shown := (List.range programGroups).flatMap fun group =>
      programs.filter fun program => programGroup program.name == group
    print (String.join (shown.map fun program =>
      program.path ++ (if program.isStale then "*" else "") ++ "\n"))
  else
    args.foldlM (fun status name => do
      Act.forgetProgram name
      match ← Act.meaningOf false true name with
      | .missing _ =>
        Act.complain (name ++ ": not found")
        return 1
      | _ => return status) 0

/-! ## Signals -/

/-- The signals and what is done about them, as commands. -/
def listTraps : Act Nat := do
  let p ← Act.process
  let shown := (p.traps.mergeSort fun x y => decide (x.1 ≤ y.1)).map fun (signal, action) =>
    "trap -- " ++ quotedText action ++ " " ++
      (Signal.name? signal).getD (toString signal) ++ "\n"
  print (String.join shown)

/-- Say what is to be done about signals. -/
def setTraps (action : Option String) (signals : List String) : Act Nat :=
  signals.foldlM (fun status word => do
    if status != 0 then return status
    else
      match Signal.number? word with
      | none =>
        Act.say 2 ("trap: " ++ word ++ ": bad trap\n")
        return 1
      | some signal =>
        Act.modifyProcess fun p =>
          let others := p.traps.filter fun entry => entry.1 != signal
          { p with
            traps := match action with
              | some action => (signal, action) :: others
              | none => others }
        return 0) 0

/-- Say or tell what is done about signals. -/
def trap (args : List String) : Act Nat := do
  let (_, args) ← options "" "" args
  let isNumber (word : String) : Bool := !word.isEmpty && word.toList.all Char.isDigit
  match args with
  | [] => listTraps
  | [signal] => setTraps none [signal]
  | first :: rest =>
    if isNumber first then setTraps none (first :: rest)
    else setTraps (if first = "-" then none else some first) rest

/-- The number of the process that a word names. A job is no group of processes of its own, which
its word would stand for. -/
def processOf (word : String) : Act (Option Nat) := do
  match word.toList with
  | '%' :: _ =>
    let _ ← jobOf word
    return none
  | '-' :: digits => return some (← number (String.ofList digits))
  | _ => return some (← number word)

/-- Send a signal to a process. Whether there is such a process. -/
def send (signal target : Nat) : Act Bool := do
  let machine ← get
  let target := if target = 0 then machine.process.number else target
  let isWaiting := machine.waiting.any fun entry => entry.1 == target
  let isLiving := machine.process.number == target || machine.living.contains target
  if !isWaiting && !isLiving then
    return machine.process.jobs.any fun job => job.process == target && !job.isNoticed
  else if signal = 0 then return true
  else if isWaiting then
    let ignores := machine.waiting.any fun entry =>
      entry.1 == target && signal != Signal.kill &&
        ((entry.2.1.traps.lookup signal).isSome || entry.2.1.ignored.contains signal)
    if !ignores && !Signal.isHarmless signal then
      set { machine with
        waiting := machine.waiting.filter fun entry => entry.1 != target
        ended := (target, .killed signal) :: machine.ended }
    return true
  else
    set { machine with signals := machine.signals ++ [(target, signal)] }
    return true

def listSignals (words : List String) : Act Nat := do
  match words with
  | [] => print (String.join (("0" :: Signal.names).map fun name => name ++ "\n"))
  | word :: _ =>
    let status ← number word
    let signal := if 128 < status then status - 128 else status
    match if signal = 0 then none else Signal.name? signal with
    | some name => print (name ++ "\n")
    | none => Act.fail ("invalid signal number or exit status: " ++ word)

/-- Send a signal to processes. -/
def kill (args : List String) : Act Nat := do
  let usage {α : Type} : Act α :=
    Act.fail ("Usage: kill [-s sigspec | -signum | -sigspec] [pid | job]... or\n" ++
      "kill -l [exitstatus]")
  let sendAll (signal : Nat) (words : List String) : Act Nat := do
    if words.isEmpty then usage
    else
      words.foldlM (fun status word => do
        let isSent ← match ← processOf word with
          | some target => send signal target
          | none => pure false
        if isSent then return status
        else
          Act.complain (Reason.noProcess.text ++ "\n")
          return 1) 0
  match args with
  | [] => usage
  | first :: rest =>
    match first.toList with
    | '-' :: spec =>
      match Signal.number? (String.ofList spec) with
      | some signal => sendAll signal rest
      | none =>
        let (found, words) ← options "l" "s" args
        if found.any fun entry => entry.1 == 'l' then listSignals words
        else
          match found.reverse.lookup 's' with
          | none => sendAll Signal.terminate words
          | some word =>
            match Signal.number? word with
            | some signal => sendAll signal words
            | none => Act.fail ("invalid signal number or name: " ++ word)
    | _ => sendAll Signal.terminate args

/-- How long the shell has been running. -/
def times : Act Nat := print "0m0.000000s 0m0.000000s\n0m0.000000s 0m0.000000s\n"

end Builtin

end Shell

end TestCursor
