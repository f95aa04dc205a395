import TestCursor.Analysis

/-!
# Sessions

A session sends test commands to a terminal and remembers the path of the last tests it was asked
to run, so that they can be run again. The path is remembered before the command is sent, and so
also when sending fails.
-/

namespace TestCursor

/-- A surface that takes command lines, over states of type `σ`. -/
structure Terminal (σ : Type) where
  /-- Bring the surface to the front. -/
  raise : σ → σ
  /-- Send a line. It can fail, and changes the state either way. -/
  send : String → σ → Except Error Unit × σ

/-- What the user is told when there is nothing to run again. -/
def noPreviousTests : String := "No previous tests!"

/-- What a session remembers, and the surfaces it has written to. -/
structure Session (σ : Type) where
  /-- The path of the last tests; empty when there were none. -/
  last : String
  /-- What the user was told, the latest at the end. -/
  notices : List String
  terminal : σ
  deriving DecidableEq, Repr

namespace Session

variable {σ : Type}

/-- A session that remembers a path. -/
def resume (last : String) (terminal : σ) : Session σ := ⟨last, [], terminal⟩

/-- The path of the last tests, if there were any. -/
def last? (session : Session σ) : Option String :=
  if session.last.isEmpty then none else some session.last

/-- Run the tests at a path. The command is given. -/
def runTests (terminal : Terminal σ) (settings : Settings) (testPath : String)
    (session : Session σ) : Except Error String × Session σ :=
  let command := settings.commandFor testPath
  let (sent, state) := terminal.send command (terminal.raise session.terminal)
  (sent.map fun _ => command, { session with last := testPath, terminal := state })

def run (terminal : Terminal σ) (settings : Settings) (target : Target) (source : Source)
    (session : Session σ) : Except Error String × Session σ :=
  match settings.resolve target source with
  | .error e => (.error e, session)
  | .ok resolution => runTests terminal settings resolution.testPath session

/-- Run the last tests again. Without any the user is told, and no command is given. -/
def runPrevious (terminal : Terminal σ) (settings : Settings) (session : Session σ) :
    Except Error (Option String) × Session σ :=
  if session.last.isEmpty then
    (.ok none, { session with notices := session.notices ++ [noPreviousTests] })
  else
    let (command, session) := runTests terminal settings session.last session
    (command.map some, session)

end Session

/-- A terminal's record of what it was given, for the state `Recording`. -/
structure Recording where
  /-- How often the terminal was raised. -/
  shown : Nat
  /-- The lines that were sent, the latest at the end. -/
  sent : List String
  /-- The failure that the next line meets. -/
  failNext : Option Error
  deriving DecidableEq, Repr

namespace Recording

/-- Nothing was given. -/
def empty : Recording := ⟨0, [], none⟩

/-- The terminal that records what it is given. A failure it is set to is met once, and the line
it meets is not recorded. -/
def terminal : Terminal Recording where
  raise state := { state with shown := state.shown + 1 }
  send line state :=
    match state.failNext with
    | some e => (.error e, { state with failNext := none })
    | none => (.ok (), { state with sent := state.sent ++ [line] })

end Recording

/-- The text that is written for lines that are only to be shown. -/
def echoLine (line : String) : String := line ++ "\n"

/-- The terminal that writes each line as text, over what was written so far. -/
def echoTerminal : Terminal String where
  raise written := written
  send line written := (.ok (), written ++ echoLine line)

end TestCursor
