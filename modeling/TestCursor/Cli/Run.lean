import TestCursor.Cli.Grammar
import TestCursor.Cli.Report
import TestCursor.Cli.ScriptSearch
import TestCursor.Session
import TestCursor.StateFile

/-!
# Running the command line

An invocation is run at a site: the files, the current directory and the variables of the
environment. What comes out is the exit code, what was printed, the files after it, and the
process that it tried to start. What the shell does with a line is left open.
-/

namespace TestCursor

namespace Cli

/-- How a process ended. -/
inductive ExitStatus
  | exited (code : Nat)
  /-- The process was killed by a signal. -/
  | killed
  deriving DecidableEq, Repr

namespace ExitStatus

/-- The process ended well. -/
def succeeded : ExitStatus → Bool
  | .exited code => code == 0
  | .killed => false

/-- The exit code of a process that ended by itself. -/
def code? : ExitStatus → Option Nat
  | .exited code => some code
  | .killed => none

/-- The exit code to pass on: that of the process, or 1 when it was killed. -/
def passedOn (status : ExitStatus) : Nat := status.code?.getD 1

end ExitStatus

/-- What a line did in the shell. -/
structure ShellRun where
  status : ExitStatus
  stdout : String
  stderr : String
  tree : FileTree

/-- A shell runs a line in a directory. -/
abbrev Shell := FileTree → Location → String → ShellRun

/-- The state of a terminal that runs lines in the shell, or prints them. -/
structure Screen where
  tree : FileTree
  stdout : String
  stderr : String
  /-- How the last process ended. -/
  status : Option ExitStatus
  /-- The process that was to be started last. -/
  started : Option ProcessCall

/-- Nothing was run or printed. -/
def Screen.blank (tree : FileTree) : Screen := ⟨tree, "", "", none, none⟩

/-- A process that could not be started. -/
def spawnError (line reason : String) : Error :=
  .command ("Failed to execute '" ++ line ++ "': " ++ reason)

/-- The reason why a text cannot be handed to a process. -/
def nulReason : String := "nul byte found in provided data"

/-- The directory in which a process starts. -/
def startDir (site : Site) (dir : Option String) : Except String Location :=
  match dir with
  | none => .ok site.cwd
  | some dir =>
    if dir.toList.contains '\x00' then .error nulReason
    else
      match site.tree.locate site.cwd dir with
      | .error e => .error e.message
      | .ok place =>
        if ((site.tree.get? place).map FileTree.isDir).getD false then .ok place
        else .error FileError.notDirectory.message

/-- The terminal that runs each line in the shell, in a directory if one is given. -/
def shellTerminal (shell : Shell) (cwd : Location) (dir : Option String) : Terminal Screen where
  raise screen := screen
  send line screen :=
    let screen := { screen with started := some (shellCall line dir) }
    if line.toList.contains '\x00' then (.error (spawnError line nulReason), screen)
    else
      match startDir ⟨screen.tree, cwd⟩ dir with
      | .error reason => (.error (spawnError line reason), screen)
      | .ok place =>
        let run := shell screen.tree place line
        (.ok (),
          { screen with
            tree := run.tree, stdout := screen.stdout ++ run.stdout
            stderr := screen.stderr ++ run.stderr, status := some run.status })

def printTerminal : Terminal Screen where
  raise screen := screen
  send line screen := (.ok (), { screen with stdout := screen.stdout ++ echoLine line })

/-- The terminal of a run: it prints the command when the run is dry. -/
def runTerminal (shell : Shell) (dryRun : Bool) (cwd : Location) (root : String) :
    Terminal Screen :=
  if dryRun then printTerminal else shellTerminal shell cwd (some root)

/-- What comes out of an invocation. -/
structure Outcome where
  code : Nat
  stdout : String
  stderr : String
  tree : FileTree
  /-- The process that the invocation tried to start. -/
  started : Option ProcessCall

/-- An invocation that failed before it printed or changed anything. -/
def Outcome.failed (tree : FileTree) (failure : Failure) : Outcome :=
  ⟨1, "", failure.report, tree, none⟩

/-- An invocation that only printed. -/
def Outcome.printed (tree : FileTree) (stdout : String) : Outcome := ⟨0, stdout, "", tree, none⟩

/-- A notice to the user, as it is printed. -/
def noticeLine (notice : String) : String := "❌ " ++ notice ++ "\n"

/-- What a session does in a workspace: it gives the command that was sent, if there was one. -/
abbrev SessionAction :=
  Terminal Screen → Settings → Session Screen → Except Error (Option String) × Session Screen

/-- What is left to do after the command of a session was sent: unless the run is dry, the path of
the tests is recorded, and a failure of the command passed on. -/
def conclude (site : Site) (dryRun : Bool) (root : String) (session : Session Screen) :
    Outcome :=
  let screen := session.terminal
  let code := (screen.status.map ExitStatus.passedOn).getD 0
  if dryRun then ⟨code, screen.stdout, screen.stderr, screen.tree, screen.started⟩
  else
    let later : Site := ⟨screen.tree, site.cwd⟩
    match later.saveState root session.last with
    | .error failure =>
      ⟨1, screen.stdout, screen.stderr ++ failure.report, screen.tree, screen.started⟩
    | .ok tree =>
      let written (stream : Nat) : String :=
        later.streamText (StateFile.pathIn root) stream (StateFile.toText session.last)
      ⟨code, screen.stdout ++ written 1, screen.stderr ++ written 2, tree, screen.started⟩

/-- Run a session in a workspace that resumes from the state file. -/
def dispatch (shell : Shell) (site : Site) (bench : Bench) (dryRun : Bool)
    (action : SessionAction) : Outcome :=
  let root := bench.workspace.root
  let session := Session.resume (site.loadState root) (Screen.blank site.tree)
  let (result, session) :=
    action (runTerminal shell dryRun site.cwd root) bench.settings session
  let screen := session.terminal
  match result with
  | .error e =>
    ⟨1, screen.stdout, screen.stderr ++ (Failure.ofError e).report, screen.tree, screen.started⟩
  | .ok none =>
    ⟨1, screen.stdout, screen.stderr ++ String.join (session.notices.map noticeLine),
      screen.tree, screen.started⟩
  | .ok (some _) => conclude site dryRun root session

/-- The document at a location, with its workspace. -/
def openLocation (site : Site) (env : Environment) (location : String)
    (choice : WorkspaceChoice) : Except Failure (Document × Bench) :=
  match Place.parse location with
  | .error failure => .error failure
  | .ok place =>
    match site.absolutePath place.file with
    | .error failure => .error failure
    | .ok file =>
      if !site.isFile file then .error (.plain ("File not found: " ++ file))
      else
        match site.bench env (some file) choice with
        | .error failure => .error failure
        | .ok bench =>
          match site.openDocument file bench.workspace.root place.cursor with
          | .error e => .error (.inContext ("Failed to read " ++ file) e)
          | .ok document => .ok (document, bench)

/-- Run the tests of a target around a location. -/
def runTarget (shell : Shell) (site : Site) (env : Environment) (target : Target)
    (location : String) (dryRun : Bool) (choice : WorkspaceChoice) : Outcome :=
  match openLocation site env location choice with
  | .error failure => .failed site.tree failure
  | .ok (document, bench) =>
    dispatch shell site bench dryRun fun terminal settings session =>
      let (command, session) := Session.run terminal settings target document.toSource session
      (command.map some, session)

/-- Run the whole suite. -/
def runApp (shell : Shell) (site : Site) (env : Environment) (dryRun : Bool)
    (choice : WorkspaceChoice) : Outcome :=
  match site.bench env none choice with
  | .error failure => .failed site.tree failure
  | .ok bench =>
    dispatch shell site bench dryRun fun terminal settings session =>
      let (command, session) := Session.runTests terminal settings "" session
      (command.map some, session)

/-- Run the last tests again. -/
def runPrevious (shell : Shell) (site : Site) (env : Environment) (dryRun : Bool)
    (choice : WorkspaceChoice) : Outcome :=
  match site.bench env none choice with
  | .error failure => .failed site.tree failure
  | .ok bench => dispatch shell site bench dryRun Session.runPrevious

/-- Show what can be run from a location. -/
def analyze (site : Site) (env : Environment) (location : String) (json : Bool)
    (choice : WorkspaceChoice) : Outcome :=
  match openLocation site env location choice with
  | .error failure => .failed site.tree failure
  | .ok (document, bench) =>
    match bench.settings.analyze document.toSource with
    | .error e => .failed site.tree (.ofError e)
    | .ok analysis =>
      .printed site.tree
        (if json then analysis.toJson.print ++ "\n"
          else Report.ofAnalysis document bench analysis)

/-- The configuration to write where a script was found, and what is printed about it. -/
def newConfig (script : Option Location) : Config × String :=
  match script with
  | none =>
    (Config.default,
      "   ⚠\ufe0f  No " ++ scriptName ++ " found, using the default runner program")
  | some path =>
    if path = [scriptName] then (Config.default, "   • Found " ++ scriptName)
    else
      let program := ("/".intercalate path).map fun c => if c = '\\' then '/' else c
      ({ Config.default with manageProgram := program ++ " test" }, "   • Found " ++ program)

/-- Write a configuration into a directory, unless it has one and that is to be kept. -/
def initialise (site : Site) (dir : Option String) (force : Bool) : Outcome :=
  match site.tree.realPlace site.cwd (dir.getD site.cwdPath) with
  | .error e => .failed site.tree ⟨"Failed to canonicalize project root", [e.message]⟩
  | .ok place =>
    let root := FileTree.pathOf place
    let path := joinPath root (configFileNames.headD "")
    if site.doesExist path && !force then
      .printed site.tree (Report.lines
        ["❌ Config already exists at: " ++ path, "   Use --force to overwrite"])
    else
      let script := ScriptSearch.find? (place.getLast?.getD "")
        ((site.tree.get? place).getD FileTree.empty)
      let (config, found) := newConfig script
      let started := ["🚀 Initializing django-runner in: " ++ root, found]
      match site.saveConfig config path with
      | .error e =>
        ⟨1, Report.lines started,
          (Failure.inContext ("Failed to write config to " ++ path) e).report, site.tree, none⟩
      | .ok tree =>
        let written (stream : Nat) : String := site.streamText path stream config.toJsonText
        ⟨0,
          Report.lines started ++ written 1 ++ Report.lines
            ["✅ Created config: " ++ path, "",
             "📌 Edit prefix_command, flags and root_package_name to match your project"],
          written 2, tree, none⟩

def execute (shell : Shell) (site : Site) (env : Environment) : Invocation → Outcome
  | .run target location dryRun choice => runTarget shell site env target location dryRun choice
  | .app dryRun choice => runApp shell site env dryRun choice
  | .previous dryRun choice => runPrevious shell site env dryRun choice
  | .analyze location json choice => analyze site env location json choice
  | .init dir force => initialise site dir force

/-- The name of the program and its version. -/
def versionLine : String := "django-runner 0.1.0"

namespace Usage

/-- The exit code of a command line that asks for no command: 0 when it asks for help or for the
version, and 2 when something is wrong with it. -/
def code : Usage → Nat
  | .help | .version => 0
  | _ => 2

/-- What is printed for a command line that asks for no command. -/
def output : Usage → String
  | .version => versionLine ++ "\n"
  | _ => ""

end Usage

end Cli

end TestCursor
