import TestCursor.Cli.Run
import TestCursor.Proofs.FileWriting
import TestCursor.Proofs.JsonText

/-!
# The register in the state file

The path of the last tests passes from one invocation to the next in a file of the workspace. An
invocation reads it at its start and may write it at its end, after its command was started.

1. What is saved is loaded again (`loadState_of_saveState`).
2. A run of tests comes to what the shell makes of its one line, or to a failure where the process
   cannot be started (`runAt_eq`). What is left to do after the line records the path of the tests,
   however the line ended (`loadState_conclude`).
3. An invocation either has tests to run, and then is one run of them (`outcome_of_attempt?`), or
   it changes no file and starts nothing (`outcome_of_attempt?_eq_none`). Which it is depends
   neither on the shell nor on the run being dry (`attempt?_invocation`).
4. So a launch either starts tests, and came to what its shell made of their command
   (`outcome_of_startsTests`), or changed no file and did not ask the shell
   (`outcome_of_not_startsTests`).
5. By induction on a history of launches the register is the path of the last tests that were
   started (`History.loadState_eq`), and running them again hands the shell the command of that
   path.
-/

namespace TestCursor

/-! ## Saving and loading -/

namespace StateFile

theorem ofText?_toText (last : String) : ofText? (toText last) = some last := by
  have hplain : (Json.ofMembers [(key, .text last)]).IsPlain := ⟨rfl, rfl, trivial⟩
  have hrecord : (Json.ofMembers [(key, .text last)]).record? [key] = some [some (.text last)] :=
    Json.record?_ofMembers (fun _ => key) Json.text [last] (by simp)
  rw [ofText?, toText, Json.parse?_print hplain, Option.bind_some, ofJson?, hrecord]
  rfl

end StateFile

namespace Site

theorem loadState_eq {site : Site} {root text : String}
    (h : site.readText (StateFile.pathIn root) = .ok text) :
    site.loadState root = (StateFile.ofText? text).getD "" := by
  unfold loadState
  rw [h]

theorem loadState_of_toText {site : Site} {root last : String}
    (h : site.tree.readText site.cwd (StateFile.pathIn root) = .ok (StateFile.toText last)) :
    site.loadState root = last := by
  rw [loadState_eq (readText_eq_ok_iff.mpr h), StateFile.ofText?_toText, Option.getD_some]

theorem loadState_congr {site later : Site} {root : String}
    (h : later.readText (StateFile.pathIn root) = site.readText (StateFile.pathIn root)) :
    later.loadState root = site.loadState root := by
  unfold loadState
  rw [h]

theorem saveState_eq_ok_iff {site : Site} {root last : String} {tree : FileTree} :
    site.saveState root last = .ok tree ↔
      site.tree.writeText site.cwd (StateFile.pathIn root) (StateFile.toText last) =
        .ok tree := by
  unfold saveState
  split
  · next written hwrite => simp [hwrite]
  · next e hwrite => simp [hwrite]

/-- What is saved where there is room is loaded again. -/
theorem loadState_of_saveState (site : Site) {root last : String} {tree : FileTree}
    (hsave : site.saveState root last = .ok tree)
    (hroom : tree.hasRoomAt site.cwd (StateFile.pathIn root) = true) :
    Site.loadState ⟨tree, site.cwd⟩ root = last := by
  rcases FileTree.readText_of_writeText (saveState_eq_ok_iff.mp hsave) with
    ⟨hread, -⟩ | ⟨rfl, device, hnode⟩
  · exact loadState_of_toText hread
  · exact absurd hnode (FileTree.not_device_of_hasRoomAt hroom device)

end Site

namespace Cli

/-! ## Running the tests at a path -/

/-- The tests at a path run in a workspace. -/
def runAt (shell : Shell) (site : Site) (bench : Bench) (dryRun : Bool) (path : String) :
    Outcome :=
  dispatch shell site bench dryRun fun terminal settings session =>
    let (command, session) := Session.runTests terminal settings path session
    (command.map some, session)

/-- The process can be started: the system takes its arguments, and the directory it is to start
in is there. -/
def canStart (site : Site) (call : ProcessCall) : Bool :=
  !(call.args.any fun arg => arg.toList.contains '\x00') &&
    match startDir site call.dir with
    | .ok _ => true
    | .error _ => false

/-- An outcome in which the process was started. -/
def Outcome.starts (outcome : Outcome) (site : Site) : Bool :=
  match outcome.started with
  | some call => canStart site call
  | none => false

/-- Where a shell starts that is handed a line, or why its process cannot be started. -/
def shellPlace (site : Site) (line : String) (dir : Option String) : Except String Location :=
  if line.toList.contains '\x00' then .error nulReason else startDir site dir

theorem shellPlace_eq_ok_iff {site : Site} {line : String} {dir : Option String}
    {place : Location} : shellPlace site line dir = .ok place ↔
      line.toList.contains '\x00' = false ∧ startDir site dir = .ok place := by
  unfold shellPlace
  cases line.toList.contains '\x00' <;> simp

theorem canStart_shellCall_iff {site : Site} {line : String} {dir : Option String} :
    canStart site (shellCall line dir) = true ↔ ∃ place, shellPlace site line dir = .ok place := by
  have hoption : "-c".toList.contains '\x00' = false := by decide
  simp only [canStart, shellCall, List.any_cons, List.any_nil, hoption, Bool.false_or,
    Bool.or_false, Bool.and_eq_true, Bool.not_eq_true', shellPlace_eq_ok_iff, exists_and_left]
  cases startDir site dir <;> simp

theorem exists_refusal_of_not_canStart {site : Site} {line : String} {dir : Option String}
    (h : canStart site (shellCall line dir) = false) :
    ∃ reason, shellPlace site line dir = .error reason := by
  cases hplace : shellPlace site line dir with
  | ok place => simp [canStart_shellCall_iff.mpr ⟨place, hplace⟩] at h
  | error reason => exact ⟨reason, rfl⟩

/-- What comes out when the shell ran the line of the tests at a path: the path is recorded in the
files that the line left, and a failure of the line is passed on. -/
def Outcome.ofRun (site : Site) (root line path : String) (run : ShellRun) : Outcome :=
  conclude site false root
    ⟨path, [],
      ⟨run.tree, run.stdout, run.stderr, some run.status, some (shellCall line (some root))⟩⟩

/-- What comes out when the process for a line could not be started. -/
def Outcome.notStarted (site : Site) (root line reason : String) : Outcome :=
  ⟨1, "", (Failure.ofError (spawnError line reason)).report, site.tree,
    some (shellCall line (some root))⟩

section RunAt

variable (shell : Shell) (site : Site) (bench : Bench) (path : String)

theorem runAt_dry :
    runAt shell site bench true path =
      ⟨0, echoLine (bench.settings.commandFor path), "", site.tree, none⟩ := by
  simp [runAt, dispatch, Session.runTests, runTerminal, printTerminal, conclude, Session.resume,
    Screen.blank, Except.map]

/-- The process that a run in the shell is to start. -/
abbrev callAt : ProcessCall :=
  shellCall (bench.settings.commandFor path) (some bench.workspace.root)

/-- A run hands its command to the shell, once and with the files as they were, and ends with what
the shell gave; or it fails, because the process cannot be started. -/
theorem runAt_eq :
    runAt shell site bench false path =
      match shellPlace site (bench.settings.commandFor path) (some bench.workspace.root) with
      | .ok place =>
        .ofRun site bench.workspace.root (bench.settings.commandFor path) path
          (shell site.tree place (bench.settings.commandFor path))
      | .error reason =>
        .notStarted site bench.workspace.root (bench.settings.commandFor path) reason := by
  simp only [runAt, dispatch, Session.runTests, runTerminal, Bool.false_eq_true, if_false,
    shellTerminal, Session.resume, Screen.blank, shellPlace]
  cases hnul : (bench.settings.commandFor path).toList.contains '\x00' with
  | true => rfl
  | false =>
    simp only [Bool.false_eq_true, if_false, String.empty_append]
    cases startDir site (some bench.workspace.root) <;> rfl

section Cases

variable {shell site bench path}

theorem runAt_of_shellPlace {place : Location}
    (h : shellPlace site (bench.settings.commandFor path) (some bench.workspace.root) =
      .ok place) :
    runAt shell site bench false path =
      .ofRun site bench.workspace.root (bench.settings.commandFor path) path
        (shell site.tree place (bench.settings.commandFor path)) := by
  simp only [runAt_eq, h]

/-- A run whose process cannot be started does not ask the shell. -/
theorem runAt_of_refused {reason : String}
    (h : shellPlace site (bench.settings.commandFor path) (some bench.workspace.root) =
      .error reason) :
    runAt shell site bench false path =
      .notStarted site bench.workspace.root (bench.settings.commandFor path) reason := by
  simp only [runAt_eq, h]

end Cases

theorem started_conclude (dryRun : Bool) (root : String) (session : Session Screen) :
    (conclude site dryRun root session).started = session.terminal.started := by
  simp only [conclude]
  cases dryRun with
  | true => rfl
  | false =>
    simp only [Bool.false_eq_true, if_false]
    split <;> rfl

/-- A run in the shell tries to start the command of its path. -/
theorem started_runAt : (runAt shell site bench false path).started = some (callAt bench path) := by
  rw [runAt_eq]
  cases shellPlace site (bench.settings.commandFor path) (some bench.workspace.root) with
  | ok place => exact started_conclude site false bench.workspace.root _
  | error reason => rfl

/-- What is left to do after a command records the path, where there is room for it. -/
theorem loadState_conclude {root : String} {session : Session Screen}
    (hroom : (conclude site false root session).tree.hasRoomAt site.cwd
      (StateFile.pathIn root) = true) :
    Site.loadState ⟨(conclude site false root session).tree, site.cwd⟩ root = session.last := by
  simp only [conclude, Bool.false_eq_true, if_false] at hroom ⊢
  cases hsave : Site.saveState ⟨session.terminal.tree, site.cwd⟩ root session.last with
  | ok tree =>
    simp only [hsave] at hroom ⊢
    exact Site.loadState_of_saveState ⟨session.terminal.tree, site.cwd⟩ hsave hroom
  | error failure =>
    -- Nothing was written, so there was room before, and the path could have been written.
    simp only [hsave] at hroom
    obtain ⟨tree, hwrite⟩ := FileTree.exists_writeText hroom (StateFile.toText session.last)
    cases hsave.symm.trans (Site.saveState_eq_ok_iff.mpr hwrite)

end RunAt

/-! ## What each invocation comes to -/

section Invocations

variable {shell : Shell} {site : Site} {env : Environment} {target : Target} {location : String}
  {dryRun json : Bool} {choice : WorkspaceChoice} {document : Document} {bench : Bench}
  {failure : Failure}

theorem runTarget_of_error (h : openLocation site env location choice = .error failure) :
    runTarget shell site env target location dryRun choice = .failed site.tree failure := by
  unfold runTarget
  rw [h]

theorem runTarget_of_unresolved {e : Error}
    (h : openLocation site env location choice = .ok (document, bench))
    (hresolve : bench.settings.resolve target document.toSource = .error e) :
    runTarget shell site env target location dryRun choice =
      .failed site.tree (.ofError e) := by
  unfold runTarget
  simp only [h, dispatch, Session.run, hresolve]
  rfl

theorem runTarget_of_resolved {resolution : Resolution}
    (h : openLocation site env location choice = .ok (document, bench))
    (hresolve : bench.settings.resolve target document.toSource = .ok resolution) :
    runTarget shell site env target location dryRun choice =
      runAt shell site bench dryRun resolution.testPath := by
  unfold runTarget
  simp only [h, dispatch, Session.run, hresolve, runAt]

theorem runApp_of_error (h : site.bench env none choice = .error failure) :
    runApp shell site env dryRun choice = .failed site.tree failure := by
  unfold runApp
  rw [h]

theorem runApp_of_bench (h : site.bench env none choice = .ok bench) :
    runApp shell site env dryRun choice = runAt shell site bench dryRun "" := by
  unfold runApp
  rw [h]
  rfl

theorem runPrevious_of_error (h : site.bench env none choice = .error failure) :
    runPrevious shell site env dryRun choice = .failed site.tree failure := by
  unfold runPrevious
  rw [h]

/-- Without last tests the user is told so, and nothing is run. -/
theorem runPrevious_of_isEmpty (h : site.bench env none choice = .ok bench)
    (hlast : (site.loadState bench.workspace.root).isEmpty = true) :
    runPrevious shell site env dryRun choice =
      ⟨1, "", noticeLine noPreviousTests, site.tree, none⟩ := by
  unfold runPrevious
  simp only [h, dispatch, Session.runPrevious, Session.resume, hlast, if_true]
  rfl

theorem runPrevious_of_last (h : site.bench env none choice = .ok bench)
    (hlast : (site.loadState bench.workspace.root).isEmpty = false) :
    runPrevious shell site env dryRun choice =
      runAt shell site bench dryRun (site.loadState bench.workspace.root) := by
  unfold runPrevious
  simp only [h, dispatch, Session.runPrevious, Session.resume, hlast, runAt, Bool.false_eq_true,
    if_false]

theorem analyze_keeps :
    (analyze site env location json choice).tree = site.tree ∧
      (analyze site env location json choice).started = none := by
  unfold analyze
  split
  · exact ⟨rfl, rfl⟩
  · split <;> exact ⟨rfl, rfl⟩

end Invocations

/-! ## Launches -/

/-- An invocation at the place where it is launched, with the shell that it finds there. -/
structure Launch where
  shell : Shell
  site : Site
  env : Environment
  invocation : Invocation

namespace Launch

/-- What comes out of a launch. -/
def outcome (launch : Launch) : Outcome :=
  execute launch.shell launch.site launch.env launch.invocation

/-- The site that a launch leaves behind. -/
def after (launch : Launch) : Site := ⟨launch.outcome.tree, launch.site.cwd⟩

def isDry (launch : Launch) : Bool :=
  match launch.invocation with
  | .run _ _ dryRun _ | .app dryRun _ | .previous dryRun _ => dryRun
  | .analyze _ _ _ | .init _ _ => false

def isAnalysis (launch : Launch) : Bool :=
  match launch.invocation with
  | .analyze _ _ _ => true
  | _ => false

/-- The launch writes a configuration. -/
def isInitialisation (launch : Launch) : Bool :=
  match launch.invocation with
  | .init _ _ => true
  | _ => false

/-- The launch is no dry run, and its command was started. -/
def startsTests (launch : Launch) : Bool := !launch.isDry && launch.outcome.starts launch.site

/-- The tests that a launch has to run: their workspace and their path. -/
def attempt? (launch : Launch) : Option (Bench × String) :=
  match launch.invocation with
  | .run target location _ choice =>
    (openLocation launch.site launch.env location choice).toOption.bind fun (document, bench) =>
      (bench.settings.resolve target document.toSource).toOption.map fun resolution =>
        (bench, resolution.testPath)
  | .app _ choice =>
    (launch.site.bench launch.env none choice).toOption.map fun bench => (bench, "")
  | .previous _ choice =>
    (launch.site.bench launch.env none choice).toOption.bind fun bench =>
      let last := launch.site.loadState bench.workspace.root
      if last.isEmpty then none else some (bench, last)
  | .analyze _ _ _ | .init _ _ => none

variable {launch : Launch} {bench : Bench} {path : String}

theorem toOption_eq_some {ε α : Type} {result : Except ε α} {value : α}
    (h : result.toOption = some value) : result = .ok value := by
  cases result with
  | error e => cases h
  | ok found => exact congrArg Except.ok (Option.some.inj h)

/-- A launch with tests to run is a run of them. -/
theorem outcome_of_attempt? (h : launch.attempt? = some (bench, path)) :
    launch.outcome = runAt launch.shell launch.site bench launch.isDry path := by
  obtain ⟨shell, site, env, invocation⟩ := launch
  cases invocation with
  | run target location dryRun choice =>
    obtain ⟨⟨document, found⟩, hopen, h⟩ := Option.bind_eq_some_iff.mp h
    obtain ⟨resolution, hresolve, h⟩ := Option.map_eq_some_iff.mp h
    obtain ⟨rfl, rfl⟩ := Prod.mk.inj h
    exact runTarget_of_resolved (toOption_eq_some hopen) (toOption_eq_some hresolve)
  | app dryRun choice =>
    obtain ⟨found, hbench, h⟩ := Option.map_eq_some_iff.mp h
    obtain ⟨rfl, rfl⟩ := Prod.mk.inj h
    exact runApp_of_bench (toOption_eq_some hbench)
  | previous dryRun choice =>
    obtain ⟨found, hbench, h⟩ := Option.bind_eq_some_iff.mp h
    obtain ⟨hlast, h⟩ := Option.ite_none_left_eq_some.mp h
    obtain ⟨rfl, rfl⟩ := Prod.mk.inj (Option.some.inj h)
    exact runPrevious_of_last (toOption_eq_some hbench) (Bool.eq_false_iff.mpr hlast)
  | analyze location json choice => cases h
  | init dir force => cases h

end Launch

/-! ## Errands -/

/-- What a command line asks to run. -/
inductive Errand
  /-- The tests of a target around a location. -/
  | around (target : Target) (location : String)
  | suite
  | lastTests

namespace Errand

def invocation (errand : Errand) (choice : WorkspaceChoice) (dryRun : Bool) : Invocation :=
  match errand with
  | .around target location => .run target location dryRun choice
  | .suite => .app dryRun choice
  | .lastTests => .previous dryRun choice

abbrev launch (errand : Errand) (shell : Shell) (site : Site) (env : Environment)
    (choice : WorkspaceChoice) (dryRun : Bool) : Launch :=
  ⟨shell, site, env, errand.invocation choice dryRun⟩

section Tests

variable {errand : Errand} {shell other : Shell} {site : Site} {env : Environment}
  {choice : WorkspaceChoice} {dryRun : Bool} {bench : Bench} {path : String}

/-- The tests to run do not depend on the shell, nor on the run being dry. -/
theorem attempt?_invocation (other : Shell) (dryRun' : Bool) :
    (errand.launch other site env choice dryRun').attempt? =
      (errand.launch shell site env choice dryRun).attempt? := by
  cases errand <;> rfl

theorem execute_of_attempt?
    (h : (errand.launch shell site env choice dryRun).attempt? = some (bench, path))
    (other : Shell) (dryRun' : Bool) :
    execute other site env (errand.invocation choice dryRun') =
      runAt other site bench dryRun' path := by
  have hdry : (errand.launch other site env choice dryRun').isDry = dryRun' := by
    cases errand <;> rfl
  have hrun := Launch.outcome_of_attempt? ((attempt?_invocation other dryRun').trans h)
  rwa [hdry] at hrun

/-- Without tests to run an errand fails in one way, whether it is dry or not, before it changes
a file or starts a process. -/
theorem execute_of_attempt?_eq_none
    (h : (errand.launch shell site env choice dryRun).attempt? = none) :
    ∃ outcome : Outcome, outcome.code = 1 ∧ outcome.tree = site.tree ∧ outcome.started = none ∧
      ∀ other dryRun', execute other site env (errand.invocation choice dryRun') = outcome := by
  cases errand with
  | around target location =>
    cases hopen : openLocation site env location choice with
    | error failure => exact ⟨_, rfl, rfl, rfl, fun _ _ => runTarget_of_error hopen⟩
    | ok found =>
      obtain ⟨document, bench⟩ := found
      cases hresolve : bench.settings.resolve target document.toSource with
      | error e =>
        exact ⟨_, rfl, rfl, rfl, fun _ _ => runTarget_of_unresolved hopen hresolve⟩
      | ok resolution =>
        simp [invocation, Launch.attempt?, hopen, hresolve, Except.toOption] at h
  | suite =>
    cases hbench : site.bench env none choice with
    | error failure => exact ⟨_, rfl, rfl, rfl, fun _ _ => runApp_of_error hbench⟩
    | ok bench => simp [invocation, Launch.attempt?, hbench, Except.toOption] at h
  | lastTests =>
    cases hbench : site.bench env none choice with
    | error failure => exact ⟨_, rfl, rfl, rfl, fun _ _ => runPrevious_of_error hbench⟩
    | ok bench =>
      cases hlast : (site.loadState bench.workspace.root).isEmpty with
      | true => exact ⟨_, rfl, rfl, rfl, fun _ _ => runPrevious_of_isEmpty hbench hlast⟩
      | false =>
        simp only [invocation, Launch.attempt?, hbench, Except.toOption, Option.bind_some,
          hlast] at h
        cases h

end Tests

end Errand

/-! ## Launches and the shell -/

namespace Launch

variable {launch : Launch}

/-- A launch without tests to run changes no file and starts nothing, whatever the shell. -/
theorem outcome_of_attempt?_eq_none (hinit : launch.isInitialisation = false)
    (h : launch.attempt? = none) :
    launch.outcome.tree = launch.site.tree ∧ launch.outcome.started = none ∧
      ∀ other, execute other launch.site launch.env launch.invocation = launch.outcome := by
  obtain ⟨shell, site, env, invocation⟩ := launch
  have hidle (errand : Errand) (choice : WorkspaceChoice) (dryRun : Bool)
      (h : (errand.launch shell site env choice dryRun).attempt? = none) :
      (errand.launch shell site env choice dryRun).outcome.tree = site.tree ∧
        (errand.launch shell site env choice dryRun).outcome.started = none ∧
        ∀ other, execute other site env (errand.invocation choice dryRun) =
          (errand.launch shell site env choice dryRun).outcome := by
    obtain ⟨outcome, -, htree, hstarted, hexecute⟩ := Errand.execute_of_attempt?_eq_none h
    rw [Launch.outcome, hexecute]
    exact ⟨htree, hstarted, fun other => hexecute other dryRun⟩
  cases invocation with
  | run target location dryRun choice => exact hidle (.around target location) choice dryRun h
  | app dryRun choice => exact hidle .suite choice dryRun h
  | previous dryRun choice => exact hidle .lastTests choice dryRun h
  | analyze location json choice =>
    exact ⟨analyze_keeps.1, analyze_keeps.2, fun other => rfl⟩
  | init dir force => cases hinit

/-- A dry run, an analysis, and a launch whose process was not started, start no tests. -/
theorem not_startsTests_of_idle
    (h : launch.isDry = true ∨ launch.isAnalysis = true ∨
      launch.outcome.starts launch.site = false) :
    launch.startsTests = false := by
  rcases h with hdry | hanalysis | hstarts
  · simp [startsTests, hdry]
  · obtain ⟨shell, site, env, invocation⟩ := launch
    cases invocation with
    | analyze location json choice =>
      have hnone : (outcome ⟨shell, site, env, .analyze location json choice⟩).started = none :=
        analyze_keeps.2
      simp [startsTests, Outcome.starts, hnone]
    | _ => cases hanalysis
  · simp [startsTests, hstarts]

/-- A launch that starts tests comes to what the shell makes of their command. -/
theorem outcome_of_startsTests (hinit : launch.isInitialisation = false)
    (h : launch.startsTests = true) :
    ∃ bench path place, launch.attempt? = some (bench, path) ∧
      shellPlace launch.site (bench.settings.commandFor path) (some bench.workspace.root) =
        .ok place ∧
      launch.outcome = .ofRun launch.site bench.workspace.root (bench.settings.commandFor path) path
        (launch.shell launch.site.tree place (bench.settings.commandFor path)) := by
  rw [startsTests, Bool.and_eq_true, Bool.not_eq_true'] at h
  obtain ⟨hdry, hstarts⟩ := h
  cases hattempt : launch.attempt? with
  | none =>
    rw [Outcome.starts, (outcome_of_attempt?_eq_none hinit hattempt).2.1] at hstarts
    cases hstarts
  | some attempt =>
    obtain ⟨bench, path⟩ := attempt
    have hrun := outcome_of_attempt? hattempt
    rw [hdry] at hrun
    rw [Outcome.starts, hrun, started_runAt] at hstarts
    obtain ⟨place, hplace⟩ := canStart_shellCall_iff.mp hstarts
    exact ⟨bench, path, place, rfl, hplace, hrun.trans (runAt_of_shellPlace hplace)⟩

theorem attempt?_of_startsTests (hinit : launch.isInitialisation = false)
    (h : launch.startsTests = true) : ∃ bench path, launch.attempt? = some (bench, path) := by
  obtain ⟨bench, path, -, hattempt, -⟩ := outcome_of_startsTests hinit h
  exact ⟨bench, path, hattempt⟩

/-- A launch that starts no tests changes no file, and does not ask the shell. -/
theorem outcome_of_not_startsTests (hinit : launch.isInitialisation = false)
    (h : launch.startsTests = false) :
    launch.outcome.tree = launch.site.tree ∧
      ∀ other, execute other launch.site launch.env launch.invocation = launch.outcome := by
  cases hattempt : launch.attempt? with
  | none =>
    obtain ⟨htree, -, hshell⟩ := outcome_of_attempt?_eq_none hinit hattempt
    exact ⟨htree, hshell⟩
  | some attempt =>
    obtain ⟨bench, path⟩ := attempt
    -- The tests to run do not depend on the shell, so they are those of the launch in any other.
    have hrun (other : Shell) : execute other launch.site launch.env launch.invocation =
        runAt other launch.site bench launch.isDry path :=
      @outcome_of_attempt? { launch with shell := other } bench path hattempt
    have hlaunch : launch.outcome = runAt launch.shell launch.site bench launch.isDry path :=
      hrun launch.shell
    cases hdry : launch.isDry with
    | true =>
      simp only [hdry, runAt_dry] at hrun hlaunch
      exact ⟨by rw [hlaunch], fun other => (hrun other).trans hlaunch.symm⟩
    | false =>
      rw [startsTests, hdry, Bool.not_false, Bool.true_and, hlaunch, hdry, Outcome.starts,
        started_runAt] at h
      obtain ⟨reason, hreason⟩ := exists_refusal_of_not_canStart h
      simp only [hdry, runAt_of_refused hreason] at hrun hlaunch
      exact ⟨by rw [hlaunch]; rfl, fun other => (hrun other).trans hlaunch.symm⟩

end Launch

/-! ## Histories -/

/-- Launches one after the other, in a workspace at a root, from a site to a later one. Whatever
else happens to the site between two launches, nothing writes the state file; and after each
launch there is a regular state file, or room for one. -/
inductive History (root : String) (first : Site) : List Launch → Site → Prop
  | start : History root first [] first
  | pause {launches : List Launch} {site later : Site} (earlier : History root first launches site)
      (hread : later.readText (StateFile.pathIn root) = site.readText (StateFile.pathIn root)) :
      History root first launches later
  | launch {launches : List Launch} (launch : Launch)
      (earlier : History root first launches launch.site)
      (hinit : launch.isInitialisation = false)
      (hroot : ∀ bench path, launch.attempt? = some (bench, path) → bench.workspace.root = root)
      (hroom : launch.after.tree.hasRoomAt launch.after.cwd (StateFile.pathIn root) = true) :
      History root first (launches ++ [launch]) launch.after

/-- The path of the last tests that were started, or what was there before any were. -/
def lastStarted (initial : String) (launches : List Launch) : String :=
  (((launches.filter Launch.startsTests).getLast?.bind Launch.attempt?).map Prod.snd).getD initial

theorem lastStarted_append (initial : String) (launches : List Launch) {launch : Launch}
    (h : launch.startsTests = true → ∃ bench path, launch.attempt? = some (bench, path)) :
    lastStarted initial (launches ++ [launch]) =
      if launch.startsTests then ((launch.attempt?).map Prod.snd).getD ""
      else lastStarted initial launches := by
  rw [lastStarted, List.filter_append, List.filter_singleton]
  cases hstarts : launch.startsTests with
  | false => simp [lastStarted]
  | true =>
    obtain ⟨bench, path, hattempt⟩ := h hstarts
    simp [hattempt]

/-- A launch that starts tests leaves their path in the state file; another leaves what was
there. -/
theorem Launch.loadState_after {root : String} {launch : Launch}
    (hinit : launch.isInitialisation = false)
    (hroot : ∀ bench path, launch.attempt? = some (bench, path) → bench.workspace.root = root)
    (hroom : launch.after.tree.hasRoomAt launch.after.cwd (StateFile.pathIn root) = true) :
    launch.after.loadState root =
      if launch.startsTests then ((launch.attempt?).map Prod.snd).getD ""
      else launch.site.loadState root := by
  cases hstarts : launch.startsTests with
  | false =>
    rw [after, (outcome_of_not_startsTests hinit hstarts).1]
    rfl
  | true =>
    obtain ⟨bench, path, place, hattempt, -, hrun⟩ := outcome_of_startsTests hinit hstarts
    obtain rfl := hroot bench path hattempt
    rw [after, hrun] at hroom ⊢
    rw [hattempt]
    exact loadState_conclude launch.site hroom

section History

variable {root : String} {first site : Site} {launches : List Launch}

theorem History.of_mem (h : History root first launches site) :
    ∀ launch ∈ launches, launch.isInitialisation = false ∧
      ∀ bench path, launch.attempt? = some (bench, path) → bench.workspace.root = root := by
  induction h with
  | start => exact fun launch hlaunch => absurd hlaunch List.not_mem_nil
  | pause _ _ ih => exact ih
  | launch _ _ hinit hroot _ ih =>
    intro launch hlaunch
    rcases List.mem_append.mp hlaunch with hlaunch | hlaunch
    · exact ih launch hlaunch
    · rw [List.mem_singleton.mp hlaunch]
      exact ⟨hinit, hroot⟩

/-- The state file gives the path of the last tests that were started. -/
theorem History.loadState_eq (h : History root first launches site) :
    site.loadState root = lastStarted (first.loadState root) launches := by
  induction h with
  | start => rfl
  | pause _ hread ih => rw [← ih, Site.loadState_congr hread]
  | launch _ _ hinit hroot hroom ih =>
    rw [Launch.loadState_after hinit hroot hroom, ih,
      lastStarted_append _ _ (Launch.attempt?_of_startsTests hinit)]

/-- After a history the state file gives the path of the last tests that were started. To run the
last tests again is to hand the shell the command of exactly this path, once, and to end with what
the shell made of it; without such a path the user is told that there is none. A launch that starts
tests came to what its shell made of their command. Any other launch changed no file, and would have
come to the same in any shell. -/
theorem register_after_history (h : History root first launches site) :
    let register := lastStarted (first.loadState root) launches
    site.loadState root = register ∧
      (∀ shell env dryRun choice bench, site.bench env none choice = .ok bench →
        bench.workspace.root = root →
        let outcome := execute shell site env (.previous dryRun choice)
        let command := bench.settings.commandFor register
        (register = "" → outcome = ⟨1, "", noticeLine "No previous tests!", site.tree, none⟩) ∧
        (register ≠ "" → dryRun = false →
          outcome.started = some ⟨"sh", ["-c", command], some root⟩ ∧
          (∀ place, shellPlace site command (some root) = .ok place →
            outcome = .ofRun site root command register (shell site.tree place command)) ∧
          ∀ reason, shellPlace site command (some root) = .error reason →
            outcome = .notStarted site root command reason) ∧
        (register ≠ "" → dryRun = true →
          outcome = ⟨0, command ++ "\n", "", site.tree, none⟩)) ∧
      ∀ launch ∈ launches,
        (launch.isDry = true ∨ launch.isAnalysis = true ∨
            launch.outcome.starts launch.site = false →
          launch.outcome.tree = launch.site.tree) ∧
        (launch.startsTests = true → ∃ bench path place, launch.attempt? = some (bench, path) ∧
          let command := bench.settings.commandFor path
          shellPlace launch.site command (some root) = .ok place ∧
          launch.outcome =
            .ofRun launch.site root command path (launch.shell launch.site.tree place command)) ∧
        (launch.startsTests = false → ∀ other,
          execute other launch.site launch.env launch.invocation = launch.outcome) := by
  intro register
  have hload : site.loadState root = register := h.loadState_eq
  refine ⟨hload, fun shell env dryRun choice bench hbench hroot => ?again,
    fun launch hlaunch => ?launched⟩
  case again =>
    subst hroot
    have hrun (hlast : register ≠ "") :
        runPrevious shell site env dryRun choice = runAt shell site bench dryRun register := by
      rw [← hload]
      exact runPrevious_of_last hbench (by simpa [hload] using hlast)
    refine ⟨fun hempty => ?_, fun hlast hdry => ?_, fun hlast hdry => ?_⟩
    · exact runPrevious_of_isEmpty hbench (by rw [hload, hempty]; rfl)
    · subst hdry
      have hstarted := started_runAt shell site bench register
      exact ⟨(congrArg Outcome.started (hrun hlast)).trans hstarted,
        fun place hplace => (hrun hlast).trans (runAt_of_shellPlace hplace),
        fun reason hreason => (hrun hlast).trans (runAt_of_refused hreason)⟩
    · subst hdry
      exact (hrun hlast).trans (runAt_dry shell site bench register)
  case launched =>
    obtain ⟨hinit, hroot⟩ := h.of_mem launch hlaunch
    refine ⟨fun hidle => (Launch.outcome_of_not_startsTests hinit ?_).1, fun hstarts => ?_,
      fun hstarts => (Launch.outcome_of_not_startsTests hinit hstarts).2⟩
    · exact Launch.not_startsTests_of_idle hidle
    · obtain ⟨bench, path, place, hattempt, hplace, hrun⟩ :=
        Launch.outcome_of_startsTests hinit hstarts
      obtain rfl := hroot bench path hattempt
      exact ⟨bench, path, place, hattempt, hplace, hrun⟩

end History

/-- A workspace at `/work` with one file of tests. -/
def sampleSite : Site :=
  ⟨.dir [("work", .dir [("manage.py", .file .empty 0o644),
    ("tests.py", .file .empty 0o644)])], ["work"]⟩

/-- The workspace with its settings. -/
def sampleBench : Bench := ⟨⟨Config.default, none, "/work"⟩, ⟨Config.default, ""⟩⟩

/-- A shell in which every command fails. -/
def failingShell : Shell := fun tree _ _ => ⟨.exited 1, "", "", tree⟩

/-- The command of the whole suite is printed. -/
def dryLaunch : Launch := ⟨failingShell, sampleSite, .none, .app true ⟨none, none⟩⟩

/-- The tests of the file are run, and fail. -/
def fileLaunch : Launch :=
  ⟨failingShell, sampleSite, .none, .run .file "tests.py" false ⟨none, none⟩⟩

theorem root_of_attempt? {launch : Launch} {path : String}
    (h : launch.attempt? = some (sampleBench, path)) :
    ∀ bench path, launch.attempt? = some (bench, path) → bench.workspace.root = "/work" := by
  intro bench path' h'
  rw [← (Prod.mk.inj (Option.some.inj (h.symm.trans h'))).1]
  rfl

theorem sampleHistory : History "/work" sampleSite [dryLaunch, fileLaunch] fileLaunch.after := by
  have hdry : dryLaunch.attempt? = some (sampleBench, "") := by decide +kernel
  have hfile : fileLaunch.attempt? = some (sampleBench, "tests") := by decide +kernel
  have hkept : dryLaunch.after = sampleSite :=
    congrArg (Site.mk · ["work"]) (Launch.outcome_of_not_startsTests rfl rfl).1
  have hroom : sampleSite.tree.hasRoomAt sampleSite.cwd (StateFile.pathIn "/work") = true := by
    decide +kernel
  have hearlier : History "/work" sampleSite ([] ++ [dryLaunch]) dryLaunch.after :=
    .launch dryLaunch .start rfl (root_of_attempt? hdry) (by simpa only [hkept] using hroom)
  rw [hkept] at hearlier
  exact .launch fileLaunch hearlier rfl (root_of_attempt? hfile) (by decide +kernel)

/-- The tests that were run and failed are those that are run again, by the shell that is there
then. -/
theorem register_after_sampleHistory :
    History "/work" sampleSite [dryLaunch, fileLaunch] fileLaunch.after ∧
      fileLaunch.after.loadState "/work" = "tests" ∧
      (∀ shell, let outcome := execute shell fileLaunch.after .none (.previous false ⟨none, none⟩)
        outcome.started = some ⟨"sh", ["-c", "manage.py test tests"], some "/work"⟩ ∧
        outcome = .ofRun fileLaunch.after "/work" "manage.py test tests" "tests"
          (shell fileLaunch.after.tree ["work"] "manage.py test tests")) ∧
      dryLaunch.outcome.tree = dryLaunch.site.tree ∧
      ∀ other, execute other sampleSite .none (.app true ⟨none, none⟩) = dryLaunch.outcome := by
  obtain ⟨hload, hprevious, hlaunched⟩ := register_after_history sampleHistory
  have hregister : lastStarted (sampleSite.loadState "/work") [dryLaunch, fileLaunch] =
      "tests" := by decide +kernel
  have hbench : fileLaunch.after.bench .none none ⟨none, none⟩ = .ok sampleBench := by
    decide +kernel
  have hcommand : sampleBench.settings.commandFor "tests" = "manage.py test tests" := by
    decide +kernel
  have hplace : shellPlace fileLaunch.after "manage.py test tests" (some "/work") =
      .ok ["work"] := by decide +kernel
  obtain ⟨hidle, -, hsame⟩ := hlaunched dryLaunch (by simp)
  refine ⟨sampleHistory, by rw [hload, hregister], fun shell => ?_, hidle (.inl rfl), hsame rfl⟩
  have hrun := (hprevious shell .none false ⟨none, none⟩ sampleBench hbench rfl).2.1
  simp only [hregister, hcommand] at hrun
  obtain ⟨hstarted, hran, -⟩ := hrun (by decide) trivial
  exact ⟨hstarted, hran ["work"] hplace⟩

end Cli

end TestCursor
