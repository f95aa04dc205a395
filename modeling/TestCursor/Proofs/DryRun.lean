import TestCursor.Proofs.StateRegister

/-!
# A dry run foretells the run

A dry run prints the line that the same invocation hands to the shell when it is not dry.

1. With tests to run an errand is one run of them, dry or not (`Errand.execute_of_attempt?`);
   without any it ends in one and the same way (`Errand.execute_of_attempt?_eq_none`).
2. The tests run in the workspace that is discovered for the errand (`bench_of_attempt?`).
3. A run asks the shell for its own line, once at most, and comes to what the shell gave
   (`runAt_of_shellPlace`, `runAt_of_refused`). So two shells that agree on this line make no
   difference (`runAt_congr`).
-/

namespace TestCursor

namespace Cli

namespace Errand

/-- The workspace that is discovered for an errand, with its settings: that of the file it names,
or that of the current directory. -/
def bench (errand : Errand) (site : Site) (env : Environment) (choice : WorkspaceChoice) :
    Except Failure Bench :=
  match errand with
  | .around _ location =>
    match Place.parse location with
    | .error failure => .error failure
    | .ok place =>
      match site.absolutePath place.file with
      | .error failure => .error failure
      | .ok file => site.bench env (some file) choice
  | .suite | .lastTests => site.bench env none choice

end Errand

theorem bench_of_openLocation {site : Site} {env : Environment} {location : String}
    {choice : WorkspaceChoice} {document : Document} {bench : Bench}
    (h : openLocation site env location choice = .ok (document, bench)) (target : Target) :
    (Errand.around target location).bench site env choice = .ok bench := by
  unfold openLocation at h
  cases hplace : Place.parse location with
  | error failure => simp [hplace] at h
  | ok place =>
    cases hfile : site.absolutePath place.file with
    | error failure => simp [hplace, hfile] at h
    | ok file =>
      simp only [hplace, hfile] at h
      split at h
      · cases h
      · cases hbench : site.bench env (some file) choice with
        | error failure => simp [hbench] at h
        | ok found =>
          simp only [hbench] at h
          split at h
          · cases h
          · obtain ⟨-, rfl⟩ := Prod.mk.inj (Except.ok.inj h)
            simp only [Errand.bench, hplace, hfile, hbench]

theorem Errand.bench_of_attempt? {errand : Errand} {shell : Shell} {site : Site}
    {env : Environment} {choice : WorkspaceChoice} {dryRun : Bool} {bench : Bench} {path : String}
    (h : (errand.launch shell site env choice dryRun).attempt? = some (bench, path)) :
    errand.bench site env choice = .ok bench := by
  cases errand with
  | around target location =>
    obtain ⟨⟨document, found⟩, hopen, h⟩ := Option.bind_eq_some_iff.mp h
    obtain ⟨resolution, -, h⟩ := Option.map_eq_some_iff.mp h
    obtain ⟨rfl, rfl⟩ := Prod.mk.inj h
    exact bench_of_openLocation (Launch.toOption_eq_some hopen) target
  | suite =>
    obtain ⟨found, hbench, h⟩ := Option.map_eq_some_iff.mp h
    obtain ⟨rfl, rfl⟩ := Prod.mk.inj h
    exact Launch.toOption_eq_some hbench
  | lastTests =>
    obtain ⟨found, hbench, h⟩ := Option.bind_eq_some_iff.mp h
    obtain ⟨-, h⟩ := Option.ite_none_left_eq_some.mp h
    obtain ⟨rfl, rfl⟩ := Prod.mk.inj (Option.some.inj h)
    exact Launch.toOption_eq_some hbench

/-- A run asks the shell at most once: for its own line, in the root of the workspace, with the
files as they were. -/
theorem runAt_congr {shell other : Shell} (site : Site) (bench : Bench) (path : String)
    (h : ∀ place, startDir site (some bench.workspace.root) = .ok place →
      other site.tree place (bench.settings.commandFor path) =
        shell site.tree place (bench.settings.commandFor path)) :
    runAt other site bench false path = runAt shell site bench false path := by
  rw [runAt_eq, runAt_eq]
  cases hplace : shellPlace site (bench.settings.commandFor path) (some bench.workspace.root) with
  | error reason => rfl
  | ok place => simp only [h place (shellPlace_eq_ok_iff.mp hplace).2]

/-- A dry run changes no file and starts nothing. When it succeeds it printed the one line that
the run hands to the shell, in the root of the discovered workspace, and the run comes to what the
shell gave for this line, or to a failure where the process cannot be started. When it fails the run
fails in the same way and starts nothing. -/
theorem dry_run_foretells_run (shell : Shell) (site : Site) (env : Environment) (errand : Errand)
    (choice : WorkspaceChoice) :
    let dry := execute shell site env (errand.invocation choice true)
    let real := execute shell site env (errand.invocation choice false)
    (dry.tree = site.tree ∧ dry.started = none ∧
        ∀ other, execute other site env (errand.invocation choice true) = dry) ∧
      (dry.code = 0 → ∃ bench path, errand.bench site env choice = .ok bench ∧
        let root := bench.workspace.root
        let line := bench.settings.commandFor path
        dry.stdout = line ++ "\n" ∧
        real.started = some ⟨"sh", ["-c", line], some root⟩ ∧
        (∀ place, shellPlace site line (some root) = .ok place →
          real = .ofRun site root line path (shell site.tree place line)) ∧
        (∀ reason, shellPlace site line (some root) = .error reason →
          real = .notStarted site root line reason) ∧
        ∀ other : Shell,
          (∀ place, startDir site (some root) = .ok place →
            other site.tree place line = shell site.tree place line) →
          execute other site env (errand.invocation choice false) = real) ∧
      (dry.code ≠ 0 → real = dry ∧ real.started = none ∧
        ∀ other, execute other site env (errand.invocation choice false) = real) := by
  intro dry real
  cases hattempt : (errand.launch shell site env choice true).attempt? with
  | some attempt =>
    obtain ⟨bench, path⟩ := attempt
    have hexecute := Errand.execute_of_attempt? hattempt
    have hdry (other : Shell) : execute other site env (errand.invocation choice true) =
        ⟨0, echoLine (bench.settings.commandFor path), "", site.tree, none⟩ :=
      (hexecute other true).trans (runAt_dry other site bench path)
    have hreal : real = runAt shell site bench false path := hexecute shell false
    refine ⟨⟨congrArg Outcome.tree (hdry shell), congrArg Outcome.started (hdry shell),
      fun other => (hdry other).trans (hdry shell).symm⟩, fun _ => ?_, fun hcode => ?_⟩
    · refine ⟨bench, path, Errand.bench_of_attempt? hattempt,
        congrArg Outcome.stdout (hdry shell),
        (congrArg Outcome.started hreal).trans (started_runAt shell site bench path),
        fun place hplace => hreal.trans (runAt_of_shellPlace hplace),
        fun reason hreason => hreal.trans (runAt_of_refused hreason), fun other hagree => ?_⟩
      rw [hreal, hexecute, runAt_congr site bench path hagree]
    · exact absurd (congrArg Outcome.code (hdry shell)) hcode
  | none =>
    obtain ⟨outcome, hcode, htree, hstarted, hexecute⟩ :=
      Errand.execute_of_attempt?_eq_none hattempt
    have hdry : dry = outcome := hexecute shell true
    have hreal : real = outcome := hexecute shell false
    refine ⟨⟨by rw [hdry, htree], by rw [hdry, hstarted], fun other => ?_⟩, fun hzero => ?_,
      fun _ => ⟨hreal.trans hdry.symm, by rw [hreal, hstarted], fun other => ?_⟩⟩
    · rw [hexecute, hdry]
    · rw [hdry, hcode] at hzero
      exact absurd hzero (by decide)
    · rw [hexecute, hreal]

/-- A file of tests is announced, and then run by the shell; without last tests nothing is, dry or
not. -/
theorem dry_run_foretells_run_sampleSite :
    (let errand : Errand := .around .file "tests.py"
      let line := "manage.py test tests"
      let dry := execute failingShell sampleSite .none (errand.invocation ⟨none, none⟩ true)
      let real := execute failingShell sampleSite .none (errand.invocation ⟨none, none⟩ false)
      dry.code = 0 ∧ dry.stdout = line ++ "\n" ∧ dry.tree = sampleSite.tree ∧
        real.started = some ⟨"sh", ["-c", line], some "/work"⟩ ∧
        ∃ path, real = .ofRun sampleSite "/work" line path
          (failingShell sampleSite.tree ["work"] line)) ∧
    (let dry := execute failingShell sampleSite .none
        (Errand.lastTests.invocation ⟨none, none⟩ true)
      let real := execute failingShell sampleSite .none
        (Errand.lastTests.invocation ⟨none, none⟩ false)
      dry.code ≠ 0 ∧ real = dry ∧ real.started = none) := by
  constructor
  · intro errand line dry real
    obtain ⟨⟨htree, -⟩, hline, -⟩ :=
      dry_run_foretells_run failingShell sampleSite .none errand ⟨none, none⟩
    have hcode : dry.code = 0 := by decide +kernel
    have hstdout : dry.stdout = line ++ "\n" := by decide +kernel
    have hsample : errand.bench sampleSite .none ⟨none, none⟩ = .ok sampleBench := by
      decide +kernel
    have hplace : shellPlace sampleSite line (some "/work") = .ok ["work"] := by decide +kernel
    obtain ⟨bench, path, hbench, hprinted, hstarted, hran, -⟩ := hline hcode
    obtain rfl : sampleBench = bench := Except.ok.inj (hsample.symm.trans hbench)
    have hcommand : sampleBench.settings.commandFor path = line :=
      String.append_left_inj "\n" |>.mp (hprinted.symm.trans hstdout)
    rw [hcommand] at hstarted hran
    exact ⟨hcode, hstdout, htree, hstarted, path, hran ["work"] hplace⟩
  · intro dry real
    obtain ⟨-, -, hfail⟩ :=
      dry_run_foretells_run failingShell sampleSite .none .lastTests ⟨none, none⟩
    have hcode : dry.code ≠ 0 := by decide +kernel
    exact ⟨hcode, (hfail hcode).1, (hfail hcode).2.1⟩

end Cli

end TestCursor
