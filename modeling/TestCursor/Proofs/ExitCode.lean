import TestCursor.Proofs.DryRun

/-!
# The exit code of a run

A run passes on the exit code of its command. But it records the path of the tests first, and when
that fails the code of the command is lost.

1. What is left to do after a command ends with the code to pass on where the path was recorded
   (`code_ofRun_of_recorded`), and with 1 where it was not (`code_ofRun_of_not_recorded`).
2. An errand whose command is started comes to this (`Errand.exists_attempt?_of_starts`). So the
   code of the command is the exit code where there is room for the state file
   (`exit_code_of_started`). A workspace without that room hides it
   (`state_failure_hides_exit_code`).
-/

namespace TestCursor

namespace Cli

/-- The path of the tests can be recorded when their command has ended. -/
def Recordable (run : ShellRun) (cwd : Location) (root path : String) : Prop :=
  ∃ tree, Site.saveState ⟨run.tree, cwd⟩ root path = .ok tree

theorem recordable_of_hasRoomAt {run : ShellRun} {cwd : Location} {root : String}
    (h : run.tree.hasRoomAt cwd (StateFile.pathIn root) = true) (path : String) :
    Recordable run cwd root path := by
  obtain ⟨tree, hwrite⟩ := FileTree.exists_writeText h (StateFile.toText path)
  exact ⟨tree, Site.saveState_eq_ok_iff.mpr hwrite⟩

section Conclusion

variable {site : Site} {root line path : String} {run : ShellRun}

theorem Outcome.code_ofRun_of_recorded (h : Recordable run site.cwd root path) :
    (Outcome.ofRun site root line path run).code = run.status.passedOn := by
  obtain ⟨tree, hsave⟩ := h
  simp only [Outcome.ofRun, conclude, Bool.false_eq_true, if_false, hsave, Option.map_some,
    Option.getD_some]

theorem Outcome.code_ofRun_of_not_recorded (h : ¬Recordable run site.cwd root path) :
    (Outcome.ofRun site root line path run).code = 1 := by
  cases hsave : Site.saveState ⟨run.tree, site.cwd⟩ root path with
  | ok tree => exact absurd ⟨tree, hsave⟩ h
  | error failure => simp only [Outcome.ofRun, conclude, Bool.false_eq_true, if_false, hsave]

end Conclusion

/-- An errand whose command is started has tests to run, and the shell has a place to run their
command. -/
theorem Errand.exists_attempt?_of_starts {errand : Errand} {shell : Shell} {site : Site}
    {env : Environment} {choice : WorkspaceChoice}
    (h : (execute shell site env (errand.invocation choice false)).starts site = true) :
    ∃ bench path place,
      (errand.launch shell site env choice false).attempt? = some (bench, path) ∧
      shellPlace site (bench.settings.commandFor path) (some bench.workspace.root) =
        .ok place := by
  have hinit : (errand.launch shell site env choice false).isInitialisation = false := by
    cases errand <;> rfl
  have hdry : (errand.launch shell site env choice false).isDry = false := by
    cases errand <;> rfl
  have htests : (errand.launch shell site env choice false).startsTests = true := by
    rw [Launch.startsTests, hdry]
    exact h
  obtain ⟨bench, path, place, hattempt, hplace, -⟩ := Launch.outcome_of_startsTests hinit htests
  exact ⟨bench, path, place, hattempt, hplace⟩

/-- When its command is started, an errand that is not dry ends with the exit code of the command,
or with 1 when the command was killed, as long as the path of the tests can be recorded; and where
there is room for the state file it can. Otherwise the errand ends with 1, however the command
ended. -/
theorem exit_code_of_started (shell : Shell) (site : Site) (env : Environment) (errand : Errand)
    (choice : WorkspaceChoice)
    (hstarts : (execute shell site env (errand.invocation choice false)).starts site = true) :
    let outcome := execute shell site env (errand.invocation choice false)
    ∃ bench path place, errand.bench site env choice = .ok bench ∧
      startDir site (some bench.workspace.root) = .ok place ∧
      let command := bench.settings.commandFor path
      let run := shell site.tree place command
      outcome.started = some ⟨"sh", ["-c", command], some bench.workspace.root⟩ ∧
        (run.status = .killed → outcome.code = 1) ∧
        (∀ code, run.status = .exited code →
          Recordable run site.cwd bench.workspace.root path → outcome.code = code) ∧
        (¬Recordable run site.cwd bench.workspace.root path → outcome.code = 1) ∧
        (run.tree.hasRoomAt site.cwd (StateFile.pathIn bench.workspace.root) = true →
          Recordable run site.cwd bench.workspace.root path) := by
  intro outcome
  obtain ⟨bench, path, place, hattempt, hplace⟩ := Errand.exists_attempt?_of_starts hstarts
  have hrun : outcome = runAt shell site bench false path :=
    Errand.execute_of_attempt? hattempt shell false
  have hran := hrun.trans (runAt_of_shellPlace hplace)
  refine ⟨bench, path, place, Errand.bench_of_attempt? hattempt,
    (shellPlace_eq_ok_iff.mp hplace).2,
    (congrArg Outcome.started hrun).trans (started_runAt shell site bench path),
    fun hkilled => ?killed, fun code hexited hrecord => ?exited, fun hrecord => ?lost,
    fun hroom => recordable_of_hasRoomAt hroom path⟩
  case killed =>
    by_cases hrecord : Recordable (shell site.tree place (bench.settings.commandFor path)) site.cwd
        bench.workspace.root path
    · rw [hran, Outcome.code_ofRun_of_recorded hrecord, hkilled]
      rfl
    · rw [hran, Outcome.code_ofRun_of_not_recorded hrecord]
  case exited =>
    rw [hran, Outcome.code_ofRun_of_recorded hrecord, hexited]
    rfl
  case lost => rw [hran, Outcome.code_ofRun_of_not_recorded hrecord]

/-- A shell in which every command ends in one way. -/
def endingShell (status : ExitStatus) : Shell := fun tree _ _ => ⟨status, "", "", tree⟩

/-- A workspace at `/work` in which a directory has the name of the state file. -/
def crowdedSite : Site :=
  ⟨.dir [("work", .dir [("manage.py", .file .empty 0o644),
    (".django-runner-state.json", .dir [])])], ["work"]⟩

/-- The suite is started and ends with 3. In a workspace with room for the state file that is the
exit code. -/
theorem exit_code_of_started_sampleSite :
    (execute (endingShell (.exited 3)) sampleSite .none (.app false ⟨none, none⟩)).starts
        sampleSite = true ∧
      (execute (endingShell (.exited 3)) sampleSite .none (.app false ⟨none, none⟩)).code = 3 := by
  have hstarts : (execute (endingShell (.exited 3)) sampleSite .none
      (.app false ⟨none, none⟩)).starts sampleSite = true := by decide +kernel
  obtain ⟨bench, path, place, hbench, -, -, -, hcode, -, hroom⟩ :=
    exit_code_of_started (endingShell (.exited 3)) sampleSite .none .suite ⟨none, none⟩ hstarts
  have hsample : Errand.suite.bench sampleSite .none ⟨none, none⟩ = .ok sampleBench := by
    decide +kernel
  obtain rfl : sampleBench = bench := Except.ok.inj (hsample.symm.trans hbench)
  have hfree : sampleSite.tree.hasRoomAt sampleSite.cwd (StateFile.pathIn "/work") = true := by
    decide +kernel
  exact ⟨hstarts, hcode 3 rfl (hroom hfree)⟩

/-- The exit code of the command is not always passed on: it is lost where the path of the tests
cannot be recorded. -/
theorem state_failure_hides_exit_code :
    ¬∀ (status : ExitStatus) (site : Site) (env : Environment) (errand : Errand)
      (choice : WorkspaceChoice),
      (execute (endingShell status) site env (errand.invocation choice false)).starts site = true →
        (∀ code, status = .exited code →
          (execute (endingShell status) site env (errand.invocation choice false)).code = code) ∧
        (status = .killed →
          (execute (endingShell status) site env (errand.invocation choice false)).code = 1) := by
  intro hpasses
  have hthree := (hpasses (.exited 3) crowdedSite .none .suite ⟨none, none⟩ (by decide +kernel)).1
    3 rfl
  have hone : (execute (endingShell (.exited 3)) crowdedSite .none
      (Errand.suite.invocation ⟨none, none⟩ false)).code = 1 := by decide +kernel
  exact absurd (hone.symm.trans hthree) (by decide)

end Cli

end TestCursor
