import TestCursor.Proofs.DryRun
import TestCursor.Proofs.Resolution

/-!
# The printed analysis foretells the dry runs

A printed analysis and a dry run come to their command line by different ways: one plans the runs
of all targets and prints them as JSON, the other resolves its target and sends the command to a
terminal that prints it.

1. The analysis is found again in the value that is printed for it (`Analysis.ofJson?_toJson`), and
   the printed line spells this value (`Json.spellsText_printLine`). So it is found again in the
   text, whatever characters it contains.
2. An analysis lists nothing but plans (`Settings.eq_plan_of_mem_runs`), and where it succeeds the
   dry run of every target prints the command of its plan (`dryRun_of_analyze`).
-/

namespace TestCursor

/-! ## Reading a printed analysis -/

def Json.elements? : Json → Option (List Json)
  | .array elements => some elements
  | _ => none

def PlannedRun.ofJson? (value : Json) : Option PlannedRun :=
  match value.record? ["target", "test_path", "command"] with
  | some [some target, some testPath, some command] => do
    return ⟨← Target.ofJson? target, ← testPath.string?, ← command.string?⟩
  | _ => none

def Analysis.ofJson? (value : Json) : Option Analysis :=
  match value.record? ["relative_path", "scope", "module_path", "runs"] with
  | some [some relativePath, some scope, some modulePath, some runs] => do
    return ⟨← relativePath.string?, ← Scope.ofJson? scope, ← modulePath.string?,
      ← (← runs.elements?).mapM PlannedRun.ofJson?⟩
  | _ => none

def Analysis.ofText? (text : String) : Option Analysis := (Json.parse? text).bind ofJson?

theorem Scope.ofJson?_toJson (scope : Scope) : Scope.ofJson? scope.toJson = some scope := by
  have hrecord : scope.toJson.record? ["method_name", "class_name"] =
      some [some (.text scope.method), some (.text scope.testClass)] :=
    Json.record?_ofMembers Prod.fst Prod.snd
      [("method_name", .text scope.method), ("class_name", .text scope.testClass)] (by simp)
  rw [ofJson?, hrecord]
  rfl

theorem PlannedRun.ofJson?_toJson (run : PlannedRun) :
    PlannedRun.ofJson? run.toJson = some run := by
  have hrecord : run.toJson.record? ["target", "test_path", "command"] =
      some [some (.text run.target.word), some (.text run.testPath), some (.text run.command)] :=
    Json.record?_ofMembers Prod.fst Prod.snd [("target", .text run.target.word),
      ("test_path", .text run.testPath), ("command", .text run.command)] (by simp)
  have htarget : Target.ofJson? (.text run.target.word) = some run.target :=
    Target.ofWord?_word run.target
  rw [ofJson?, hrecord]
  simp only [htarget]
  rfl

theorem PlannedRun.mapM_ofJson?_toJson (runs : List PlannedRun) :
    (runs.map toJson).mapM ofJson? = some runs := by
  induction runs with
  | nil => rfl
  | cons run runs ih => simp [ofJson?_toJson, ih]

theorem Analysis.ofJson?_toJson (analysis : Analysis) :
    Analysis.ofJson? analysis.toJson = some analysis := by
  have hrecord : analysis.toJson.record? ["relative_path", "scope", "module_path", "runs"] =
      some [some (.text analysis.relativePath), some analysis.scope.toJson,
        some (.text analysis.modulePath), some (.array (analysis.runs.map PlannedRun.toJson))] :=
    Json.record?_ofMembers Prod.fst Prod.snd
      [("relative_path", .text analysis.relativePath), ("scope", analysis.scope.toJson),
       ("module_path", .text analysis.modulePath),
       ("runs", .array (analysis.runs.map PlannedRun.toJson))] (by simp)
  rw [ofJson?, hrecord]
  simp only [Scope.ofJson?_toJson, Json.elements?, Option.bind_eq_bind, Option.bind_some,
    PlannedRun.mapM_ofJson?_toJson]
  rfl

theorem Json.arePlain_toJson (runs : List PlannedRun) :
    ArePlain (runs.map PlannedRun.toJson) := by
  induction runs with
  | nil => trivial
  | cons run runs ih => exact ⟨⟨rfl, rfl, rfl, rfl, rfl, rfl, trivial⟩, ih⟩

theorem Analysis.isPlain_toJson (analysis : Analysis) : analysis.toJson.IsPlain :=
  ⟨rfl, rfl, rfl, ⟨rfl, rfl, rfl, rfl, trivial⟩, rfl, rfl, rfl, Json.arePlain_toJson _, trivial⟩

theorem Json.spellsText_printLine {value : Json} (h : value.IsPlain) :
    SpellsText (value.print ++ "\n").toList value := by
  have htext : (value.print ++ "\n").toList = [] ++ (printAt 0 value ++ ['\n']) := by simp [print]
  rw [htext]
  exact .mk areBlanks_nil (spells_printAt 0 value h) (by decide)

/-! ## What an analysis lists -/

theorem Settings.eq_plan_of_mem_runs {settings : Settings} {source : Source} {analysis : Analysis}
    {run : PlannedRun} (h : settings.analyze source = .ok analysis) (hrun : run ∈ analysis.runs) :
    run = settings.plan analysis.modulePath analysis.scope run.target := by
  obtain ⟨path, lines, -, -, rfl⟩ := analyze_eq_ok_iff.mp h
  obtain ⟨target, -, rfl⟩ := List.mem_map.mp hrun
  rfl

namespace Cli

section Dispatch

variable {site : Site} {env : Environment} {location : String} {choice : WorkspaceChoice}
  {document : Document} {bench : Bench} {analysis : Analysis}

/-- An analysis that succeeds prints what was found in an opened document. -/
theorem exists_analysis_of_code (h : (analyze site env location true choice).code = 0) :
    ∃ document bench analysis, openLocation site env location choice = .ok (document, bench) ∧
      bench.settings.analyze document.toSource = .ok analysis ∧
      (analyze site env location true choice).stdout = analysis.toJson.print ++ "\n" := by
  unfold analyze at h ⊢
  cases hopen : openLocation site env location choice with
  | error failure => simp [hopen, Outcome.failed] at h
  | ok found =>
    obtain ⟨document, bench⟩ := found
    cases hanalyze : bench.settings.analyze document.toSource with
    | error e => simp [hopen, hanalyze, Outcome.failed] at h
    | ok analysis =>
      exact ⟨document, bench, analysis, rfl, hanalyze, by simp [hanalyze, Outcome.printed]⟩

/-- Where an analysis succeeds the dry run of every target prints the command of its plan. -/
theorem dryRun_of_analyze (shell : Shell)
    (hopen : openLocation site env location choice = .ok (document, bench))
    (hanalyze : bench.settings.analyze document.toSource = .ok analysis) (target : Target) :
    execute shell site env (.run target location true choice) =
      ⟨0, (bench.settings.plan analysis.modulePath analysis.scope target).command ++ "\n", "",
        site.tree, none⟩ := by
  obtain ⟨resolution, hresolve, -, -, hpath⟩ :=
    Settings.exists_resolve_of_analyze hanalyze target
  rw [execute, runTarget_of_resolved hopen hresolve, runAt_dry, hpath]
  rfl

/-- A printed analysis foretells the dry runs. It is the text of a JSON value in which the analysis
of the opened document is found again, string by string; the method, the class and the file can
all be run dry with the same arguments, and for each of the three that is listed the dry run prints
the listed command. -/
theorem analysis_foretells_dry_runs (shell : Shell) (site : Site) (env : Environment)
    (location : String) (choice : WorkspaceChoice)
    (hcode : (execute shell site env (.analyze location true choice)).code = 0) :
    let printed := (execute shell site env (.analyze location true choice)).stdout
    ∃ document bench analysis, openLocation site env location choice = .ok (document, bench) ∧
      bench.settings.analyze document.toSource = .ok analysis ∧
      Json.SpellsText printed.toList analysis.toJson ∧
      Analysis.ofText? printed = some analysis ∧
      ∀ target, target ≠ .app →
        let dry := execute shell site env (.run target location true choice)
        dry.code = 0 ∧
          ∀ run ∈ analysis.runs, run.target = target → dry.stdout = run.command ++ "\n" := by
  intro printed
  obtain ⟨document, bench, analysis, hopen, hanalyze, hprinted⟩ := exists_analysis_of_code hcode
  have hprinted : printed = analysis.toJson.print ++ "\n" := hprinted
  have hspells := Json.spellsText_printLine analysis.isPlain_toJson
  rw [← hprinted] at hspells
  refine ⟨document, bench, analysis, hopen, hanalyze, hspells, ?_, fun target _ => ?_⟩
  · rw [Analysis.ofText?, Json.parse?_of_spellsText hspells, Option.bind_some,
      Analysis.ofJson?_toJson]
  · have hdry := dryRun_of_analyze shell hopen hanalyze target
    refine ⟨congrArg Outcome.code hdry, ?_⟩
    rintro run hrun rfl
    rw [Settings.eq_plan_of_mem_runs hanalyze hrun]
    exact congrArg Outcome.stdout hdry

end Dispatch

/-- A workspace at `/work` whose flags and whose class are not plain words. -/
def quotedSite : Site :=
  ⟨.dir [("work", .dir [
    (".django-runner.json", .file "\x7b\"flags\": \"--tag \\\"\\u00fc\\\\\\\"\"\x7d".toUTF8 0o644),
    ("tests.py", .file "class ÜTest:\n    def test_a(self):\n".toUTF8 0o644)])], ["work"]⟩

/-- Quotes, backslashes and letters of other alphabets are found again in the printed analysis of a
method, and its dry run prints the listed command. -/
theorem analysis_foretells_dry_runs_quotedSite :
    (execute failingShell quotedSite .none (.analyze "tests.py:2" true ⟨none, none⟩)).code = 0 ∧
      ∃ analysis, Analysis.ofText? (execute failingShell quotedSite .none
          (.analyze "tests.py:2" true ⟨none, none⟩)).stdout = some analysis ∧
        analysis.runFor .method = some ⟨.method, "tests.ÜTest.test_a",
          "manage.py test tests.ÜTest.test_a --tag \"ü\\\""⟩ ∧
        (execute failingShell quotedSite .none
          (.run .method "tests.py:2" true ⟨none, none⟩)).stdout =
            "manage.py test tests.ÜTest.test_a --tag \"ü\\\"\n" := by
  have hcode : (execute failingShell quotedSite .none
      (.analyze "tests.py:2" true ⟨none, none⟩)).code = 0 := by decide +kernel
  obtain ⟨document, bench, analysis, hopen, hanalyze, -, hread, hdry⟩ :=
    analysis_foretells_dry_runs failingShell quotedSite .none "tests.py:2" ⟨none, none⟩ hcode
  have hplanned : ((openLocation quotedSite .none "tests.py:2" ⟨none, none⟩).toOption.bind
      fun found => (found.2.settings.analyze found.1.toSource).toOption.bind
        fun analysis => analysis.runFor .method) =
      some ⟨.method, "tests.ÜTest.test_a",
        "manage.py test tests.ÜTest.test_a --tag \"ü\\\""⟩ := by decide +kernel
  simp only [hopen, hanalyze, Except.toOption, Option.bind_some] at hplanned
  exact ⟨hcode, analysis, hread, hplanned,
    (hdry .method (by decide)).2 _ (List.mem_of_find?_eq_some hplanned) rfl⟩

end Cli

end TestCursor
