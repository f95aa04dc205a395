import TestCursor.Proofs.DryRun
import TestCursor.Proofs.ShellStart
import TestCursor.Proofs.TestPathReading
import TestCursor.Proofs.WorkspaceRoot

/-!
# The words of the command line

The parts of a command are joined by spaces and nothing is put in quotes, so that the shell cuts the
line where it likes.

1. The words of the line are those of its parts in their order (`wordsOf_commandFor`).
2. A space in the interpreter comes from the directory of the environment
   (`space_mem_interpreterIn_iff`), and one in the test path from the module path
   (`space_mem_testPath_iff`).
3. So the interpreter and the test path are one word each exactly when neither of the two has a
   space. Then a new shell that takes all words of the line for themselves starts the interpreter
   with the others as its arguments (`command_keeps_words`).
-/

namespace TestCursor

/-! ## The interpreter -/

/-- The environment in a directory is the active one: it is a virtual environment, or a conda
environment while there is no virtual one. A variable that is empty names none. -/
inductive Environment.IsActive (home : String) : Environment → Prop
  | virtual (conda : Option String) (hhome : home ≠ "") : IsActive home ⟨some home, conda⟩
  | conda {virtual : Option String} (hvirtual : virtual.getD "" = "") (hhome : home ≠ "") :
      IsActive home ⟨virtual, some home⟩

theorem Config.interpreter_of_isActive {config : Config} {env : Environment} {home : String}
    (husage : config.usePythonPath = true) (h : env.IsActive home) :
    config.interpreter env = interpreterIn home := by
  have hhomes : env.homes.head? = some home := by
    cases h with
    | virtual conda hhome => simp [Environment.homes, hhome]
    | @conda virtual hvirtual hhome =>
      cases virtual with
      | none => simp [Environment.homes, hhome]
      | some empty =>
        obtain rfl : empty = "" := hvirtual
        simp [Environment.homes, hhome]
  obtain ⟨others, hcons⟩ := List.head?_eq_some_iff.mp hhomes
  unfold Config.interpreter
  rw [if_pos husage, hcons]

section Chars

variable {c : Char} {base path home : String}

theorem mem_joinPath_iff (hc : c ≠ '/') (hpath : isAbsolute path = false) :
    c ∈ (joinPath base path).toList ↔ c ∈ base.toList ∨ c ∈ path.toList := by
  unfold joinPath
  rw [hpath, Bool.false_or]
  split
  · next hempty => simp [String.isEmpty_iff.mp hempty]
  · split <;> simp [hc]

theorem slash_mem_joinPath (hbase : base ≠ "") (hpath : isAbsolute path = false) :
    '/' ∈ (joinPath base path).toList := by
  unfold joinPath
  rw [hpath, Bool.false_or, if_neg (by simpa using hbase)]
  split
  · next hlast => simp [List.mem_of_getLast? hlast]
  · simp

theorem joinPath_ne_empty (hpath : path ≠ "") : joinPath base path ≠ "" := by
  unfold joinPath
  split
  · exact hpath
  · split <;> simp [hpath]

theorem space_mem_interpreterIn_iff : ' ' ∈ (interpreterIn home).toList ↔ ' ' ∈ home.toList := by
  unfold interpreterIn
  rw [mem_joinPath_iff (by decide) (by decide), mem_joinPath_iff (by decide) (by decide)]
  simp

theorem slash_mem_interpreterIn (home : String) : '/' ∈ (interpreterIn home).toList :=
  slash_mem_joinPath (joinPath_ne_empty (by decide)) (by decide)

end Chars

/-! ## The test path -/

section TestPath

variable {target : Target} {modulePath : String} {scope : Scope} {nose : Bool}

theorem AllWord.space_not_mem {text : List Char} (h : AllWord text) : ' ' ∉ text :=
  fun hmem => absurd (h _ hmem) (by decide)

theorem space_mem_classPath_iff (hclass : AllWord scope.testClass.toList) :
    ' ' ∈ (classPath nose modulePath scope.testClass).toList ↔ ' ' ∈ modulePath.toList := by
  have hseparator : ' ' ≠ separatorChar nose := by cases nose <;> decide
  simp [classPath, toList_moduleSeparator, hclass.space_not_mem, hseparator]

theorem space_mem_testPath_iff (htarget : target ≠ .app) (hmethod : AllWord scope.method.toList)
    (hclass : AllWord scope.testClass.toList) :
    ' ' ∈ (target.testPath nose modulePath scope).toList ↔ ' ' ∈ modulePath.toList := by
  cases target with
  | method =>
    have hmodule := @space_mem_classPath_iff modulePath scope nose hclass
    simp [Target.testPath, methodPath, hmethod.space_not_mem, hmodule]
  | testClass => exact space_mem_classPath_iff hclass
  | file => exact Iff.rfl
  | app => exact absurd rfl htarget

theorem testPath_ne_empty (htarget : target ≠ .app) (hmodule : modulePath ≠ "") :
    target.testPath nose modulePath scope ≠ "" := by
  cases target with
  | method => simp [Target.testPath, methodPath, classPath, hmodule]
  | testClass => simp [Target.testPath, classPath, hmodule]
  | file => exact hmodule
  | app => exact absurd rfl htarget

/-- What the document at a location resolves to: names that follow its module path have no space. -/
theorem space_mem_of_resolve {settings : Settings} {document : Document} {resolution : Resolution}
    (htarget : target ≠ .app)
    (h : settings.resolve target document.toSource = .ok resolution) :
    (' ' ∈ resolution.testPath.toList ↔ ' ' ∈ resolution.modulePath.toList) ∧
      (resolution.modulePath ≠ "" → resolution.testPath ≠ "") := by
  rw [Settings.resolve_toSource] at h
  obtain rfl := Except.ok.inj h
  have hnames : AllWord (if target.needsScope then Scope.ofLines document.lines
        else Scope.empty).method.toList ∧
      AllWord (if target.needsScope then Scope.ofLines document.lines
        else Scope.empty).testClass.toList := by
    split
    · exact allWord_ofLines document.lines
    · exact ⟨allWord_empty, allWord_empty⟩
  exact ⟨space_mem_testPath_iff htarget hnames.1 hnames.2, testPath_ne_empty htarget⟩

end TestPath

/-! ## The line -/

theorem Settings.wordsOf_commandFor (settings : Settings) (path : String) :
    wordsOf (settings.commandFor path) =
      wordsOf settings.config.prefixCommand ++ wordsOf settings.interpreter ++
        wordsOf settings.config.manageProgram ++ wordsOf path ++ wordsOf settings.config.flags := by
  unfold commandFor Config.commandFor
  rw [wordsOf_line]
  simp [CommandParts.toList]

/-- The interpreter and the test path are one word each exactly when neither has a space. -/
theorem Settings.wordsOf_commandFor_eq_iff (settings : Settings) {path : String}
    (hinterpreter : settings.interpreter ≠ "") (hpath : path ≠ "") :
    wordsOf (settings.commandFor path) =
        wordsOf settings.config.prefixCommand ++ [settings.interpreter] ++
          wordsOf settings.config.manageProgram ++ [path] ++ wordsOf settings.config.flags ↔
      ' ' ∉ settings.interpreter.toList ∧ ' ' ∉ path.toList := by
  constructor
  · intro h
    have hword {word : String} (hword : word = settings.interpreter ∨ word = path) :
        ' ' ∉ word.toList := by
      have hmem : word ∈ wordsOf (settings.commandFor path) := by
        rw [h]
        rcases hword with rfl | rfl <;> simp
      exact no_space_of_mem hmem
    exact ⟨hword (.inl rfl), hword (.inr rfl)⟩
  · rintro ⟨hplain, hplainPath⟩
    rw [wordsOf_commandFor, wordsOf_eq_singleton_iff.mpr ⟨hinterpreter, hplain⟩,
      wordsOf_eq_singleton_iff.mpr ⟨hpath, hplainPath⟩]

namespace Cli

variable {shell : Shell} {site : Site} {env : Environment} {target : Target} {location : String}
  {choice : WorkspaceChoice} {document : Document} {bench : Bench} {resolution : Resolution}
  {home : String}

theorem settings_of_bench {path : Option String} (h : site.bench env path choice = .ok bench) :
    bench.settings = Settings.of bench.workspace.config env choice.interpreter := by
  unfold Site.bench at h
  split at h
  · cases h
  · obtain rfl := Except.ok.inj h
    rfl

theorem settings_of_openLocation
    (h : openLocation site env location choice = .ok (document, bench)) :
    bench.settings = Settings.of bench.workspace.config env choice.interpreter := by
  have hbench := bench_of_openLocation h .file
  unfold Errand.bench at hbench
  dsimp only at hbench
  split at hbench
  · cases hbench
  · split at hbench
    · cases hbench
    · exact settings_of_bench hbench

theorem interpreter_of_openLocation
    (hopen : openLocation site env location choice = .ok (document, bench))
    (hchoice : choice.interpreter = none)
    (husage : bench.settings.config.usePythonPath = true) (hactive : env.IsActive home) :
    bench.settings.interpreter = interpreterIn home := by
  have hsettings := settings_of_openLocation hopen
  rw [hsettings] at husage ⊢
  rw [Settings.of, hchoice]
  exact Config.interpreter_of_isActive husage hactive

/-- The line that a run hands to the shell has the words of the prefix, the interpreter of the
active environment, the program, the test path and the flags, in this order; and where the process
can be started the run comes to what the shell gave for this line. The interpreter and the test path
are one word each exactly when neither the directory of the environment nor the module path has a
space. Then, without a prefix, and when a shell takes all words for themselves, a new shell starts
the interpreter with the other words as its arguments, of which the test path is one. -/
theorem command_keeps_words (shell : Shell)
    (hopen : openLocation site env location choice = .ok (document, bench))
    (htarget : target ≠ .app) (hchoice : choice.interpreter = none)
    (husage : bench.settings.config.usePythonPath = true) (hactive : env.IsActive home)
    (hresolve : bench.settings.resolve target document.toSource = .ok resolution)
    (hmodule : resolution.modulePath ≠ "") :
    let config := bench.settings.config
    let interpreter := interpreterIn home
    let testPath := resolution.testPath
    let root := bench.workspace.root
    let outcome := runTarget shell site env target location false choice
    ∃ line, outcome.started = some ⟨"sh", ["-c", line], some root⟩ ∧
      (∀ place, shellPlace site line (some root) = .ok place →
        outcome = .ofRun site root line testPath (shell site.tree place line)) ∧
      wordsOf line = wordsOf config.prefixCommand ++ wordsOf interpreter ++
        wordsOf config.manageProgram ++ wordsOf testPath ++ wordsOf config.flags ∧
      (wordsOf line = wordsOf config.prefixCommand ++ [interpreter] ++
          wordsOf config.manageProgram ++ [testPath] ++ wordsOf config.flags ↔
        ' ' ∉ home.toList ∧ ' ' ∉ resolution.modulePath.toList) ∧
      (' ' ∉ home.toList → ' ' ∉ resolution.modulePath.toList →
        wordsOf config.prefixCommand = [] →
        (∀ word ∈ wordsOf line, Shell.IsLiteralWord word.toList) →
        ¬Shell.Assigns interpreter.toList → ¬Shell.IsOption interpreter.toList →
        Shell.StartsProgram line interpreter
          (wordsOf config.manageProgram ++ [testPath] ++ wordsOf config.flags)) := by
  intro config interpreter testPath root outcome
  have hrun : outcome = runAt shell site bench false testPath :=
    runTarget_of_resolved hopen hresolve
  have hinterpreter : bench.settings.interpreter = interpreter :=
    interpreter_of_openLocation hopen hchoice husage hactive
  obtain ⟨hspace, hpath⟩ := space_mem_of_resolve htarget hresolve
  have hwords := bench.settings.wordsOf_commandFor testPath
  have hslash := slash_mem_interpreterIn home
  have hne : bench.settings.interpreter ≠ "" := by
    rw [hinterpreter]
    rintro hempty
    rw [show interpreterIn home = "" from hempty] at hslash
    cases hslash
  have hiff := bench.settings.wordsOf_commandFor_eq_iff hne (hpath hmodule)
  rw [hinterpreter] at hwords hiff
  rw [show ' ' ∉ interpreter.toList ↔ ' ' ∉ home.toList from not_congr space_mem_interpreterIn_iff,
    not_congr hspace] at hiff
  refine ⟨bench.settings.commandFor testPath,
    (congrArg Outcome.started hrun).trans (started_runAt shell site bench testPath),
    fun place hplace => hrun.trans (runAt_of_shellPlace hplace), hwords, hiff,
    fun hhome hplain hprefix hliteral hassign hoption => ?_⟩
  · refine Shell.startsProgram_of_literal ?_ hliteral hslash hassign hoption
    rw [hiff.mpr ⟨hhome, hplain⟩,
      show wordsOf bench.settings.config.prefixCommand = [] from hprefix]
    rfl

/-- In an environment without spaces in its path a new shell starts the interpreter. -/
theorem command_keeps_words_sampleSite :
    let env : Environment := ⟨some "/env", none⟩
    let line := "/env/bin/python manage.py test tests"
    (runTarget failingShell sampleSite env .file "tests.py" false ⟨none, none⟩).started =
        some ⟨"sh", ["-c", line], some "/work"⟩ ∧
      runTarget failingShell sampleSite env .file "tests.py" false ⟨none, none⟩ =
        .ofRun sampleSite "/work" line "tests" (failingShell sampleSite.tree ["work"] line) ∧
      Shell.StartsProgram line "/env/bin/python" ["manage.py", "test", "tests"] := by
  intro env line
  have hopen : openLocation sampleSite env "tests.py" ⟨none, none⟩ =
      .ok (⟨"/work/tests.py", "/work", none, ""⟩,
        ⟨⟨Config.default, none, "/work"⟩, ⟨Config.default, "/env/bin/python"⟩⟩) := by
    decide +kernel
  have hresolve : Settings.resolve ⟨Config.default, "/env/bin/python"⟩ .file
      (Document.toSource ⟨"/work/tests.py", "/work", none, ""⟩) =
        .ok ⟨.file, Scope.empty, "tests", "tests"⟩ := by
    decide +kernel
  obtain ⟨found, hstarted, hran, -, -, hcalls⟩ :=
    command_keeps_words failingShell hopen (by decide) rfl rfl (.virtual none (by decide)) hresolve
      (by decide)
  have hline : (runTarget failingShell sampleSite env .file "tests.py" false
      ⟨none, none⟩).started = some ⟨"sh", ["-c", line], some "/work"⟩ := by decide +kernel
  obtain rfl : found = line := by simpa using hstarted.symm.trans hline
  have hinterpreter : interpreterIn "/env" = "/env/bin/python" := by decide +kernel
  have hargs : wordsOf Config.default.manageProgram ++ ["tests"] ++ wordsOf Config.default.flags =
      ["manage.py", "test", "tests"] := by decide +kernel
  have hliteral : ∀ word ∈ wordsOf line, Shell.IsLiteralWord word.toList := by decide +kernel
  have hassign : ¬Shell.Assigns (interpreterIn "/env").toList := by
    rw [hinterpreter]
    exact fun h => absurd h.equals_mem (by decide)
  have hoption : ¬Shell.IsOption (interpreterIn "/env").toList := by
    rw [hinterpreter]
    rintro (hminus | hplus)
    · cases hminus
    · cases hplus
  have hcalled := hcalls (by decide) (by decide) (by decide +kernel) hliteral hassign hoption
  rw [hinterpreter] at hcalled
  have hplace : shellPlace sampleSite line (some "/work") = .ok ["work"] := by decide +kernel
  exact ⟨hstarted, hran ["work"] hplace, hargs ▸ hcalled⟩

/-- A space in the path of the environment cuts the interpreter. -/
theorem spaced_environment_is_cut :
    ¬∀ (shell : Shell) (site : Site) (env : Environment) (target : Target) (location : String)
      (choice : WorkspaceChoice) (document : Document) (bench : Bench) (resolution : Resolution)
      (home line : String),
      openLocation site env location choice = .ok (document, bench) → target ≠ .app →
      choice.interpreter = none → bench.settings.config.usePythonPath = true →
      env.IsActive home →
      bench.settings.resolve target document.toSource = .ok resolution →
      resolution.modulePath ≠ "" →
      (runTarget shell site env target location false choice).started =
        some ⟨"sh", ["-c", line], some bench.workspace.root⟩ →
      wordsOf line = wordsOf bench.settings.config.prefixCommand ++ [interpreterIn home] ++
        wordsOf bench.settings.config.manageProgram ++ [resolution.testPath] ++
          wordsOf bench.settings.config.flags := by
  intro hkept
  let env : Environment := ⟨some "/my env", none⟩
  let line := "/my env/bin/python manage.py test tests"
  let settings : Settings := ⟨Config.default, "/my env/bin/python"⟩
  have hopen : openLocation sampleSite env "tests.py" ⟨none, none⟩ =
      .ok (⟨"/work/tests.py", "/work", none, ""⟩, ⟨⟨Config.default, none, "/work"⟩, settings⟩) := by
    decide +kernel
  have hresolve : settings.resolve .file (Document.toSource ⟨"/work/tests.py", "/work", none, ""⟩) =
      .ok ⟨.file, Scope.empty, "tests", "tests"⟩ := by decide +kernel
  have hstarted : (runTarget failingShell sampleSite env .file "tests.py" false
      ⟨none, none⟩).started = some ⟨"sh", ["-c", line], some "/work"⟩ := by decide +kernel
  have hwords := hkept failingShell sampleSite env .file "tests.py" ⟨none, none⟩ _ _ _ "/my env"
    line hopen (by decide) rfl rfl (.virtual none (by decide)) hresolve (by decide) hstarted
  revert hwords
  decide +kernel

end Cli

end TestCursor
