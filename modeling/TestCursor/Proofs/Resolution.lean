import TestCursor.Session

/-!
# Resolved targets and planned runs

A target is resolved on its own, and an analysis plans the runs of all targets at once. The two
read the source apart from each other, and the analysis leaves out what resolving still answers.

1. An analysis succeeds exactly when both answers of the source do (`analyze_eq_ok_iff`); a target
   of the file or of the suite needs the first answer only (`resolve_eq_of_not_needsScope`).
2. The run that an analysis has for a target is its plan (`eq_plan_of_runFor`), unless the scope
   lacks a part of the target's path (`runFor_eq_none_iff`).
3. Where both succeed they speak of the same path, and a session that runs the target sends the
   planned command (`resolve_agrees_with_analyze`).
-/

namespace TestCursor

/-- A part of the target's path has no name in the scope. -/
def Scope.Lacks (scope : Scope) : Target → Prop
  | .method => scope.method = "" ∨ scope.testClass = ""
  | .testClass => scope.testClass = ""
  | .file | .app => False

theorem Scope.admits_eq_false_iff {scope : Scope} {target : Target} :
    scope.admits target = false ↔ scope.Lacks target := by
  cases target with
  | method =>
    simp only [admits, Lacks, hasMethod, hasClass, Bool.and_eq_false_iff, Bool.not_eq_false',
      String.isEmpty_iff]
  | testClass => simp only [admits, Lacks, hasClass, Bool.not_eq_false', String.isEmpty_iff]
  | file | app => simp [admits, Lacks]

namespace Settings

variable {settings : Settings} {source : Source} {analysis : Analysis} {target : Target}

/-! ## What each of the two reads -/

/-- The analysis of a source that answers with a path and lines. -/
def analysisOf (settings : Settings) (relativePath : String) (lines : List String) : Analysis :=
  let modulePath := settings.config.modulePath relativePath
  let scope := Scope.ofLines lines
  ⟨relativePath, scope, modulePath,
    (Target.all.filter scope.admits).map (settings.plan modulePath scope)⟩

/-- The resolution of a target in a module, with the scope that the target needs. -/
def resolutionOf (settings : Settings) (target : Target) (relativePath : String)
    (scope : Scope) : Resolution :=
  let modulePath := settings.config.modulePath relativePath
  ⟨target, scope, modulePath, target.testPath settings.config.djangoNose modulePath scope⟩

theorem analyze_eq_ok_iff :
    settings.analyze source = .ok analysis ↔ ∃ path lines, source.relativePath = .ok path ∧
      source.lines = .ok lines ∧ analysis = settings.analysisOf path lines := by
  unfold analyze
  cases source.relativePath with
  | error e => simp
  | ok path =>
    cases source.lines with
    | error e => simp
    | ok lines => simp [analysisOf, eq_comm]

/-- The failure of the path is met before that of the lines. -/
theorem analyze_eq_error_iff {e : Error} :
    settings.analyze source = .error e ↔
      source.relativePath = .error e ∨
        (∃ path, source.relativePath = .ok path) ∧ source.lines = .error e := by
  unfold analyze
  cases source.relativePath with
  | error e' => simp
  | ok path => cases source.lines <;> simp

theorem resolve_eq_of_needsScope (h : target.needsScope = true) :
    settings.resolve target source =
      match source.relativePath, source.lines with
      | .error e, _ => .error e
      | .ok _, .error e => .error e
      | .ok path, .ok lines => .ok (settings.resolutionOf target path (Scope.ofLines lines)) := by
  unfold resolve modulePathOf scopeFor
  rw [if_pos h]
  cases source.relativePath with
  | error e => rfl
  | ok path => cases source.lines <;> rfl

theorem resolve_eq_of_not_needsScope (h : target.needsScope = false) :
    settings.resolve target source =
      match source.relativePath with
      | .error e => .error e
      | .ok path => .ok (settings.resolutionOf target path Scope.empty) := by
  unfold resolve modulePathOf scopeFor
  rw [h]
  cases source.relativePath <;> rfl

/-- A resolution says the same path as a plan in the scope around the cursor: a target that needs
no scope has none in its path. -/
theorem exists_resolve_of_analyze (h : settings.analyze source = .ok analysis) (target : Target) :
    ∃ resolution, settings.resolve target source = .ok resolution ∧
      resolution.modulePath = analysis.modulePath ∧
      (target.needsScope = true → resolution.scope = analysis.scope) ∧
      resolution.testPath =
        target.testPath settings.config.djangoNose analysis.modulePath analysis.scope := by
  obtain ⟨path, lines, hpath, hlines, rfl⟩ := analyze_eq_ok_iff.mp h
  cases hneeds : target.needsScope with
  | true =>
    rw [resolve_eq_of_needsScope hneeds, hpath, hlines]
    exact ⟨_, rfl, rfl, fun _ => rfl, rfl⟩
  | false =>
    rw [resolve_eq_of_not_needsScope hneeds, hpath]
    refine ⟨_, rfl, rfl, fun h => absurd h (by decide), ?_⟩
    cases target with
    | method | testClass => exact absurd hneeds (by decide)
    | file | app => rfl

/-! ## The planned runs -/

/-- Among runs of several targets the first one of a target is its plan. -/
theorem find?_map_plan (settings : Settings) (modulePath : String) (scope : Scope)
    (targets : List Target) (target : Target) :
    ((targets.map (settings.plan modulePath scope)).find? fun run => run.target = target) =
      if target ∈ targets then some (settings.plan modulePath scope target) else none := by
  induction targets with
  | nil => rfl
  | cons first targets ih =>
    by_cases h : first = target
    · subst h
      simp [plan]
    · have hne : ¬ (settings.plan modulePath scope first).target = target := h
      rw [List.map_cons, List.find?_cons_of_neg (by simpa using hne), ih]
      simp [Ne.symm h]

theorem runFor_eq (h : settings.analyze source = .ok analysis) :
    analysis.runFor target =
      if analysis.scope.admits target then
        some (settings.plan analysis.modulePath analysis.scope target)
      else none := by
  obtain ⟨path, lines, -, -, rfl⟩ := analyze_eq_ok_iff.mp h
  have hmem : target ∈ Target.all.filter (Scope.ofLines lines).admits ↔
      (Scope.ofLines lines).admits target = true := by
    rw [List.mem_filter, and_iff_right]
    cases target <;> decide
  rw [Analysis.runFor, analysisOf, find?_map_plan]
  by_cases hadmits : (Scope.ofLines lines).admits target = true
  · rw [if_pos (hmem.mpr hadmits), if_pos hadmits]
  · rw [if_neg (fun h => hadmits (hmem.mp h)), if_neg hadmits]

theorem runFor_eq_none_iff (h : settings.analyze source = .ok analysis) :
    analysis.runFor target = none ↔ analysis.scope.Lacks target := by
  rw [runFor_eq h, ← Scope.admits_eq_false_iff]
  cases analysis.scope.admits target <;> simp

theorem eq_plan_of_runFor {run : PlannedRun} (h : settings.analyze source = .ok analysis)
    (hrun : analysis.runFor target = some run) :
    run = settings.plan analysis.modulePath analysis.scope target := by
  rw [runFor_eq h] at hrun
  split at hrun
  · exact (Option.some.inj hrun).symm
  · exact absurd hrun (by simp)

/-! ## Failures -/

theorem resolve_eq_error_iff_of_needsScope {e : Error} (h : target.needsScope = true) :
    settings.resolve target source = .error e ↔ settings.analyze source = .error e := by
  rw [resolve_eq_of_needsScope h, analyze_eq_error_iff]
  cases source.relativePath with
  | error e' => simp
  | ok path => cases source.lines <;> simp

theorem resolve_eq_error_iff_of_not_needsScope {e : Error} (h : target.needsScope = false) :
    settings.resolve target source = .error e ↔ source.relativePath = .error e := by
  rw [resolve_eq_of_not_needsScope h]
  cases source.relativePath <;> simp

end Settings

namespace Session

variable {σ : Type} {terminal : Terminal σ} {settings : Settings} {session : Session σ}

/-- A terminal that takes the command of a path is given that command, and the path is
remembered. -/
theorem runTests_of_accepted {testPath : String} {surface : σ}
    (h : terminal.send (settings.commandFor testPath) (terminal.raise session.terminal) =
      (.ok (), surface)) :
    session.runTests terminal settings testPath =
      (.ok (settings.commandFor testPath), ⟨testPath, session.notices, surface⟩) := by
  rw [runTests, h]
  rfl

theorem run_of_resolve {target : Target} {source : Source} {resolution : Resolution}
    (h : settings.resolve target source = .ok resolution) :
    session.run terminal settings target source =
      session.runTests terminal settings resolution.testPath := by
  rw [run, h]

end Session

/-- Resolving a target agrees with the analysis of its source. A planned run has the path that is
resolved and the command that a session sends for it; a run is missing just where the scope lacks
a name of the path, and then the path is resolved with nothing in the place of that name. A target
that needs the scope fails as the analysis does, which meets the failure of the path first; the
others never ask for the lines. -/
theorem resolve_agrees_with_analyze {σ : Type} (terminal : Terminal σ) (session : Session σ)
    (settings : Settings) (target : Target) (source : Source) :
    (∀ analysis, settings.analyze source = .ok analysis →
      (∀ run, analysis.runFor target = some run →
        (∃ resolution, settings.resolve target source = .ok resolution ∧
          resolution.modulePath = analysis.modulePath ∧ resolution.testPath = run.testPath) ∧
        settings.commandFor run.testPath = run.command ∧
        ∀ surface,
          terminal.send run.command (terminal.raise session.terminal) = (.ok (), surface) →
          session.run terminal settings target source =
            (.ok run.command, ⟨run.testPath, session.notices, surface⟩)) ∧
      (∃ lines, source.lines = .ok lines ∧ analysis.scope = Scope.ofLines lines) ∧
      (analysis.runFor target = none ↔
        target = .method ∧ (analysis.scope.method = "" ∨ analysis.scope.testClass = "") ∨
          target = .testClass ∧ analysis.scope.testClass = "") ∧
      (analysis.runFor target = none → ∃ resolution,
        settings.resolve target source = .ok resolution ∧
        resolution.modulePath = analysis.modulePath ∧ resolution.scope = analysis.scope ∧
        (target = .method → resolution.testPath = analysis.modulePath ++
          (if settings.config.djangoNose then ":" else ".") ++ analysis.scope.testClass ++ "." ++
          analysis.scope.method) ∧
        (target = .testClass → resolution.testPath = analysis.modulePath ++
          (if settings.config.djangoNose then ":" else ".")))) ∧
    ((target = .method ∨ target = .testClass) → ∀ e,
      (settings.resolve target source = .error e ↔ settings.analyze source = .error e) ∧
      (settings.analyze source = .error e ↔ source.relativePath = .error e ∨
        (∃ path, source.relativePath = .ok path) ∧ source.lines = .error e)) ∧
    ((target = .file ∨ target = .app) →
      (∀ e, settings.resolve target source = .error e ↔ source.relativePath = .error e) ∧
      ∀ lines, settings.resolve target { source with lines } =
        settings.resolve target source) := by
  refine ⟨fun analysis h => ⟨?_, ?_, ?_, ?_⟩, ?_, ?_⟩
  · intro run hrun
    obtain ⟨resolution, hresolve, hmodule, -, hpath⟩ := Settings.exists_resolve_of_analyze h target
    obtain rfl := Settings.eq_plan_of_runFor h hrun
    refine ⟨⟨resolution, hresolve, hmodule, hpath⟩, rfl, fun surface hsend => ?_⟩
    rw [Session.run_of_resolve hresolve, hpath]
    exact Session.runTests_of_accepted hsend
  · obtain ⟨path, lines, -, hlines, rfl⟩ := Settings.analyze_eq_ok_iff.mp h
    exact ⟨lines, hlines, rfl⟩
  · rw [Settings.runFor_eq_none_iff h]
    cases target <;> simp [Scope.Lacks]
  · intro hnone
    obtain ⟨resolution, hresolve, hmodule, hscope, hpath⟩ :=
      Settings.exists_resolve_of_analyze h target
    have hlacks := (Settings.runFor_eq_none_iff h).mp hnone
    have hneeds : target.needsScope = true := by
      cases target with
      | method | testClass => rfl
      | file | app => exact absurd hlacks id
    refine ⟨resolution, hresolve, hmodule, hscope hneeds, ?_, ?_⟩
    · rintro rfl
      exact hpath
    · rintro rfl
      have hclass : analysis.scope.testClass = "" := hlacks
      calc resolution.testPath
          = analysis.modulePath ++ moduleSeparator settings.config.djangoNose ++
              analysis.scope.testClass := hpath
        _ = analysis.modulePath ++ moduleSeparator settings.config.djangoNose := by
          rw [hclass, String.append_empty]
  · intro hneeds e
    refine ⟨Settings.resolve_eq_error_iff_of_needsScope ?_, Settings.analyze_eq_error_iff⟩
    rcases hneeds with rfl | rfl <;> rfl
  · intro hneeds
    have hneeds : target.needsScope = false := by rcases hneeds with rfl | rfl <;> rfl
    refine ⟨fun e => Settings.resolve_eq_error_iff_of_not_needsScope hneeds, fun lines => ?_⟩
    rw [Settings.resolve_eq_of_not_needsScope hneeds,
      Settings.resolve_eq_of_not_needsScope hneeds]

/-- The settings of a workspace that says nothing, with an interpreter. -/
def plainSettings : Settings := ⟨Config.default, "python"⟩

/-- A source with the given lines, nearest first. -/
def cartSource (lines : Except Error (List String)) : Source := ⟨.ok "shop/test_cart.py", lines⟩

/-- A method in a class is planned and sent, without the class its path is resolved with an empty
segment, and a file is resolved though its lines cannot be read. -/
theorem run_of_planned_method :
    (∃ analysis run surface,
      plainSettings.analyze (cartSource (.ok ["    def test_sum(self):", "class CartTest:"])) =
        .ok analysis ∧
      analysis.runFor .method = some run ∧
      Recording.terminal.send run.command (Recording.terminal.raise Recording.empty) =
        (.ok (), surface) ∧
      (Session.resume "" Recording.empty).run Recording.terminal plainSettings .method
        (cartSource (.ok ["    def test_sum(self):", "class CartTest:"])) =
          (.ok run.command, ⟨run.testPath, [], surface⟩)) ∧
    (∃ analysis resolution,
      plainSettings.analyze (cartSource (.ok ["def test_sum():"])) = .ok analysis ∧
      analysis.runFor .method = none ∧
      plainSettings.resolve .method (cartSource (.ok ["def test_sum():"])) = .ok resolution ∧
      resolution.testPath = "shop.test_cart..test_sum") ∧
    (plainSettings.resolve .testClass (cartSource (.error (.other "gone"))) =
        .error (.other "gone") ∧
      plainSettings.resolve .file (cartSource (.error (.other "gone"))) =
        plainSettings.resolve .file (cartSource (.ok []))) := by
  have hagree := resolve_agrees_with_analyze Recording.terminal
    (Session.resume "" Recording.empty) plainSettings
  refine ⟨?_, ?_, ?_⟩
  · have hanalyze : plainSettings.analyze
        (cartSource (.ok ["    def test_sum(self):", "class CartTest:"])) = .ok
          (plainSettings.analysisOf "shop/test_cart.py"
            ["    def test_sum(self):", "class CartTest:"]) := rfl
    obtain ⟨run, hrun⟩ : ∃ run, (plainSettings.analysisOf "shop/test_cart.py"
        ["    def test_sum(self):", "class CartTest:"]).runFor .method = some run :=
      Option.isSome_iff_exists.mp (by decide)
    exact ⟨_, run, _, hanalyze, hrun, rfl,
      (((hagree .method _).1 _ hanalyze).1 run hrun).2.2 _ rfl⟩
  · have hanalyze : plainSettings.analyze (cartSource (.ok ["def test_sum():"])) =
        .ok (plainSettings.analysisOf "shop/test_cart.py" ["def test_sum():"]) := rfl
    have hnone : (plainSettings.analysisOf "shop/test_cart.py" ["def test_sum():"]).runFor .method =
        none := by decide
    obtain ⟨resolution, hresolve, -, -, hpath, -⟩ :=
      ((hagree .method _).1 _ hanalyze).2.2.2 hnone
    exact ⟨_, resolution, hanalyze, hnone, hresolve, (hpath rfl).trans (by decide)⟩
  · refine ⟨((hagree .testClass _).2.1 (.inr rfl) _).1.mpr rfl, ?_⟩
    exact ((hagree .file (cartSource (.ok []))).2.2 (.inl rfl)).2 _

end TestCursor
