import Mathlib.Data.List.Nodup
import TestCursor.Proofs.CommandSpacing
import TestCursor.Proofs.Resolution

/-!
# The planned runs narrow down

An analysis plans its runs from the test method to the whole suite, and each of them is a part of
the next.

1. In a joined text what stands before and behind a part does not depend on it (`joinWith_around`),
   and a part that is added makes the text longer (`length_joinWith`). So two parts in one place
   give one text only when they are the same (`joinWith_around_inj`), and a part that is not empty
   is missed where it is left out (`joinWith_around_ne`).
2. The test path is one such part of the command line, left out when it is empty
   (`toList_commandFor`). So different test paths have different commands
   (`commandFor_injective`).
3. In a module the path of each target goes on where that of the next one ends
   (`pairwise_extends`), so the planned runs have different paths, and with them different commands
   (`planned_runs_narrow`).
-/

namespace TestCursor

/-! ## One part of a joined text -/

section Join

variable {sep : Char} {piece other : List Char} {front back : List (List Char)}

/-- A part of a joined text, with what stands before it and behind it. -/
theorem joinWith_around (front : List (List Char)) (piece : List Char)
    (back : List (List Char)) :
    joinWith [sep] (front ++ piece :: back) =
      front.flatMap (· ++ [sep]) ++ piece ++ back.flatMap (sep :: ·) := by
  have hback : joinWith [sep] (piece :: back) = piece ++ back.flatMap (sep :: ·) := by
    induction back generalizing piece with
    | nil => simp [joinWith]
    | cons next back ih => rw [joinWith_cons (by simp), ih, List.flatMap_cons, List.cons_append]
  induction front with
  | nil => exact hback
  | cons first front ih =>
    rw [List.cons_append, joinWith_cons (by simp), ih, List.flatMap_cons]
    simp [List.append_assoc]

/-- Each part has a separator behind it, of which the last one is left out. -/
theorem length_joinWith (pieces : List (List Char)) :
    (joinWith [sep] pieces).length = (pieces.flatMap (· ++ [sep])).length - 1 := by
  induction pieces with
  | nil => rfl
  | cons piece pieces ih =>
    by_cases hnil : pieces = []
    · subst hnil
      simp [joinWith]
    · obtain ⟨next, others, rfl⟩ := List.exists_cons_of_ne_nil hnil
      rw [joinWith_cons (by simp), List.length_append, List.length_cons, ih]
      simp only [List.flatMap_cons, List.length_append, List.length_singleton]
      omega

theorem joinWith_around_inj
    (h : joinWith [sep] (front ++ piece :: back) = joinWith [sep] (front ++ other :: back)) :
    piece = other := by
  rw [joinWith_around, joinWith_around] at h
  exact List.append_cancel_left (List.append_cancel_right h)

/-- A part that is not empty is missed where it is left out. -/
theorem joinWith_around_ne (h : piece ≠ []) :
    joinWith [sep] (front ++ piece :: back) ≠ joinWith [sep] (front ++ back) := by
  intro hsame
  have hlength := congrArg List.length hsame
  have hpiece := List.length_pos_iff.mpr h
  simp only [length_joinWith, List.flatMap_append, List.flatMap_cons, List.length_append,
    List.length_singleton] at hlength
  omega

end Join

/-! ## The test path in a command -/

/-- A command is joined from parts of which the test path is one, unless it is empty. -/
theorem toList_commandFor (settings : Settings) :
    ∃ front back : List (List Char), ∀ path : String,
      (settings.commandFor path).toList =
        joinWith [' '] (front ++ (if path = "" then back else path.toList :: back)) := by
  let config := settings.config
  let before := [config.prefixCommand, settings.interpreter, config.manageProgram]
  refine ⟨(before.map String.toList).filter fun part => !part.isEmpty,
    ([config.flags].map String.toList).filter fun part => !part.isEmpty, fun path => ?_⟩
  have hparts : CommandParts.toList ⟨config.prefixCommand, settings.interpreter,
      config.manageProgram, path, config.flags⟩ = before ++ path :: [config.flags] := rfl
  rw [Settings.commandFor, Config.commandFor, toList_line, hparts, List.map_append,
    List.filter_append, List.map_cons, List.filter_cons]
  by_cases hpath : path = ""
  · simp [hpath]
  · simp [hpath]

/-- Different test paths have different commands. An empty one is no exception, though it leaves no
trace in the line. -/
theorem commandFor_injective (settings : Settings) : Function.Injective settings.commandFor := by
  intro path other hsame
  obtain ⟨front, back, hcommand⟩ := toList_commandFor settings
  have hjoin := (hcommand path).symm.trans ((congrArg String.toList hsame).trans (hcommand other))
  by_cases hpath : path = ""
  · by_cases hother : other = ""
    · rw [hpath, hother]
    · rw [if_pos hpath, if_neg hother] at hjoin
      exact absurd hjoin.symm (joinWith_around_ne (by simpa using hother))
  · by_cases hother : other = ""
    · rw [if_neg hpath, if_pos hother] at hjoin
      exact absurd hjoin (joinWith_around_ne (by simpa using hpath))
    · rw [if_neg hpath, if_neg hother] at hjoin
      exact String.toList_inj.mp (joinWith_around_inj hjoin)

/-! ## The paths of the targets -/

/-- A path goes on where a wider one ends. -/
def Extends (path wider : String) : Prop := ∃ more, more ≠ "" ∧ path = wider ++ more

section Paths

variable {path wider widest : String}

theorem Extends.trans (h : Extends path wider) (h' : Extends wider widest) :
    Extends path widest := by
  obtain ⟨more, hmore, rfl⟩ := h
  obtain ⟨between, -, rfl⟩ := h'
  exact ⟨between ++ more, by simp [hmore], String.append_assoc ..⟩

theorem Extends.length_lt (h : Extends path wider) : wider.length < path.length := by
  obtain ⟨more, hmore, rfl⟩ := h
  have hpos : 0 < more.toList.length := List.length_pos_iff.mpr (by simpa using hmore)
  rw [String.length_append, ← String.length_toList (s := more)]
  omega

theorem pairwise_extends {modulePath : String} (h : modulePath ≠ "") (nose : Bool)
    (scope : Scope) :
    Target.all.Pairwise fun target wider =>
      Extends (target.testPath nose modulePath scope) (wider.testPath nose modulePath scope) := by
  have hmethod : Extends (Target.method.testPath nose modulePath scope)
      (Target.testClass.testPath nose modulePath scope) :=
    ⟨"." ++ scope.method, by simp, String.append_assoc ..⟩
  have hclass : Extends (Target.testClass.testPath nose modulePath scope)
      (Target.file.testPath nose modulePath scope) :=
    ⟨moduleSeparator nose ++ scope.testClass, by cases nose <;> simp [moduleSeparator],
      String.append_assoc ..⟩
  have hfile : Extends (Target.file.testPath nose modulePath scope)
      (Target.app.testPath nose modulePath scope) :=
    ⟨modulePath, h, String.empty_append.symm⟩
  simp only [Target.all, List.pairwise_cons, List.forall_mem_cons]
  exact ⟨⟨hmethod, hmethod.trans hclass, (hmethod.trans hclass).trans hfile, by simp⟩,
    ⟨hclass, hclass.trans hfile, by simp⟩, ⟨hfile, by simp⟩, by simp, .nil⟩

end Paths

/-- The targets of planned runs are those that are admitted, in the order of all targets. -/
theorem map_target_plan (settings : Settings) (modulePath : String) (scope : Scope)
    (targets : List Target) :
    ((targets.map (settings.plan modulePath scope)).map fun run => run.target) = targets := by
  rw [List.map_map]
  exact List.map_id targets

/-- An analysis of a module with a name lists its runs from the most specific target to the whole
suite, which has no path and comes last, and no target twice. The path of each run is longer than
those of the runs behind it, and begins with them. No two runs have the same command, since for
given settings no two test paths have. -/
theorem planned_runs_narrow {settings : Settings} {source : Source} {analysis : Analysis}
    (h : settings.analyze source = .ok analysis) (hmodule : analysis.modulePath ≠ "") :
    let targets := analysis.runs.map fun run => run.target
    (targets = [.method, .testClass, .file, .app].filter (· ∈ targets) ∧ targets.Nodup) ∧
      (analysis.runs.Pairwise fun run wider =>
        wider.testPath.length < run.testPath.length ∧ Extends run.testPath wider.testPath) ∧
      analysis.runs.getLast? = some ⟨.app, "", settings.commandFor ""⟩ ∧
      (analysis.runs.map fun run => run.command).Nodup ∧
      Function.Injective settings.commandFor := by
  intro targets
  obtain ⟨path, lines, -, -, rfl⟩ := Settings.analyze_eq_ok_iff.mp h
  have htargets : targets = Target.all.filter (Scope.ofLines lines).admits :=
    map_target_plan settings _ _ _
  have hpaths : (settings.analysisOf path lines).runs.Pairwise fun run wider =>
      Extends run.testPath wider.testPath :=
    List.pairwise_map.mpr ((pairwise_extends hmodule _ (Scope.ofLines lines)).filter _)
  refine ⟨⟨?_, ?_⟩, hpaths.imp fun hmore => ⟨hmore.length_lt, hmore⟩, ?_, ?_,
    commandFor_injective settings⟩
  · rw [htargets]
    refine List.filter_congr fun target htarget => ?_
    rw [Bool.eq_iff_iff, decide_eq_true_iff, List.mem_filter, and_iff_right htarget]
  · rw [htargets]
    exact List.Pairwise.filter _ (by decide : Target.all.Nodup)
  · -- The file and the suite are always admitted, so the suite stays at the end.
    have hlast : (Target.all.filter (Scope.ofLines lines).admits).getLast? = some .app := by
      have hwide : [Target.file, .app].filter (Scope.ofLines lines).admits = [.file, .app] := rfl
      rw [show Target.all = [.method, .testClass] ++ [.file, .app] from rfl, List.filter_append,
        hwide, List.getLast?_append]
      rfl
    rw [Settings.analysisOf, List.getLast?_map, hlast]
    rfl
  · -- The commands are as different as the paths that they are put together from.
    have hdistinct : ((settings.analysisOf path lines).runs.map fun run => run.testPath).Nodup :=
      List.pairwise_map.mpr <| hpaths.imp fun hmore hsame =>
        absurd (hsame ▸ hmore.length_lt) (Nat.lt_irrefl _)
    have hcommands : ((settings.analysisOf path lines).runs.map fun run => run.command) =
        ((settings.analysisOf path lines).runs.map fun run => run.testPath).map
          settings.commandFor := by
      simp only [Settings.analysisOf, List.map_map]
      rfl
    rw [hcommands]
    exact hdistinct.map (commandFor_injective settings)

/-- In a class outside of any method three runs are planned, and the path of the class extends that
of the file by its name. -/
theorem planned_runs_narrow_cart :
    ∃ analysis, plainSettings.analyze (cartSource (.ok ["", "class CartTest:"])) = .ok analysis ∧
      analysis.modulePath ≠ "" ∧
      (analysis.runs.map fun run => run.testPath) =
        ["shop.test_cart.CartTest", "shop.test_cart", ""] ∧
      Extends "shop.test_cart.CartTest" "shop.test_cart" ∧
      (analysis.runs.map fun run => run.command).Nodup ∧
      plainSettings.commandFor "shop.test_cart" ≠ plainSettings.commandFor "" := by
  have hanalyze : plainSettings.analyze (cartSource (.ok ["", "class CartTest:"])) =
      .ok (plainSettings.analysisOf "shop/test_cart.py" ["", "class CartTest:"]) := rfl
  have hruns : ((plainSettings.analysisOf "shop/test_cart.py" ["", "class CartTest:"]).runs.map
      fun run => run.testPath) = ["shop.test_cart.CartTest", "shop.test_cart", ""] := by
    decide +kernel
  obtain ⟨-, hpaths, -, hcommands, hinjective⟩ :=
    planned_runs_narrow hanalyze (by decide +kernel)
  refine ⟨_, hanalyze, by decide +kernel, hruns, ?_, hcommands, hinjective.ne (by decide)⟩
  have hextends := List.pairwise_map (f := fun run : PlannedRun => run.testPath).mpr
    (hpaths.imp fun hmore => hmore.2)
  rw [hruns] at hextends
  exact List.rel_of_pairwise_cons hextends List.mem_cons_self

end TestCursor
