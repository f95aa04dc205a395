import TestCursor.Analysis
import TestCursor.Cli.Location

/-!
# The printed analysis
-/

namespace TestCursor

namespace Report

/-- Lines, each with its line break. -/
def lines (lines : List String) : String := String.join (lines.map fun line => line ++ "\n")

/-- A text, or a word for its absence. -/
def orNone (text : String) : String := if text.isEmpty then "(none)" else text

/-- The width of the rule under the heading. -/
def ruleWidth : Nat := 80

/-- The line under the heading. -/
def rule : String := String.ofList (List.replicate ruleWidth '=')

/-- The heading: the file, and the number of the cursor's line if there is one. -/
def heading (document : Document) : String :=
  "🔍 Analyzing: " ++ (Place.mk document.file document.cursor).text

/-- A run: what it covers, its path if it has one, and its command. -/
def ofRun (run : PlannedRun) : List String :=
  ["", "▶\ufe0f  " ++ run.target.describe] ++
    (if run.testPath.isEmpty then [] else ["   🎯 Path: " ++ run.testPath]) ++
    ["   🚀 Command: " ++ run.command]

/-- The workspace, its configuration and its interpreter. -/
def ofBench (bench : Bench) : List String :=
  ["📁 Workspace: " ++ bench.workspace.root,
   "⚙\ufe0f  Config: " ++ bench.workspace.source.getD "defaults",
   "🐍 Interpreter: " ++ orNone bench.settings.interpreter]

def ofScope (modulePath : String) (scope : Scope) : List String :=
  ["", "📄 Module: " ++ modulePath, "   🧪 Method: " ++ orNone scope.method,
   "   📦 Class: " ++ orNone scope.testClass]

/-- All that is known about a cursor, and the runs that are possible. -/
def ofAnalysis (document : Document) (bench : Bench) (analysis : Analysis) : String :=
  lines ([heading document, rule] ++ ofBench bench ++ ofScope analysis.modulePath analysis.scope
    ++ analysis.runs.flatMap ofRun)

end Report

end TestCursor
