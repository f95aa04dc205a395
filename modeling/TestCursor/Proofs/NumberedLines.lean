import TestCursor.Proofs.LineGrammar
import TestCursor.Proofs.NearestConfig
import TestCursor.Proofs.PlaceGrammar
import TestCursor.Proofs.Resolution
import TestCursor.Proofs.StateRegister

/-!
# From the number of a line to the lines that are scanned

On the command line lines are counted from 1, in a document from 0, and in the printed analysis from
1 again. A cursor is a word of 64 bits, so each step between the two could leave its range.

1. A number from 1 to the largest word is read as a cursor that has room for one more: its count
   does not stop, and its successor does not wrap (`Place.exists_cursor`).
2. A location opens the text of the file it names, with this cursor (`openLocation_of_content?`).
3. The document then gives its first lines up to the number, or all of them
   (`Document.lines_of_count`), the scope of a target and of the analysis is read off these alone,
   and the heading shows the number (`numbered_line_is_scanned`).
-/

namespace TestCursor

/-! ## Numbers and cursors -/

/-- The cursor on the line of a number. -/
structure Cursor.NumberedBy (cursor : Cursor) (line : Nat) : Prop where
  /-- The number is one more than the index of the line. -/
  index : cursor.toNat + 1 = line
  /-- The cursor takes in as many lines as the number says. -/
  count : cursor.count = line
  /-- The number that is shown for the cursor. -/
  shown : (cursor + 1).toNat = line

/-- A number from 1 up to the largest word is read as a cursor, and stays itself on all its ways. -/
theorem Place.exists_cursor {number : String} {line : Nat}
    (hnumber : IsNumeral number.toList line) (hfirst : 1 ≤ line)
    (hlast : line ≤ 18446744073709551615) (file : String) :
    ∃ cursor : Cursor, Place.parse (file ++ ":" ++ number) = .ok ⟨file, some cursor⟩ ∧
      cursor.NumberedBy line := by
  obtain ⟨index, rfl⟩ := Nat.exists_eq_add_of_le' hfirst
  have hsize : UInt64.size = 18446744073709551616 := rfl
  have hindex : (UInt64.ofNat index).toNat = index := UInt64.toNat_ofNat_of_lt' (by omega)
  refine ⟨UInt64.ofNat index,
    parse_line (word?_eq_some_iff.mpr ⟨hnumber, by omega⟩), by rw [hindex], ?_, ?_⟩
  · have hstop : Cursor.last.toNat = 18446744073709551615 := rfl
    rw [Cursor.count, hindex]
    omega
  · have hone : (1 : UInt64).toNat = 1 := rfl
    rw [UInt64.toNat_add, hindex, hone]
    exact Nat.mod_eq_of_lt (by omega)

theorem Document.lines_of_count {document : Document} {cursor : Cursor} {line : Nat}
    {lines : List (List Char)} (hcursor : document.cursor = some cursor)
    (hcount : cursor.count = line) (hlines : ReadsLines document.contents.toList lines) :
    document.lines = ((lines.map String.ofList).take (min line lines.length)).reverse := by
  obtain rfl := readsLines_iff.mp hlines
  have htext : textLines document.contents =
      (linesOf document.contents.toList).map String.ofList := rfl
  rw [Document.lines, hcursor, Option.getD_some, linesToCursor_eq, hcount, ← htext,
    List.take_eq_take_min, htext, List.length_map]

theorem Report.exists_ofAnalysis (document : Document) (bench : Bench) (analysis : Analysis) :
    ∃ rest, ofAnalysis document bench analysis = heading document ++ "\n" ++ rest := by
  refine ⟨lines (rule :: (ofBench bench ++ ofScope analysis.modulePath analysis.scope ++
    analysis.runs.flatMap ofRun)), ?_⟩
  rw [lines, ← String.join_cons]
  rfl

namespace Cli

section Opening

variable {site : Site} {location file path text : String} {cursor : Option Cursor}

theorem openLocation_of_content? (hplace : Place.parse location = .ok ⟨file, cursor⟩)
    (hpath : site.absolutePath file = .ok path) (hcontent : site.content? path = some text.toUTF8)
    (env : Environment) (choice : WorkspaceChoice) :
    openLocation site env location choice =
      (site.bench env (some path) choice).map fun bench =>
        (⟨path, bench.workspace.root, cursor, text⟩, bench) := by
  have hfile : site.isFile path = true := by
    rw [Site.isFile_eq, hcontent]
    rfl
  have hread : site.readText path = .ok text :=
    Site.readText_eq_ok_iff.mpr
      (FileTree.readText_of_readBytes (Site.readBytes_of_content? hcontent))
  unfold openLocation Site.openDocument
  simp only [hplace, hpath, hfile, hread]
  cases site.bench env (some path) choice <;> rfl

end Opening

/-- A location that names a file of text and the number of a line, however it is spelled, opens the
file at the cursor of this number, unless the search for the workspace fails. The method, the class
and the analysis are then read off exactly the first lines of the file up to the number, or all of
them, the nearest one first. No step between the number and the cursor leaves the words of 64 bits,
and the heading of the printed analysis shows the path of the file and the number in decimal. -/
theorem numbered_line_is_scanned {site : Site} {file number path text : String} {line : Nat}
    {lines : List (List Char)}
    (hnumber : Place.IsNumeral number.toList line) (hfirst : 1 ≤ line)
    (hlast : line ≤ 18446744073709551615) (hpath : site.absolutePath file = .ok path)
    (hcontent : site.content? path = some text.toUTF8) (hlines : ReadsLines text.toList lines)
    (env : Environment) (choice : WorkspaceChoice) :
    let location := file ++ ":" ++ number
    let scanned := ((lines.map String.ofList).take (min line lines.length)).reverse
    ∃ cursor : Cursor, cursor.NumberedBy line ∧
      Place.parse location = .ok ⟨file, some cursor⟩ ∧
      (∀ failure, site.bench env (some path) choice = .error failure →
        openLocation site env location choice = .error failure) ∧
      ∀ bench, site.bench env (some path) choice = .ok bench →
        let document : Document := ⟨path, bench.workspace.root, some cursor, text⟩
        openLocation site env location choice = .ok (document, bench) ∧
          document.lines = scanned ∧
          (∀ target, target = .method ∨ target = .testClass →
            ∃ resolution, bench.settings.resolve target document.toSource = .ok resolution ∧
              resolution.scope = Scope.ofLines scanned ∧
              ∀ shell dryRun, execute shell site env (.run target location dryRun choice) =
                runAt shell site bench dryRun resolution.testPath) ∧
          ∃ analysis, bench.settings.analyze document.toSource = .ok analysis ∧
            analysis.scope = Scope.ofLines scanned ∧
            (∃ rest, Report.ofAnalysis document bench analysis =
              "🔍 Analyzing: " ++ path ++ ":" ++ toString line ++ "\n" ++ rest) ∧
            ∀ shell, execute shell site env (.analyze location false choice) =
              .printed site.tree (Report.ofAnalysis document bench analysis) := by
  intro location scanned
  obtain ⟨cursor, hplace, hcursor⟩ := Place.exists_cursor hnumber hfirst hlast file
  have hopen := openLocation_of_content? hplace hpath hcontent env choice
  refine ⟨cursor, hcursor, hplace, fun failure hbench => ?_, fun bench hbench => ?_⟩
  · rw [hopen, hbench]
    rfl
  intro document
  have hdocument : openLocation site env location choice = .ok (document, bench) := by
    rw [hopen, hbench]
    rfl
  have hscanned : document.lines = scanned :=
    @Document.lines_of_count document _ _ _ rfl hcursor.count hlines
  refine ⟨hdocument, hscanned, fun target htarget => ?_, ?_⟩
  · have hneeds : target.needsScope = true := by rcases htarget with rfl | rfl <;> rfl
    have hresolve : bench.settings.resolve target document.toSource =
        .ok (bench.settings.resolutionOf target document.relativePath (Scope.ofLines scanned)) := by
      rw [Settings.resolve_eq_of_needsScope hneeds, Document.toSource, hscanned]
    exact ⟨_, hresolve, rfl, fun shell dryRun => runTarget_of_resolved hdocument hresolve⟩
  · have hanalyze : bench.settings.analyze document.toSource =
        .ok (bench.settings.analysisOf document.relativePath scanned) :=
      Settings.analyze_eq_ok_iff.mpr
        ⟨_, _, rfl, congrArg Except.ok hscanned, rfl⟩
    have hheading : Report.heading document =
        "🔍 Analyzing: " ++ path ++ ":" ++ toString line := by
      unfold Report.heading Place.text
      rw [← hcursor.shown]
      simp only [document, String.append_assoc]
    refine ⟨_, hanalyze, rfl, hheading ▸ Report.exists_ofAnalysis document bench _, fun shell => ?_⟩
    rw [execute, analyze, hdocument]
    simp only [hanalyze, Bool.false_eq_true, if_false]

/-- A workspace at `/work` with a class of tests, of two lines. -/
def shortSite : Site :=
  ⟨.dir [("work", .dir [("manage.py", .file .empty 0o644),
    ("tests.py", .file "class CartTest:\n    def test_sum(self): pass".toUTF8 0o644)])], ["work"]⟩

/-- The first line is scanned alone, in whatever way its number is spelled, and the largest number
takes in the whole file and is shown as it is. -/
theorem numbered_line_is_scanned_shortSite :
    (∃ document resolution,
      openLocation shortSite .none "tests.py:+01" ⟨none, none⟩ = .ok (document, sampleBench) ∧
      document.lines = ["class CartTest:"] ∧
      sampleBench.settings.resolve .method document.toSource = .ok resolution ∧
      resolution.scope = ⟨"", "CartTest"⟩) ∧
    ∃ document analysis rest,
      openLocation shortSite .none "tests.py:18446744073709551615" ⟨none, none⟩ =
        .ok (document, sampleBench) ∧
      document.lines = ["    def test_sum(self): pass", "class CartTest:"] ∧
      Report.ofAnalysis document sampleBench analysis =
        "🔍 Analyzing: /work/tests.py:18446744073709551615\n" ++ rest ∧
      execute failingShell shortSite .none
          (.analyze "tests.py:18446744073709551615" false ⟨none, none⟩) =
        .printed shortSite.tree (Report.ofAnalysis document sampleBench analysis) := by
  have hpath : shortSite.absolutePath "tests.py" = .ok "/work/tests.py" := by decide +kernel
  have hcontent : shortSite.content? "/work/tests.py" =
      some "class CartTest:\n    def test_sum(self): pass".toUTF8 := rfl
  have hlines : ReadsLines "class CartTest:\n    def test_sum(self): pass".toList
      ["class CartTest:".toList, "    def test_sum(self): pass".toList] :=
    readsLines_iff.mpr (by decide +kernel)
  have hbench : shortSite.bench .none (some "/work/tests.py") ⟨none, none⟩ = .ok sampleBench := by
    decide +kernel
  have hone : Place.IsNumeral "+01".toList 1 := (Place.word?_eq_some_iff.mp (by decide)).1
  have hlargest : Place.IsNumeral "18446744073709551615".toList 18446744073709551615 :=
    (Place.word?_eq_some_iff.mp (by decide)).1
  constructor
  · obtain ⟨cursor, -, -, -, hscan⟩ := numbered_line_is_scanned hone (by decide) (by decide)
      hpath hcontent hlines .none ⟨none, none⟩
    obtain ⟨hopen, hscanned, hresolve, -⟩ := hscan sampleBench hbench
    obtain ⟨resolution, hresolution, hscope, -⟩ := hresolve .method (.inl rfl)
    exact ⟨_, resolution, hopen, hscanned, hresolution, hscope.trans (by decide +kernel)⟩
  · obtain ⟨cursor, -, -, -, hscan⟩ := numbered_line_is_scanned hlargest (by decide) (by decide)
      hpath hcontent hlines .none ⟨none, none⟩
    obtain ⟨hopen, hscanned, -, analysis, -, -, ⟨rest, hreport⟩, hprinted⟩ :=
      hscan sampleBench hbench
    exact ⟨_, analysis, rest, hopen, hscanned, hreport, hprinted failingShell⟩

end Cli

end TestCursor
