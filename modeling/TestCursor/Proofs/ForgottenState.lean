import TestCursor.Proofs.ExitCode
import TestCursor.Proofs.PathsOfPlaces
import TestCursor.Proofs.SearchedFiles
import TestCursor.Proofs.TreesAlike

/-!
# The state file is forgotten

A run of tests loads the state file at its start and writes it at its end. Unless the tests are the
last ones, what it loaded makes no difference to it.

1. What is saved is loaded again (`exists_saveState`), and a file that holds no state counts as no
   tests (`loadState_of_content?`).
2. Before its command is started, an errand looks at the file it names and at those that the search
   for the workspace sees (`Errand.filesSeen`). Where none of them is the state file, the errand has
   the same tests to run whatever the state file holds (`attempt?_alike`).
3. When the command overlooks the state file too, the path of its tests is recorded in the same way
   (`conclude_alike`), and so the whole run comes out the same (`runAt_alike`,
   `state_file_is_forgotten`).
-/

namespace TestCursor

/-! ## Saving and loading -/

namespace Site

variable {site : Site} {root : String}

/-- Where there is room for the state file, every path is saved and loaded again. -/
theorem exists_saveState
    (hroom : site.tree.hasRoomAt site.cwd (StateFile.pathIn root) = true) (last : String) :
    ∃ tree, site.saveState root last = .ok tree ∧ Site.loadState ⟨tree, site.cwd⟩ root = last := by
  obtain ⟨tree, hwrite⟩ := FileTree.exists_writeText hroom (StateFile.toText last)
  refine ⟨tree, saveState_eq_ok_iff.mpr hwrite, ?_⟩
  rcases FileTree.readText_of_writeText hwrite with ⟨hread, -⟩ | ⟨-, device, hnode⟩
  · exact loadState_of_toText hread
  · exact absurd hnode (FileTree.not_device_of_hasRoomAt hroom device)

/-- What is loaded from a state file: the path that its text gives, if it is a text and gives
one. -/
theorem loadState_of_content? {content : ByteArray}
    (h : site.content? (StateFile.pathIn root) = some content) :
    site.loadState root = ((String.fromUTF8? content).bind StateFile.ofText?).getD "" := by
  unfold loadState
  rw [readText_of_content? h]
  cases String.fromUTF8? content <;> rfl

theorem loadState_of_content?_eq_none (h : site.content? (StateFile.pathIn root) = none) :
    site.loadState root = "" := by
  cases hread : site.readText (StateFile.pathIn root) with
  | error e => unfold loadState; rw [hread]
  | ok text =>
    -- What can be read and is no regular file is a device, and gives the empty text.
    have hempty : text = "" := by
      rw [readText_eq_ok_iff] at hread
      unfold content? FileTree.node? at h
      unfold FileTree.readText FileTree.readBytes at hread
      cases hplace : site.tree.locate site.cwd (StateFile.pathIn root) with
      | error e => simp [hplace] at hread
      | ok place =>
        simp only [hplace] at h hread
        cases hnode : site.tree.get? place with
        | none => simp [hnode] at hread
        | some node =>
          simp only [hnode] at h hread
          cases node with
          | file content mode => cases h
          | device kind => exact (Except.ok.inj hread).symm
          | link target => cases hread
          | dir entries => cases hread
    rw [loadState_eq hread, hempty]
    rfl

/-- Where a path leads to, or would put a file. -/
def spot? (site : Site) (path : String) : Option Location :=
  (site.tree.arrive site.cwd .target path).toOption.map Arrival.spot

theorem passesBy_of_spot?_ne {spot : Location} {path : String} (h : site.spot? path ≠ some spot) :
    site.tree.PassesBy site.cwd spot path := by
  intro arrival harrive hspot
  exact absurd (by rw [spot?, harrive, ← hspot]; rfl) h

end Site

namespace Cli

/-! ## What is looked at before the command -/

/-- The files that are looked at for the workspace of a path, or of the current directory. -/
def filesSeenFor (site : Site) (path root : Option String) : List String :=
  match site.absolutePath (root.getD ".") with
  | .error _ => []
  | .ok given => site.filesSeen (site.searchStart (if root.isSome then given else path.getD given))

/-- The files that an errand looks at before its command is started, besides the state file: the
one it names, and those that are looked at for its workspace. -/
def Errand.filesSeen (errand : Errand) (site : Site) (choice : WorkspaceChoice) : List String :=
  match errand with
  | .around _ location =>
    match Place.parse location with
    | .error _ => []
    | .ok place =>
      joinPath site.cwdPath place.file ::
        match site.absolutePath place.file with
        | .error _ => []
        | .ok file => filesSeenFor site (some file) choice.root
  | .suite | .lastTests => filesSeenFor site none choice.root

theorem startDir_eq_ok_iff {site : Site} {dir : String} {place : Location} :
    startDir site (some dir) = .ok place ↔
      dir.toList.contains '\x00' = false ∧ site.tree.locate site.cwd dir = .ok place ∧
        site.tree.kindAt place = some .dir := by
  have hdir (found : Location) : ((site.tree.get? found).map FileTree.isDir).getD false = true ↔
      site.tree.kindAt found = some .dir := by
    unfold FileTree.kindAt
    cases site.tree.get? found with
    | none => simp
    | some node => cases node <;> simp [FileTree.isDir, FileTree.kind]
  constructor
  · intro h
    unfold startDir at h
    simp only at h
    split at h
    · cases h
    · next hnul =>
      split at h
      · cases h
      · next found hfound =>
        split at h
        · next hisDir =>
          obtain rfl := Except.ok.inj h
          exact ⟨by simpa using hnul, hfound, (hdir _).mp hisDir⟩
        · cases h
  · rintro ⟨hnul, hplace, hkind⟩
    unfold startDir
    simp only [hnul, hplace, (hdir place).mpr hkind, Bool.false_eq_true, if_false, if_true]

section Errands

open FileTree

variable {tree other : FileTree} {cwd spot place : Location} {name given location : String}
  {path root : Option String} {workspace : Workspace} {env : Environment}
  {choice : WorkspaceChoice} {bench : Bench} {document : Document}

/-- A name that passes by the spot is resolved to a path that does so too. -/
theorem passesBy_absolutePath
    (hpass : tree.PassesBy cwd spot (joinPath (Site.cwdPath ⟨tree, cwd⟩) name))
    (h : Site.absolutePath ⟨tree, cwd⟩ name = .ok given) : tree.PassesBy cwd spot given := by
  rcases Site.absolutePath_cases h with ⟨place, -, hleads, -, -, rfl⟩ | ⟨-, rfl⟩
  · intro arrival harrive hspot
    obtain rfl := Site.eq_of_leads hleads harrive
    exact hpass _ (arrive_of_locate hleads) hspot
  · exact hpass

theorem passesBy_here :
    tree.PassesBy cwd spot (joinPath (Site.cwdPath ⟨tree, cwd⟩) ".") := by
  intro arrival harrive hspot
  obtain ⟨place, rfl, hdir⟩ := dir_of_arrive_here (isAbsolute_pathOf _) harrive
  obtain rfl : place = spot := hspot
  exact isFreeAt_of_kindAt_dir hdir

theorem passesBy_root (hgiven : Site.absolutePath ⟨tree, cwd⟩ name = .ok given)
    (hdir : startDir ⟨tree, cwd⟩ (some given) = .ok place) :
    tree.PassesBy cwd spot (joinPath (Site.cwdPath ⟨tree, cwd⟩) name) := by
  obtain ⟨-, hplace, hkind⟩ := startDir_eq_ok_iff.mp hdir
  rcases Site.absolutePath_cases hgiven with ⟨found, -, hleads, -, -, rfl⟩ | ⟨-, rfl⟩
  · have hsame : place = found :=
      Arrival.here.inj (Site.eq_of_leads hleads (arrive_of_locate hplace))
    rw [hsame] at hkind
    exact passesBy_of_dir hleads hkind
  · exact passesBy_of_dir hplace hkind

theorem startDir_alike (halike : AlikeBut spot tree other)
    (h : startDir ⟨tree, cwd⟩ (some given) = .ok place) :
    startDir ⟨other, cwd⟩ (some given) = .ok place := by
  obtain ⟨hnul, hplace, hdir⟩ := startDir_eq_ok_iff.mp h
  obtain ⟨hplace', -⟩ := halike.locate_of_passesBy (passesBy_of_dir hplace hdir) hplace
  exact startDir_eq_ok_iff.mpr ⟨hnul, hplace', halike.kindAt_of_ne_leaf hdir (by simp)⟩

theorem absolutePath_alike (halike : AlikeBut spot tree other)
    (hpass : tree.PassesBy cwd spot (joinPath (Site.cwdPath ⟨tree, cwd⟩) name))
    (h : Site.absolutePath ⟨tree, cwd⟩ name = .ok given) :
    Site.absolutePath ⟨other, cwd⟩ name = .ok given := by
  rcases Site.absolutePath_cases h with ⟨found, node, hleads, hnode, hstream, rfl⟩ | ⟨hnone, rfl⟩
  · obtain ⟨hleads', hface⟩ := halike.locate_of_passesBy hpass hleads
    rw [faceAt, faceAt, hnode] at hface
    obtain ⟨node', hnode', hface⟩ := Option.map_eq_some_iff.mp hface
    refine Site.absolutePath_of_leads hleads' hnode' fun number hdevice => hstream number ?_
    subst hdevice
    cases node <;> simp_all [face, empty]
  · have hnone' : Site.doesExist ⟨other, cwd⟩ (joinPath (Site.cwdPath ⟨tree, cwd⟩) name) = false :=
      (halike.existsAt_eq hpass).trans hnone
    unfold Site.absolutePath
    exact if_neg (by rw [← Bool.not_eq_true] at hnone'; exact hnone')

theorem workspaceOf_alike (halike : AlikeBut spot tree other) {start fallback : String}
    (hstart : tree.PassesBy cwd spot start)
    (hseen : ∀ file ∈ Site.filesSeen ⟨tree, cwd⟩ (Site.searchStart ⟨tree, cwd⟩ start),
      tree.PassesBy cwd spot file) :
    Site.workspaceOf ⟨other, cwd⟩ start fallback = Site.workspaceOf ⟨tree, cwd⟩ start fallback :=
  Site.workspaceOf_of_sameFiles (halike.content?_eq hstart)
    fun file hfile => halike.content?_eq (hseen file hfile)

/-- A workspace in whose root the command starts is chosen in both trees. -/
theorem chosenWorkspace_alike (halike : AlikeBut spot tree other)
    (hpath : ∀ file, path = some file → tree.PassesBy cwd spot file)
    (hseen : ∀ file ∈ filesSeenFor ⟨tree, cwd⟩ path root, tree.PassesBy cwd spot file)
    (h : Site.chosenWorkspace ⟨tree, cwd⟩ path root = .ok workspace)
    (hdir : startDir ⟨tree, cwd⟩ (some workspace.root) = .ok place) :
    Site.chosenWorkspace ⟨other, cwd⟩ path root = .ok workspace := by
  unfold Site.chosenWorkspace at h ⊢
  cases hgiven : Site.absolutePath ⟨tree, cwd⟩ (root.getD ".") with
  | error failure => simp [hgiven] at h
  | ok given =>
    have hpass : tree.PassesBy cwd spot (joinPath (Site.cwdPath ⟨tree, cwd⟩) (root.getD ".")) := by
      cases root with
      | none =>
        rw [Option.getD_none]
        exact passesBy_here
      | some name =>
        have hroot : workspace.root = given := by
          simp only [hgiven, Option.isSome_some, if_true] at h
          split at h
          · cases h
          · rw [← Except.ok.inj h]
        rw [hroot] at hdir
        exact passesBy_root hgiven hdir
    have hstart : tree.PassesBy cwd spot (if root.isSome then given else path.getD given) := by
      have hgivenPass := passesBy_absolutePath hpass hgiven
      cases root with
      | some name => exact hgivenPass
      | none =>
        cases path with
        | none => exact hgivenPass
        | some file => exact hpath file rfl
    unfold filesSeenFor at hseen
    rw [hgiven] at h hseen
    rw [absolutePath_alike halike hpass hgiven]
    simp only at h ⊢
    rw [workspaceOf_alike halike hstart hseen]
    exact h

theorem bench_alike (halike : AlikeBut spot tree other)
    (hpath : ∀ file, path = some file → tree.PassesBy cwd spot file)
    (hseen : ∀ file ∈ filesSeenFor ⟨tree, cwd⟩ path choice.root, tree.PassesBy cwd spot file)
    (h : Site.bench ⟨tree, cwd⟩ env path choice = .ok bench)
    (hdir : startDir ⟨tree, cwd⟩ (some bench.workspace.root) = .ok place) :
    Site.bench ⟨other, cwd⟩ env path choice = .ok bench := by
  unfold Site.bench at h ⊢
  cases hchosen : Site.chosenWorkspace ⟨tree, cwd⟩ path choice.root with
  | error failure => simp [hchosen] at h
  | ok workspace =>
    simp only [hchosen] at h
    obtain rfl := Except.ok.inj h
    rw [chosenWorkspace_alike halike hpath hseen hchosen hdir]

theorem openLocation_alike (halike : AlikeBut spot tree other) (target : Target)
    (hseen : ∀ file ∈ (Errand.around target location).filesSeen ⟨tree, cwd⟩ choice,
      tree.PassesBy cwd spot file)
    (h : openLocation ⟨tree, cwd⟩ env location choice = .ok (document, bench))
    (hdir : startDir ⟨tree, cwd⟩ (some bench.workspace.root) = .ok place) :
    openLocation ⟨other, cwd⟩ env location choice = .ok (document, bench) := by
  have hbench := bench_of_openLocation h target
  unfold openLocation at h ⊢
  unfold Errand.bench at hbench
  unfold Errand.filesSeen at hseen
  cases hparse : Place.parse location with
  | error failure => simp [hparse] at h
  | ok named =>
    simp only [hparse] at h hbench hseen ⊢
    cases hfile : Site.absolutePath ⟨tree, cwd⟩ named.file with
    | error failure => simp [hfile] at h
    | ok file =>
      obtain ⟨hnamed, hseen⟩ := List.forall_mem_cons.mp hseen
      simp only [hfile] at h hbench hseen
      have hpass := passesBy_absolutePath hnamed hfile
      have hcontent := halike.content?_eq hpass
      have hbench' := bench_alike halike (fun _ hsome => Option.some.inj hsome ▸ hpass) hseen
        hbench hdir
      cases hisFile : Site.isFile ⟨tree, cwd⟩ file with
      | false => simp [hisFile] at h
      | true =>
        simp only [hisFile, hbench, Bool.not_true, Bool.false_eq_true, if_false] at h
        simp only [absolutePath_alike halike hnamed hfile, hbench',
          Site.isFile_of_sameFile hcontent, hisFile, Bool.not_true, Bool.false_eq_true, if_false]
        unfold Site.openDocument at h ⊢
        rw [Site.readText_of_sameFile hcontent hisFile]
        exact h

/-- An errand that does not look at the spot has the same tests to run in both trees, except that
the last tests are read from the state file. -/
theorem attempt?_alike (halike : AlikeBut spot tree other) {errand : Errand} {shell : Shell}
    {testPath : String} (hfresh : errand ≠ .lastTests)
    (hseen : ∀ file ∈ errand.filesSeen ⟨tree, cwd⟩ choice, tree.PassesBy cwd spot file)
    (h : (errand.launch shell ⟨tree, cwd⟩ env choice false).attempt? = some (bench, testPath))
    (hdir : startDir ⟨tree, cwd⟩ (some bench.workspace.root) = .ok place) :
    (errand.launch shell ⟨other, cwd⟩ env choice false).attempt? = some (bench, testPath) := by
  cases errand with
  | around target location =>
    obtain ⟨⟨document, found⟩, hopen, hresolve⟩ := Option.bind_eq_some_iff.mp h
    have hsame : found = bench := by
      obtain ⟨resolution, -, hpair⟩ := Option.map_eq_some_iff.mp hresolve
      exact (Prod.mk.inj hpair).1
    have hopen' := openLocation_alike halike target hseen (Launch.toOption_eq_some hopen)
      (hsame ▸ hdir)
    refine Option.bind_eq_some_iff.mpr ⟨(document, found), ?_, hresolve⟩
    exact congrArg Except.toOption hopen'
  | suite =>
    obtain ⟨found, hbench, hpair⟩ := Option.map_eq_some_iff.mp h
    obtain ⟨rfl, rfl⟩ := Prod.mk.inj hpair
    have hbench' := bench_alike halike (fun _ hsome => by cases hsome) hseen
      (Launch.toOption_eq_some hbench) hdir
    exact Option.map_eq_some_iff.mpr ⟨found, congrArg Except.toOption hbench', rfl⟩
  | lastTests => exact absurd rfl hfresh

end Errands

/-! ## The command and what is left to do after it -/

/-- Two runs of a line end alike, in trees that are alike but for a spot. -/
structure EndAlike (spot : Location) (run other : ShellRun) : Prop where
  status : other.status = run.status
  alike : run.tree.AlikeBut spot other.tree

section Conclusion

variable {site site' : Site} {root : String} {session session' : Session Screen}
  {spot : Location}

/-- After commands that ended alike in trees alike a path is recorded alike: the exit code is the
same, and so is what the state file holds. -/
theorem conclude_alike (hcwd : site'.cwd = site.cwd) (hlast : session'.last = session.last)
    (hstatus : session'.terminal.status = session.terminal.status)
    (halike : session.terminal.tree.AlikeBut spot session'.terminal.tree) :
    (conclude site' false root session').code = (conclude site false root session).code ∧
      Site.content? ⟨(conclude site' false root session').tree, site.cwd⟩
          (StateFile.pathIn root) =
        Site.content? ⟨(conclude site false root session).tree, site.cwd⟩
          (StateFile.pathIn root) := by
  simp only [conclude, Bool.false_eq_true, if_false, Site.saveState, hcwd, hlast]
  cases hwrite : session.terminal.tree.writeText site.cwd (StateFile.pathIn root)
      (StateFile.toText session.last) with
  | ok tree =>
    obtain ⟨tree', hwrite'⟩ := halike.exists_writeText hwrite
    simp only [hwrite', hstatus, true_and]
    exact halike.content?_of_writeText hwrite hwrite'
  | error e =>
    cases hwrite' : session'.terminal.tree.writeText site.cwd (StateFile.pathIn root)
        (StateFile.toText session.last) with
    | ok tree' =>
      obtain ⟨tree, hok⟩ := halike.symm.exists_writeText hwrite'
      cases hwrite.symm.trans hok
    | error e' =>
      exact ⟨rfl, (FileTree.content?_of_writeText_error hwrite').trans
        (FileTree.content?_of_writeText_error hwrite).symm⟩

/-- The same tests come out the same in trees alike, if their command ends alike. -/
theorem runAt_alike {tree other : FileTree} {cwd place : Location} {shell : Shell} {bench : Bench}
    {path : String} (halike : tree.AlikeBut spot other)
    (hplace : shellPlace ⟨tree, cwd⟩ (bench.settings.commandFor path)
      (some bench.workspace.root) = .ok place)
    (hends : EndAlike spot (shell tree place (bench.settings.commandFor path))
      (shell other place (bench.settings.commandFor path))) :
    shellPlace ⟨other, cwd⟩ (bench.settings.commandFor path) (some bench.workspace.root) =
        .ok place ∧
      (runAt shell ⟨other, cwd⟩ bench false path).code =
        (runAt shell ⟨tree, cwd⟩ bench false path).code ∧
      Site.content? ⟨(runAt shell ⟨other, cwd⟩ bench false path).tree, cwd⟩
          (StateFile.pathIn bench.workspace.root) =
        Site.content? ⟨(runAt shell ⟨tree, cwd⟩ bench false path).tree, cwd⟩
          (StateFile.pathIn bench.workspace.root) := by
  obtain ⟨hnul, hdir⟩ := shellPlace_eq_ok_iff.mp hplace
  have hplace' := shellPlace_eq_ok_iff.mpr ⟨hnul, startDir_alike halike hdir⟩
  rw [runAt_of_shellPlace hplace, runAt_of_shellPlace hplace']
  exact ⟨hplace', conclude_alike rfl rfl (congrArg some hends.status) hends.alike⟩

end Conclusion

/-! ## Runs that forget -/

/-- Two sites differ in nothing but the state file of a root. -/
structure DifferInState (root : String) (spot : Location) (site other : Site) : Prop where
  /-- The spot is where the state file is, or would be. -/
  leads : site.spot? (StateFile.pathIn root) = some spot
  cwd : other.cwd = site.cwd
  alike : site.tree.AlikeBut spot other.tree

/-- An errand that is not for the last tests starts a line at a root, and the line overlooks what
differs at another site. -/
structure StartsPast (shell : Shell) (site other : Site) (env : Environment) (errand : Errand)
    (choice : WorkspaceChoice) (line root : String) (spot : Location) : Prop where
  fresh : errand ≠ .lastTests
  started : (execute shell site env (errand.invocation choice false)).started =
    some ⟨"sh", ["-c", line], some root⟩
  starts : (execute shell site env (errand.invocation choice false)).starts site = true
  overlooks : ∀ place, startDir site (some root) = .ok place →
    EndAlike spot (shell site.tree place line) (shell other.tree place line)

/-- An errand comes out the same at two sites. -/
structure ComesOutSame (shell : Shell) (site other : Site) (env : Environment) (errand : Errand)
    (choice : WorkspaceChoice) (root : String) : Prop where
  started : (execute shell other env (errand.invocation choice false)).started =
    (execute shell site env (errand.invocation choice false)).started
  starts : (execute shell other env (errand.invocation choice false)).starts other =
    (execute shell site env (errand.invocation choice false)).starts site
  code : (execute shell other env (errand.invocation choice false)).code =
    (execute shell site env (errand.invocation choice false)).code
  /-- The content of the state file afterwards. -/
  state : Site.content? ⟨(execute shell other env (errand.invocation choice false)).tree, other.cwd⟩
      (StateFile.pathIn root) =
    Site.content? ⟨(execute shell site env (errand.invocation choice false)).tree, site.cwd⟩
      (StateFile.pathIn root)

/-- The state file is robust and faithful. What is saved where there is room is loaded again. A file
that is no text, or a text that is no state, is loaded as no tests. And an errand for other than the
last tests, whose command is started, comes out the same whatever regular file the state file was
before, or if it was missing, as long as neither the command nor the errand itself looks at it. -/
theorem state_file_is_forgotten (shell : Shell) (site : Site) (root : String) :
    (site.tree.hasRoomAt site.cwd (StateFile.pathIn root) = true → ∀ last,
        ∃ tree, site.saveState root last = .ok tree ∧
          Site.loadState ⟨tree, site.cwd⟩ root = last) ∧
      (site.content? (StateFile.pathIn root) = none → site.loadState root = "") ∧
      (∀ content, site.content? (StateFile.pathIn root) = some content →
        (String.fromUTF8? content = none → site.loadState root = "") ∧
          ∀ text, String.fromUTF8? content = some text →
            (StateFile.ofText? text = none → site.loadState root = "") ∧
              ∀ last, StateFile.ofText? text = some last → site.loadState root = last) ∧
      ∀ other spot env errand choice line, DifferInState root spot site other →
        StartsPast shell site other env errand choice line root spot →
        (∀ file ∈ errand.filesSeen site choice, site.spot? file ≠ some spot) →
          ComesOutSame shell site other env errand choice root := by
  refine ⟨Site.exists_saveState, Site.loadState_of_content?_eq_none, fun content hcontent => ?load,
    fun other spot env errand choice line hdiffer hpast hseen => ?run⟩
  case load =>
    have hload := Site.loadState_of_content? hcontent
    refine ⟨fun hnone => ?_, fun text htext => ⟨fun hnone => ?_, fun last hlast => ?_⟩⟩
    · rw [hload, hnone]
      rfl
    · rw [hload, htext, Option.bind_some, hnone]
      rfl
    · rw [hload, htext, Option.bind_some, hlast]
      rfl
  case run =>
    obtain ⟨tree, cwd⟩ := site
    obtain ⟨later, cwd'⟩ := other
    obtain ⟨-, hcwd, halike⟩ := hdiffer
    obtain rfl : cwd' = cwd := hcwd
    obtain ⟨bench, path, place, hattempt, hplace⟩ := Errand.exists_attempt?_of_starts hpast.starts
    have hrun := Errand.execute_of_attempt? hattempt shell false
    have hcall : callAt bench path = ⟨"sh", ["-c", line], some root⟩ := by
      have hstarted := hpast.started
      rw [hrun, started_runAt] at hstarted
      exact Option.some.inj hstarted
    obtain ⟨-, hargs, hroot⟩ := ProcessCall.mk.inj hcall
    obtain rfl : bench.workspace.root = root := Option.some.inj hroot
    obtain rfl : bench.settings.commandFor path = line := by simpa using hargs
    have hdir := (shellPlace_eq_ok_iff.mp hplace).2
    -- The same tests are found at the other site, and their run comes out the same.
    have hattempt' := attempt?_alike halike hpast.fresh
      (fun file hfile => Site.passesBy_of_spot?_ne (hseen file hfile)) hattempt hdir
    have hrun' := Errand.execute_of_attempt? hattempt' shell false
    obtain ⟨hplace', hcode, hstate⟩ :=
      runAt_alike halike hplace (hpast.overlooks place hdir)
    refine ⟨?_, ?_, ?_, ?_⟩ <;> rw [hrun, hrun']
    · rw [started_runAt, started_runAt]
    · rw [Outcome.starts, Outcome.starts, started_runAt, started_runAt]
      exact (canStart_shellCall_iff.mpr ⟨place, hplace'⟩).trans
        (canStart_shellCall_iff.mpr ⟨place, hplace⟩).symm
    · exact hcode
    · exact hstate

/-- Where the state file of `/work` is. -/
def sampleSpot : Location := ["work", ".django-runner-state.json"]

/-- A site with a file at the state file of `/work`. -/
def withState (site : Site) (content : ByteArray) : Site :=
  ⟨site.tree.put sampleSpot (.file content 0o600), site.cwd⟩

theorem differInState_withState {site : Site} (content : ByteArray)
    (hleads : site.spot? (StateFile.pathIn "/work") = some sampleSpot)
    (hdir : site.tree.kindAt ["work"] = some .dir)
    (hfree : site.tree.isFreeAt sampleSpot = true) :
    DifferInState "/work" sampleSpot site (withState site content) :=
  ⟨hleads, rfl, FileTree.alikeBut_put hdir hfree content _⟩

/-- A command that changes no file overlooks what differs. -/
theorem startsPast_failingShell {site other : Site} {errand : Errand} {line root : String}
    {spot : Location} (hdiffer : DifferInState root spot site other) (hfresh : errand ≠ .lastTests)
    (hstarted : (execute failingShell site .none (errand.invocation ⟨none, none⟩ false)).started =
      some ⟨"sh", ["-c", line], some root⟩)
    (hcan : canStart site ⟨"sh", ["-c", line], some root⟩ = true) :
    StartsPast failingShell site other .none errand ⟨none, none⟩ line root spot := by
  refine ⟨hfresh, hstarted, ?_, fun _ _ => ⟨rfl, hdiffer.alike⟩⟩
  rw [Outcome.starts, hstarted]
  exact hcan

/-- A state file that is no text makes no difference to the tests of the file. -/
theorem state_file_is_forgotten_sampleSite :
    (∃ tree, sampleSite.saveState "/work" "a\"b\\c\x01é" = .ok tree ∧
        Site.loadState ⟨tree, ["work"]⟩ "/work" = "a\"b\\c\x01é") ∧
      (withState sampleSite ⟨#[0xff]⟩).loadState "/work" = "" ∧
      (execute failingShell sampleSite .none (.run .file "tests.py" false ⟨none, none⟩)).started =
        some ⟨"sh", ["-c", "manage.py test tests"], some "/work"⟩ ∧
      ComesOutSame failingShell sampleSite (withState sampleSite ⟨#[0xff]⟩) .none
        (.around .file "tests.py") ⟨none, none⟩ "/work" := by
  obtain ⟨hsave, -, -, hforgets⟩ := state_file_is_forgotten failingShell sampleSite "/work"
  obtain ⟨-, -, hload, -⟩ :=
    state_file_is_forgotten failingShell (withState sampleSite ⟨#[0xff]⟩) "/work"
  have hdiffer : DifferInState "/work" sampleSpot sampleSite (withState sampleSite ⟨#[0xff]⟩) :=
    differInState_withState _ (by decide +kernel) (by decide +kernel) (by decide +kernel)
  have hstarted : (execute failingShell sampleSite .none
      (.run .file "tests.py" false ⟨none, none⟩)).started =
        some ⟨"sh", ["-c", "manage.py test tests"], some "/work"⟩ := by decide +kernel
  have hpast : StartsPast failingShell sampleSite (withState sampleSite ⟨#[0xff]⟩) .none
      (.around .file "tests.py") ⟨none, none⟩ "manage.py test tests" "/work" sampleSpot :=
    startsPast_failingShell hdiffer (by simp) hstarted (by decide +kernel)
  exact ⟨hsave (by decide +kernel) _, (hload ⟨#[0xff]⟩ (by decide +kernel)).1 (by decide +kernel),
    hstarted, hforgets _ _ _ _ _ _ hdiffer hpast (by decide +kernel)⟩

/-- A workspace whose configuration is a link to its state file. -/
def linkedConfigSite : Site :=
  ⟨.dir [("work", .dir [("manage.py", .file .empty 0o644),
    (".django-runner.json", .link ".django-runner-state.json")])], ["work"]⟩

def classText (name : String) : ByteArray :=
  ("class " ++ name ++ ":\n    def test_sum(self):\n").toUTF8

def programText (program : String) : ByteArray :=
  ("\x7b\"manage_program\": \"" ++ program ++ "\"\x7d").toUTF8

/-- An errand comes out the same whatever the state file was, and whatever it looks at itself. -/
def Errand.IgnoresState (errand : Errand) : Prop :=
  ∀ shell site root other spot env choice line, DifferInState root spot site other →
    StartsPast shell site other env errand choice line root spot →
      ComesOutSame shell site other env errand choice root

/-- An errand can look at the state file itself: as the file of its tests, or as a configuration
through a link. Then what it starts depends on what the state file holds. -/
theorem state_file_can_be_looked_at :
    ¬Errand.IgnoresState (.around .method ".django-runner-state.json:2") ∧
      ¬Errand.IgnoresState .suite := by
  refine ⟨fun hsame => ?_, fun hsame => ?_⟩
  · have hdiffer : DifferInState "/work" sampleSpot (withState sampleSite (classText "A"))
        (withState (withState sampleSite (classText "A")) (classText "B")) :=
      differInState_withState _ (by decide +kernel) (by decide +kernel) (by decide +kernel)
    have hstarted : (execute failingShell (withState sampleSite (classText "A")) .none
        (.run .method ".django-runner-state.json:2" false ⟨none, none⟩)).started =
          some ⟨"sh", ["-c", "manage.py test .django-runner-state.json.A.test_sum"],
            some "/work"⟩ := by decide +kernel
    have hother := hsame _ _ _ _ _ _ _ _ hdiffer
      (startsPast_failingShell hdiffer (by simp) hstarted (by decide +kernel))
    exact absurd (hother.started.trans hstarted) (by decide +kernel)
  · have hdiffer : DifferInState "/work" sampleSpot (withState linkedConfigSite (programText "one"))
        (withState (withState linkedConfigSite (programText "one")) (programText "two")) :=
      differInState_withState _ (by decide +kernel) (by decide +kernel) (by decide +kernel)
    have hstarted : (execute failingShell (withState linkedConfigSite (programText "one")) .none
        (.app false ⟨none, none⟩)).started = some ⟨"sh", ["-c", "one"], some "/work"⟩ := by
      decide +kernel
    have hother := hsame _ _ _ _ _ _ _ _ hdiffer
      (startsPast_failingShell hdiffer (by simp) hstarted (by decide +kernel))
    exact absurd (hother.started.trans hstarted) (by decide +kernel)

end Cli

end TestCursor
