import TestCursor.Proofs.Initialisation
import TestCursor.Proofs.ScriptSearch

/-!
# The program of a new configuration

A new configuration runs the management script that the search found, under its path below the
directory that is initialised. Each backslash in that path is written as a slash.

1. On a disk the names that lead to a node, with slashes between them, are a path that leads there
   from the directory above them (`locate_intercalate`).
2. A file is still there after another one was written (`exists_file_of_writeText`).
3. So the path of the script leads to it when the new configuration is written. The program is that
   path exactly when no name on the way holds a backslash (`program_of_new_config`); otherwise it
   can name nothing at all (`new_program_names_nothing`).
-/

namespace TestCursor

namespace FileTree

section Disk

variable {tree tree' node : FileTree} {cwd place names : Location} {path text : String}
  {kind : Kind} {links : Nat}

/-- What a tree on a disk holds is such a tree, and lies behind such names. -/
theorem IsProper.of_get? (h : tree.IsProper) (hnode : tree.get? place = some node) :
    (∀ name ∈ place, IsDiskName name) ∧ node.IsProper := by
  induction place generalizing tree with
  | nil =>
    obtain rfl := Option.some.inj hnode
    exact ⟨List.forall_mem_nil _, h⟩
  | cons name place ih =>
    cases hentry : tree.entry? name with
    | none => simp [get?, hentry] at hnode
    | some child =>
      rw [get?_cons_of_child hentry] at hnode
      obtain ⟨hname, hchild⟩ := h.of_entry? hentry
      obtain ⟨hnames, hfound⟩ := ih hchild hnode
      exact ⟨List.forall_mem_cons.mpr ⟨hname, hnames⟩, hfound⟩

theorem walks_of_kindAt (hnames : ∀ name ∈ names, IsDiskName name)
    (hkind : tree.kindAt (place ++ names) = some kind) (hlink : ∀ target, kind ≠ .link target) :
    Walks tree .target links place names (.here (place ++ names)) := by
  induction names generalizing place with
  | nil =>
    rw [List.append_nil]
    exact .stop links place
  | cons name names ih =>
    obtain ⟨hname, hnames⟩ := List.forall_mem_cons.mp hnames
    have hdir : tree.kindAt place = some .dir := kindAt_eq_dir_of_append hkind (by simp)
    have hpiece : Names .target name names :=
      ⟨by simp [hname.not_empty, hname.not_here], hname.not_up, by simp,
        Nat.not_lt.mpr hname.short⟩
    rw [List.append_cons] at hkind ⊢
    by_cases hlast : names = []
    · subst hlast
      rw [List.append_nil] at hkind
      exact .enter hdir hpiece hkind hlink (ih hnames (by rwa [List.append_nil]))
    · exact .enter hdir hpiece (kindAt_eq_dir_of_append hkind hlast) (by simp) (ih hnames hkind)

theorem utf8ByteSize_intercalate_le (hnames : ∀ name ∈ names, IsDiskName name) :
    ("/".intercalate names).utf8ByteSize ≤ names.length * (maxNameBytes + 1) := by
  have hslash : "/".utf8ByteSize = 1 := rfl
  induction names with
  | nil => exact Nat.zero_le _
  | cons name names ih =>
    obtain ⟨hname, hnames⟩ := List.forall_mem_cons.mp hnames
    have hfirst := hname.short
    by_cases hnil : names = []
    · subst hnil
      rw [String.intercalate_singleton, List.length_singleton]
      omega
    · have hrest := ih hnames
      rw [String.intercalate_cons_of_ne_nil hnil, String.utf8ByteSize_append,
        String.utf8ByteSize_append, List.length_cons, Nat.succ_mul]
      omega

theorem mem_toList_intercalate_iff {c : Char} (hc : c ≠ '/') :
    c ∈ ("/".intercalate names).toList ↔ ∃ name ∈ names, c ∈ name.toList := by
  have hjoin : ("/".intercalate names).toList = joinWith ['/'] (names.map String.toList) :=
    toList_intercalate_eq "/" names
  rw [hjoin, mem_joinWith_iff hc]
  simp only [List.mem_map, exists_exists_and_eq_and]

/-- Names with slashes between them, few enough for a path, lead where the names lead. -/
theorem locate_intercalate (hnames : ∀ name ∈ names, IsDiskName name) (hne : names ≠ [])
    (hlength : names.length * (maxNameBytes + 1) ≤ maxPathBytes)
    (hkind : tree.kindAt (place ++ names) = some kind) (hlink : ∀ target, kind ≠ .link target) :
    tree.locate place ("/".intercalate names) = .ok (place ++ names) := by
  have hentries : AreEntryNames names := fun name hname => (hnames name hname).toIsEntryName
  have hsplit : splitString '/' ("/".intercalate names) = names :=
    splitString_intercalate rfl hne fun name hname => (hentries name hname).no_slash
  have hrelative : ¬("/".intercalate names).toList.head? = some '/' := fun hhead =>
    Bool.noConfusion ((isAbsolute_intercalate hentries hne).symm.trans
      (isAbsolute_iff_head.mpr hhead))
  have hpath : IsPath ("/".intercalate names) := by
    have hbytes := utf8ByteSize_intercalate_le hnames
    refine ⟨?_, ?_, by omega⟩
    · rw [← Bool.not_eq_true, List.contains_iff_mem, mem_toList_intercalate_iff (by decide)]
      rintro ⟨name, hname, hnul⟩
      exact (hnames name hname).no_nul hnul
    · rw [← Bool.not_eq_true, String.isEmpty_iff]
      intro hempty
      rw [hempty] at hsplit
      exact (hentries "" (hsplit ▸ by decide)).not_empty rfl
  have harrive :
      tree.arrive place .target ("/".intercalate names) = .ok (.here (place ++ names)) := by
    rw [arrive_eq_ok_iff (by decide), startOf, if_neg hrelative, hsplit]
    exact ⟨hpath, walks_of_kindAt hnames hkind hlink⟩
  rw [locate, harrive]
  rfl

theorem rests_of_realPlace (h : tree.realPlace cwd path = .ok place) :
    tree.Rests (.here place) := by
  unfold realPlace at h
  split at h
  · next found hfollow =>
    obtain rfl : found = place := by
      split at h
      · cases h
      · exact Except.ok.inj h
    unfold follow at hfollow
    split at hfollow
    · cases hfollow
    · split at hfollow
      · cases hfollow
      · refine ((walk_eq_ok_iff (by decide)).mp hfollow).rests fun hnil => ?_
        exact absurd (List.map_eq_nil_iff.mp hnil) (splitOn_ne_nil '/' path.toList)
  · cases h
  · cases h

/-- A file can be written below such a node only if that is a directory. -/
theorem dir_of_writeText {name : String} (hnames : AreEntryNames (place ++ [name]))
    (hplace : tree.Rests (.here place))
    (h : tree.writeText cwd (pathOf (place ++ [name])) text = .ok tree') :
    tree.kindAt place = some .dir := by
  rw [writeText, writeBytes] at h
  cases hspot : tree.placeToWrite cwd (pathOf (place ++ [name])) with
  | error e => cases hspot ▸ h
  | ok spot =>
    obtain ⟨arrival, harrive, -⟩ := kindAt_of_placeToWrite hspot
    rcases hplace with hdir | hleaf
    · exact hdir
    · exact dir_of_arrive_below (by decide) hnames hleaf (by simp) harrive

theorem exists_file_of_writeText (h : tree.writeText cwd path text = .ok tree')
    (hfile : ∃ content mode, tree.get? place = some (.file content mode)) :
    ∃ content mode, tree'.get? place = some (.file content mode) := by
  obtain ⟨content, mode, hfile⟩ := hfile
  rw [writeText, writeBytes] at h
  cases hspot : tree.placeToWrite cwd path with
  | error e => cases hspot ▸ h
  | ok spot =>
    rw [hspot] at h
    rcases eq_of_writeAt h with ⟨newMode, rfl⟩ | ⟨rfl, -⟩
    · obtain ⟨arrival, harrive, rfl, hold⟩ := kindAt_of_placeToWrite hspot
      by_cases hplace : place = arrival.spot
      · rw [hplace]
        exact ⟨_, newMode, get?_put_spot (Rests.of_arrive (by decide) harrive) _⟩
      · have hdir : tree.kindAt arrival.spot ≠ some .dir := by
          rcases hold with hold | hold <;> simp [hold]
        exact ⟨content, mode, get?_put_of_ne hdir hfile (by simp [kind]) hplace _⟩
    · exact ⟨content, mode, hfile⟩

end Disk

end FileTree

namespace Cli

/-- A text with slashes for its backslashes. -/
def slashed (text : String) : String := text.map fun c => if c = '\\' then '/' else c

section NewProgram

variable {site : Site} {dir : Option String} {force : Bool} {place path : Location} {text : String}

theorem slashed_eq_self_iff : slashed text = text ↔ '\\' ∉ text.toList := by
  have hkept {c : Char} : (if c = '\\' then '/' else c) = c ↔ c ≠ '\\' := by
    by_cases hc : c = '\\'
    · simp [hc]
    · simp [hc]
  rw [← String.toList_inj, slashed, String.toList_map]
  conv_lhs => rhs; rw [← List.map_id text.toList]
  rw [List.map_inj_left]
  exact ⟨fun h hmem => hkept.mp (h _ hmem) rfl,
    fun h c hc => hkept.mpr fun heq => h (heq ▸ hc)⟩

theorem manageProgram_newConfig (path : Location) :
    (newConfig (some path)).1.manageProgram = slashed ("/".intercalate path) ++ " test" := by
  by_cases hscript : path = [scriptName]
  · have hsame : slashed ("/".intercalate path) = "/".intercalate path := by
      rw [hscript, slashed_eq_self_iff]
      decide
    rw [hsame, hscript]
    rfl
  · simp [newConfig, hscript, slashed]

/-- The program is the path of the script when no name on the way holds a backslash. -/
theorem slashed_intercalate_eq_iff : slashed ("/".intercalate path) = "/".intercalate path ↔
    ∀ name ∈ path, '\\' ∉ name.toList := by
  rw [slashed_eq_self_iff, FileTree.mem_toList_intercalate_iff (by decide)]
  simp

theorem dir_of_saveConfig {config : Config} {tree : FileTree}
    (hplace : site.tree.realPlace site.cwd (dir.getD site.cwdPath) = .ok place)
    (hproper : site.tree.IsProper)
    (hsave : site.saveConfig config (joinPath (FileTree.pathOf place) ".django-runner.json") =
      .ok tree) : site.tree.kindAt place = some .dir := by
  have hrests := FileTree.rests_of_realPlace hplace
  obtain ⟨node, hnode⟩ : ∃ node, site.tree.get? place = some node := by
    rcases hrests with hkind | hkind <;>
      exact (Option.map_eq_some_iff.mp hkind).imp fun _ h => h.1
  have hnames : AreEntryNames (place ++ [".django-runner.json"]) :=
    List.forall_mem_append.mpr
      ⟨fun name hname => ((hproper.of_get? hnode).1 name hname).toIsEntryName, by decide⟩
  rw [joinPath_pathOf_name hnames] at hsave
  exact FileTree.dir_of_writeText hnames hrests (Site.writeText_eq_ok_iff.mp hsave)

/-- The script that is found below a directory of a disk lies there. -/
theorem file_of_find? (hplace : site.tree.kindAt place = some .dir) (hproper : site.tree.IsProper)
    (hfound : ScriptSearch.find? (place.getLast?.getD "")
      ((site.tree.get? place).getD FileTree.empty) = some path) :
    path.getLast? = some "manage.py" ∧ path.length ≤ 3 ∧ (∀ name ∈ path, IsDiskName name) ∧
      ∃ content mode, site.tree.get? (place ++ path) = some (.file content mode) := by
  obtain ⟨node, hnode, hkind⟩ := Option.map_eq_some_iff.mp hplace
  obtain ⟨entries, rfl⟩ := FileTree.kind_eq_dir.mp hkind
  rw [hnode, Option.getD_some] at hfound
  obtain ⟨-, hnodeProper⟩ := hproper.of_get? hnode
  have hscript := ScriptSearch.isCandidate_of_find? rfl hnodeProper hfound
  obtain ⟨content, mode, hfile⟩ := hscript.isFile
  refine ⟨hscript.isScript, hscript.not_deep, (hnodeProper.of_get? hfile).1, content, mode, ?_⟩
  rw [FileTree.get?_append, hnode, Option.bind_some, hfile]

/-- Initialising that comes to its end saved the new configuration, unless an old one is kept. -/
theorem saveConfig_of_initialise
    (hplace : site.tree.realPlace site.cwd (dir.getD site.cwdPath) = .ok place)
    (hwrites : site.doesExist (joinPath (FileTree.pathOf place) ".django-runner.json") = false ∨
      force = true) (hcode : (initialise site dir force).code = 0) :
    site.saveConfig (initialConfig site place)
      (joinPath (FileTree.pathOf place) ".django-runner.json") =
        .ok (initialise site dir force).tree := by
  have hkept : (site.doesExist (Site.firstConfigPath (FileTree.pathOf place)) && !force) =
      false := by
    rcases hwrites with hnew | hforce
    · rw [Site.firstConfigPath, configFileNames, List.headD_cons, hnew, Bool.false_and]
    · rw [hforce, Bool.not_true, Bool.and_false]
  rcases initialise_of_not_kept hplace hkept with ⟨-, hfailed⟩ | ⟨hsave, -⟩
  · exact absurd (hcode.symm.trans hfailed) (by decide)
  · exact hsave

/-- What a new configuration runs, when one is written: the default program, or the script that
was found, which its path still leads to. The path is written as it is exactly when no name on the
way holds a backslash. -/
theorem program_of_new_config
    (hplace : site.tree.realPlace site.cwd (dir.getD site.cwdPath) = .ok place)
    (hproper : site.tree.IsProper) :
    let first := joinPath (FileTree.pathOf place) ".django-runner.json"
    let script := ScriptSearch.find? (place.getLast?.getD "")
      ((site.tree.get? place).getD FileTree.empty)
    let tree := (initialise site dir force).tree
    (site.doesExist first = false ∨ force = true) → (initialise site dir force).code = 0 →
      ∃ config, site.saveConfig config first = .ok tree ∧
        ((∀ device, site.tree.node? site.cwd first ≠ some (.device device)) →
          Site.readConfig ⟨tree, site.cwd⟩ first = .ok config) ∧
        (script = none → config.manageProgram = "manage.py test") ∧
        ∀ path, script = some path → path.getLast? = some "manage.py" ∧
          tree.locate place ("/".intercalate path) = .ok (place ++ path) ∧
          (∃ content mode, tree.get? (place ++ path) = some (.file content mode)) ∧
          config.manageProgram = slashed ("/".intercalate path) ++ " test" ∧
          (config.manageProgram = "/".intercalate path ++ " test" ↔
            ∀ name ∈ path, '\\' ∉ name.toList) := by
  intro first script tree hwrites hcode
  have hsave := saveConfig_of_initialise hplace hwrites hcode
  refine ⟨initialConfig site place, hsave, fun hnode => ?_, fun hnone => ?_, fun path hpath => ?_⟩
  · rcases Site.readConfig_of_saveConfig hsave with ⟨hread, -⟩ | ⟨device, hdevice⟩
    · exact hread
    · exact absurd hdevice (hnode device)
  · show (newConfig script).1.manageProgram = _
    rw [hnone]
    rfl
  · have hdir := dir_of_saveConfig hplace hproper hsave
    obtain ⟨hname, hlength, hnames, hfile⟩ := file_of_find? hdir hproper hpath
    obtain ⟨content, mode, hlater⟩ :=
      FileTree.exists_file_of_writeText (Site.writeText_eq_ok_iff.mp hsave) hfile
    have hne : path ≠ [] := by
      rintro rfl
      cases hname
    have hroom : path.length * (maxNameBytes + 1) ≤ maxPathBytes := by
      unfold maxNameBytes maxPathBytes
      omega
    have hkind : tree.kindAt (place ++ path) = some .leaf := by rw [FileTree.kindAt, hlater]; rfl
    have hprogram : (initialConfig site place).manageProgram =
        slashed ("/".intercalate path) ++ " test" := by
      show (newConfig script).1.manageProgram = _
      rw [hpath, manageProgram_newConfig]
    refine ⟨hname, FileTree.locate_intercalate hnames hne hroom hkind (by simp),
      ⟨content, mode, hlater⟩, hprogram, ?_⟩
    rw [hprogram, String.append_left_inj, slashed_intercalate_eq_iff]

end NewProgram

/-- A workspace at `/work` whose script lies in a directory with a backslash in its name. -/
def backslashSite : Site :=
  ⟨.dir [("work", .dir [("back\\end", .dir [("manage.py", .file ByteArray.empty newFileMode)])])],
    ["work"]⟩

theorem isProper_backslashSite : backslashSite.tree.IsProper := by
  have hback : (FileTree.dir [("manage.py", .file ByteArray.empty newFileMode)]).IsProper :=
    .dir (by decide) (by decide) (by simp [FileTree.IsProper.file])
  have hwork : (FileTree.dir [("back\\end", .dir [("manage.py",
      .file ByteArray.empty newFileMode)])]).IsProper :=
    .dir (by decide) (by decide) (by simp [hback])
  exact .dir (by decide) (by decide) (by simp [hwork])

theorem run_backslashSite :
    backslashSite.tree.realPlace backslashSite.cwd (none.getD backslashSite.cwdPath) =
        .ok ["work"] ∧
      ScriptSearch.find? ((["work"] : Location).getLast?.getD "")
          ((backslashSite.tree.get? ["work"]).getD FileTree.empty) =
        some ["back\\end", "manage.py"] ∧
      backslashSite.doesExist (joinPath (FileTree.pathOf ["work"]) ".django-runner.json") = false ∧
      backslashSite.tree.node? backslashSite.cwd
          (joinPath (FileTree.pathOf ["work"]) ".django-runner.json") = none ∧
      (initialise backslashSite none false).code = 0 := by
  decide +kernel

theorem realPlace_backslashSite : backslashSite.tree.realPlace backslashSite.cwd
    (none.getD backslashSite.cwdPath) = .ok ["work"] := run_backslashSite.1

theorem find?_backslashSite : ScriptSearch.find? ((["work"] : Location).getLast?.getD "")
    ((backslashSite.tree.get? ["work"]).getD FileTree.empty) =
      some ["back\\end", "manage.py"] := run_backslashSite.2.1

theorem doesExist_backslashSite : backslashSite.doesExist
    (joinPath (FileTree.pathOf ["work"]) ".django-runner.json") = false :=
  run_backslashSite.2.2.1

theorem node?_backslashSite : backslashSite.tree.node? backslashSite.cwd
    (joinPath (FileTree.pathOf ["work"]) ".django-runner.json") = none :=
  run_backslashSite.2.2.2.1

theorem code_initialise_backslashSite : (initialise backslashSite none false).code = 0 :=
  run_backslashSite.2.2.2.2

/-- The script is found and stays where it is, but the program is not its path. -/
theorem program_of_new_config_backslashSite :
    backslashSite.tree.IsProper ∧
      backslashSite.doesExist (joinPath (FileTree.pathOf ["work"]) ".django-runner.json") = false ∧
      (initialise backslashSite none false).code = 0 ∧
      (initialise backslashSite none false).tree.locate ["work"] "back\\end/manage.py" =
        .ok ["work", "back\\end", "manage.py"] ∧
      ∃ config, Site.readConfig ⟨(initialise backslashSite none false).tree, ["work"]⟩
          (joinPath (FileTree.pathOf ["work"]) ".django-runner.json") = .ok config ∧
        config.manageProgram ≠ "back\\end/manage.py test" := by
  have hpath : "/".intercalate ["back\\end", "manage.py"] = "back\\end/manage.py" := by decide
  obtain ⟨config, -, hread, -, hscript⟩ :=
    program_of_new_config realPlace_backslashSite isProper_backslashSite
      (.inl doesExist_backslashSite) code_initialise_backslashSite
  obtain ⟨-, hlocate, -, -, hprogram⟩ := hscript _ find?_backslashSite
  rw [hpath] at hlocate hprogram
  refine ⟨isProper_backslashSite, doesExist_backslashSite, code_initialise_backslashSite, hlocate,
    config, hread fun device hdevice => ?_, fun hsame => ?_⟩
  · cases node?_backslashSite.symm.trans hdevice
  · exact absurd (hprogram.mp hsame "back\\end" List.mem_cons_self) (by decide)

/-- Not every new configuration runs the script that was found: what it runs need not be there. -/
theorem new_program_names_nothing :
    ¬∀ (site : Site) (dir : Option String) (force : Bool) (place path : Location),
      site.tree.realPlace site.cwd (dir.getD site.cwdPath) = .ok place → site.tree.IsProper →
      (site.doesExist (joinPath (FileTree.pathOf place) ".django-runner.json") = false ∨
        force = true) →
      (initialise site dir force).code = 0 →
      ScriptSearch.find? (place.getLast?.getD "") ((site.tree.get? place).getD FileTree.empty) =
        some path →
      ∃ config program, Site.readConfig ⟨(initialise site dir force).tree, site.cwd⟩
          (joinPath (FileTree.pathOf place) ".django-runner.json") = .ok config ∧
        config.manageProgram = program ++ " test" ∧
        (initialise site dir force).tree.locate place program = .ok (place ++ path) := by
  intro hleads
  have hsave := saveConfig_of_initialise realPlace_backslashSite (.inl doesExist_backslashSite)
    code_initialise_backslashSite
  obtain ⟨config, program, hread, hprogram, hlocate⟩ :=
    hleads backslashSite none false ["work"] ["back\\end", "manage.py"] realPlace_backslashSite
      isProper_backslashSite (.inl doesExist_backslashSite) code_initialise_backslashSite
      find?_backslashSite
  have hconfig : config = initialConfig backslashSite ["work"] := by
    rcases Site.readConfig_of_saveConfig hsave with ⟨hsaved, -⟩ | ⟨device, hdevice⟩
    · exact Except.ok.inj (hread.symm.trans hsaved)
    · cases node?_backslashSite.symm.trans hdevice
  have hslashed : (initialConfig backslashSite ["work"]).manageProgram =
      "back/end/manage.py" ++ " test" := by decide +kernel
  obtain rfl : program = "back/end/manage.py" := by
    rw [hconfig, hslashed] at hprogram
    exact (String.append_left_inj " test").mp hprogram.symm
  have hnothing : (initialise backslashSite none false).tree.locate ["work"]
      "back/end/manage.py" = .error .notFound := by decide +kernel
  cases hnothing.symm.trans hlocate

end Cli

end TestCursor
