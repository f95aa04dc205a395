import TestCursor.Proofs.DottedPath
import TestCursor.Proofs.FirstOccurrence
import TestCursor.Proofs.Resolution

/-!
# The root of a workspace and the files below it

The search for the workspace of a file goes through texts: it cuts the path of the file down to
its parents. What it finds is a directory above the file, and the test path is made of what lies
between the two.

1. A directory in which something was found is above the start of the search, and something lies
   below it (`exists_entry_of_findsRoot`). So it is a proper beginning of the file's place
   (`exists_root_of_findsRoot`).
2. The path below the root and its dotted path are made of the remaining names, and so is what a
   target is resolved to (`workspace_root_above_file`). The extension is that of the last name, and
   not always that of the dotted names (`joined_extension_is_kept`).
-/

namespace TestCursor

/-- A target is always resolved in a document, by the path below the root and by the lines. -/
theorem Settings.resolve_toSource (settings : Settings) (target : Target) (document : Document) :
    settings.resolve target document.toSource =
      .ok (settings.resolutionOf target document.relativePath
        (if target.needsScope then Scope.ofLines document.lines else Scope.empty)) := by
  cases hneeds : target.needsScope with
  | true => exact resolve_eq_of_needsScope hneeds
  | false => exact resolve_eq_of_not_needsScope hneeds

namespace Site

/-! ## Where the search ends -/

section Search

variable {site : Site} {path fallback dir : String} {dirs : List String} {workspace : Workspace}
  {outcome : Except Error (Config × String)} {file : Location} {content : ByteArray} {mode : Nat}

theorem Hit.exists_candidate (h : site.Hit dir outcome) :
    ∃ name ∈ candidateNames, (site.content? (joinPath dir name)).isSome = true := by
  cases h with
  | first hfile _ => exact ⟨".django-runner.json", by decide, by rw [hfile]; rfl⟩
  | second _ hfile _ => exact ⟨"django-runner.json", by decide, by rw [hfile]; rfl⟩
  | project _ _ hfile _ | spoiledProject _ _ hfile _ =>
    exact ⟨"pyproject.toml", by decide, by rw [hfile]; rfl⟩

theorem hit_of_firstConfigured (h : site.firstConfigured dirs = .ok (some workspace)) :
    ∃ outcome, site.Hit workspace.root outcome := by
  induction dirs with
  | nil => cases h
  | cons dir dirs ih =>
    rw [firstConfigured] at h
    split at h
    · cases h
    · next found source hdir =>
      obtain rfl := Option.some.inj (Except.ok.inj h)
      exact ⟨.ok (found, source), hit_of_configIn hdir⟩
    · exact ih h

theorem ancestorsOf_searchStart_subset (site : Site) (path : String) :
    ancestorsOf (site.searchStart path) ⊆ ancestorsOf path := by
  unfold searchStart
  split
  · cases hparent : parentOf? path with
    | none => exact List.Subset.refl _
    | some parent =>
      rw [ancestorsOf_eq path, hparent]
      exact List.subset_cons_self _ _
  · exact List.Subset.refl _

/-- The root that is found lies above the start of the search and has an entry. -/
theorem exists_entry_of_findsRoot (hfinds : site.FindsRoot path)
    (h : site.workspaceOf path fallback = .ok workspace) :
    workspace.root ∈ ancestorsOf path ∧
      ∃ name, IsEntryName name ∧ (site.content? (joinPath workspace.root name)).isSome = true := by
  have hcandidates : ∀ name ∈ candidateNames, IsEntryName name := by decide
  unfold workspaceOf at h
  split at h
  · cases h
  · next found hfound =>
    obtain rfl := Except.ok.inj h
    obtain ⟨outcome, hhit⟩ := hit_of_firstConfigured hfound
    obtain ⟨name, hname, hfile⟩ := hhit.exists_candidate
    exact ⟨ancestorsOf_searchStart_subset site path (root_of_firstConfigured hfound), name,
      hcandidates name hname, hfile⟩
  · next hnone =>
    -- All directories are silent, so what was found is the management script.
    obtain rfl := Except.ok.inj h
    obtain ⟨dir, hdir, hscript⟩ := hfinds
    have hscript := hscript.resolve_left fun ⟨outcome, hhit⟩ =>
      (isSilent_of_firstConfigured hnone dir hdir).not_hit hhit
    obtain ⟨root, hroot⟩ : ∃ root, site.scriptRoot? (site.searchStart path) = some root := by
      rw [← Option.isSome_iff_exists, scriptRoot?, List.find?_isSome]
      exact ⟨dir, hdir, by rwa [isFile_eq]⟩
    rw [hroot, Option.getD_some]
    have hfile := List.find?_some hroot
    rw [isFile_eq] at hfile
    exact ⟨ancestorsOf_searchStart_subset site path (List.mem_of_find?_eq_some hroot),
      scriptName, by decide, hfile⟩

theorem exists_root_of_findsRoot (hnames : AreEntryNames file)
    (hfile : site.tree.get? file = some (.file content mode))
    (hfinds : site.FindsRoot (FileTree.pathOf file))
    (h : site.workspaceOf (FileTree.pathOf file) fallback = .ok workspace) :
    ∃ root front last, file = root ++ (front ++ [last]) ∧
      workspace.root = FileTree.pathOf root := by
  obtain ⟨hmem, name, hname, hentry⟩ := exists_entry_of_findsRoot hfinds h
  obtain ⟨root, ⟨rest, rfl⟩, hroot⟩ := exists_prefix_of_mem_ancestorsOf hnames hmem
  have hrest : rest ≠ [] := by
    rintro rfl
    rw [List.append_nil] at hnames hfile
    have hbelow : AreEntryNames (root ++ [name]) :=
      List.forall_mem_append.mpr ⟨hnames, List.forall_mem_singleton.mpr hname⟩
    rw [hroot, content?_below_file hbelow hfile] at hentry
    cases hentry
  exact ⟨root, rest.dropLast, rest.getLast hrest, by rw [List.dropLast_concat_getLast], hroot⟩

end Search

/-- The root of a workspace that is found for a file is a directory above the file: its place is a
proper beginning of that of the file. The path below the root is made of the remaining names, and
leads back to the file. If none of them has a backslash the module path is these names with dots
between them, the last one without its extension; the extension can be cut off the dotted names as
well, unless the last of several names is `py`. No directory above the root appears in a test path:
the module path is an ending of what the remaining names give, and below any other root a target is
resolved in them to the same. -/
theorem workspace_root_above_file {site : Site} {file : Location} {content : ByteArray} {mode : Nat}
    {fallback : String} {workspace : Workspace} (hnames : AreEntryNames file)
    (hfile : site.tree.get? file = some (.file content mode))
    (hfinds : site.FindsRoot (FileTree.pathOf file))
    (hworkspace : site.workspaceOf (FileTree.pathOf file) fallback = .ok workspace) :
    ∃ root front last, file = root ++ (front ++ [last]) ∧
      workspace.root = FileTree.pathOf root ∧
      let below := relativePath (FileTree.pathOf file) workspace.root
      below = "/".intercalate (front ++ [last]) ∧
        joinPath workspace.root below = FileTree.pathOf file ∧ isAbsolute below = false ∧
        ((∀ name ∈ front ++ [last], '\\' ∉ name.toList) →
          (∃ stem, CutsExtension last stem ∧
            dottedPath below = ".".intercalate (front ++ [stem])) ∧
          (CutsExtension (".".intercalate (front ++ [last])) (dottedPath below) ↔
            ¬(last = "py" ∧ front ≠ []))) ∧
        ∀ (settings : Settings) (target : Target) (cursor : Option Cursor) (contents : String),
          let document : Document := ⟨FileTree.pathOf file, workspace.root, cursor, contents⟩
          (∃ resolution, settings.resolve target document.toSource = .ok resolution ∧
            resolution.modulePath.toList <:+ (dottedPath below).toList ∧
            resolution.testPath = target.testPath settings.config.djangoNose
              resolution.modulePath resolution.scope) ∧
          ∀ other : Location, AreEntryNames other →
            let moved : Document := ⟨FileTree.pathOf (other ++ (front ++ [last])),
              FileTree.pathOf other, cursor, contents⟩
            settings.resolve target moved.toSource = settings.resolve target document.toSource := by
  obtain ⟨root, front, last, rfl, hroot⟩ := exists_root_of_findsRoot hnames hfile hfinds hworkspace
  have hne : front ++ [last] ≠ [] := by simp
  have hrest : AreEntryNames (front ++ [last]) := (List.forall_mem_append.mp hnames).2
  have hbelow : relativePath (FileTree.pathOf (root ++ (front ++ [last]))) workspace.root =
      "/".intercalate (front ++ [last]) := by rw [hroot, relativePath_pathOf hnames hne]
  obtain ⟨stem, hstem⟩ := exists_cutsExtension last
  refine ⟨root, front, last, rfl, hroot, hbelow, ?joined, ?relative, fun hplain => ?dotted,
    fun settings target cursor contents => ⟨?resolved, fun other hother => ?elsewhere⟩⟩
  case joined => rw [hbelow, hroot, joinPath_pathOf hnames hne]
  case relative => rw [hbelow, isAbsolute_intercalate hrest hne]
  case dotted =>
    have hdotted := dottedPath_intercalate hrest hplain hstem
    rw [hbelow, hdotted]
    exact ⟨⟨stem, hstem, rfl⟩, cutsExtension_intercalate_iff hstem⟩
  case resolved =>
    exact ⟨_, settings.resolve_toSource target _, RootRule.apply_suffix _ _, rfl⟩
  case elsewhere =>
    intro moved
    have hthere : relativePath (FileTree.pathOf (other ++ (front ++ [last])))
        (FileTree.pathOf other) = "/".intercalate (front ++ [last]) :=
      relativePath_pathOf (List.forall_mem_append.mpr ⟨hother, hrest⟩) hne
    rw [Settings.resolve_toSource, Settings.resolve_toSource]
    simp only [moved, Document.relativePath, Document.lines, hthere, hbelow]

/-- A workspace at `/work` with a file whose name is that of the extension. -/
def bareNameSite : Site :=
  ⟨.dir [("work", .dir [("manage.py", .file .empty 0o644),
    ("a", .dir [("py", .file .empty 0o644), ("tests.py", .file .empty 0o644)])])], ["work"]⟩

/-- The management script is found above the tests. -/
theorem workspace_root_above_file_bareNameSite :
    (AreEntryNames ["work", "a", "tests.py"] ∧
      bareNameSite.tree.get? ["work", "a", "tests.py"] = some (.file .empty 0o644) ∧
      bareNameSite.FindsRoot (FileTree.pathOf ["work", "a", "tests.py"])) ∧
    ∃ root front last, ["work", "a", "tests.py"] = root ++ (front ++ [last]) ∧
      "/work" = FileTree.pathOf root ∧
      joinPath "/work" (relativePath "/work/a/tests.py" "/work") = "/work/a/tests.py" := by
  have hnames : AreEntryNames ["work", "a", "tests.py"] := by decide
  have hfile : bareNameSite.tree.get? ["work", "a", "tests.py"] =
      some (.file .empty 0o644) := rfl
  have hfinds : bareNameSite.FindsRoot (FileTree.pathOf ["work", "a", "tests.py"]) :=
    ⟨"/work", by decide +kernel, .inr (by decide +kernel)⟩
  have hworkspace : bareNameSite.workspaceOf (FileTree.pathOf ["work", "a", "tests.py"]) "/" =
      .ok ⟨Config.default, none, "/work"⟩ := by decide +kernel
  obtain ⟨root, front, last, hsplit, hroot, -, hjoined, -⟩ :=
    workspace_root_above_file hnames hfile hfinds hworkspace
  exact ⟨⟨hnames, hfile, hfinds⟩, root, front, last, hsplit, hroot, hjoined⟩

/-- The extension cannot be cut off the dotted names: it would take a last name `py` with the dot
in front of it. -/
theorem joined_extension_is_kept :
    ¬∀ (site : Site) (root rest : Location) (content : ByteArray) (mode : Nat) (fallback : String)
      (workspace : Workspace),
      AreEntryNames (root ++ rest) →
      site.tree.get? (root ++ rest) = some (.file content mode) →
      site.FindsRoot (FileTree.pathOf (root ++ rest)) →
      site.workspaceOf (FileTree.pathOf (root ++ rest)) fallback = .ok workspace →
      workspace.root = FileTree.pathOf root → (∀ name ∈ rest, '\\' ∉ name.toList) →
        CutsExtension (".".intercalate rest)
          (dottedPath (relativePath (FileTree.pathOf (root ++ rest)) workspace.root)) := by
  intro hcut
  have hfile : bareNameSite.tree.get? ["work", "a", "py"] = some (.file .empty 0o644) := rfl
  have hfinds : bareNameSite.FindsRoot (FileTree.pathOf ["work", "a", "py"]) :=
    ⟨"/work", by decide +kernel, .inr (by decide +kernel)⟩
  have hworkspace : bareNameSite.workspaceOf (FileTree.pathOf ["work", "a", "py"]) "/" =
      .ok ⟨Config.default, none, "/work"⟩ := by decide +kernel
  have hbare := hcut bareNameSite ["work"] ["a", "py"] .empty 0o644 "/" _ (by decide) hfile hfinds
    hworkspace (by decide +kernel) (by decide)
  have hdotted : dottedPath (relativePath (FileTree.pathOf (["work"] ++ ["a", "py"])) "/work") =
      "a.py" := by decide +kernel
  rw [hdotted] at hbare
  exact absurd (cutsExtension_iff.mp hbare) (by decide)

end Site

end TestCursor
