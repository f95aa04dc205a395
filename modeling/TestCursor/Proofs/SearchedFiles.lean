import TestCursor.Proofs.NearestConfig

/-!
# The files that a search looks at

The search for a workspace looks at one file after the other and stops as soon as it has found what
it looks for. So two sites have the same workspace when these files have the same contents in both,
whatever else differs.

1. A search through a list sees it up to the first hit (`upToFirst`), and depends on nothing behind
   that (`find?_congr_upToFirst`).
2. In a directory the search sees the candidates up to the first file that exists
   (`candidatesSeen`); it sees the directories up to the first with a configuration, and without
   one those up to the first with the management script (`filesSeen`).
3. Sites in which these files have the same contents find the same (`workspaceOf_of_sameFiles`).
-/

namespace TestCursor

section UpToFirst

variable {α : Type} {p q : α → Bool} {x : α} {xs : List α} {P : α → Prop}

/-- The elements of a list up to the first with a property, and this one. -/
def upToFirst (p : α → Bool) : List α → List α
  | [] => []
  | x :: xs => x :: if p x then [] else upToFirst p xs

theorem forall_mem_upToFirst_cons :
    (∀ y ∈ upToFirst p (x :: xs), P y) ↔ P x ∧ (p x = false → ∀ y ∈ upToFirst p xs, P y) := by
  rw [upToFirst, List.forall_mem_cons]
  cases p x <;> simp

theorem find?_congr_upToFirst (h : ∀ x ∈ upToFirst p xs, q x = p x) : xs.find? q = xs.find? p := by
  induction xs with
  | nil => rfl
  | cons x xs ih =>
    obtain ⟨hx, hxs⟩ := forall_mem_upToFirst_cons.mp h
    rw [List.find?_cons, List.find?_cons, hx]
    cases hfound : p x with
    | true => rfl
    | false => exact ih (hxs hfound)

end UpToFirst

namespace Site

/-- The files of a directory that are looked at for a configuration. -/
def candidatesSeen (site : Site) (dir : String) : List String :=
  upToFirst site.isFile (candidateNames.map (joinPath dir))

/-- A directory gives a configuration, or an error. -/
def isConfigured (site : Site) (dir : String) : Bool :=
  match site.configIn dir with
  | .ok none => false
  | _ => true

/-- The files that are looked at for a configuration in the directories from some directory
upwards. -/
def configsSeen (site : Site) (dirs : List String) : List String :=
  (upToFirst site.isConfigured dirs).flatMap site.candidatesSeen

/-- The files that are looked at for the management script. -/
def scriptsSeen (site : Site) (dirs : List String) : List String :=
  (upToFirst (fun dir => site.isFile (joinPath dir scriptName)) dirs).map (joinPath · scriptName)

/-- The files that are looked at for the workspace of a directory. -/
def filesSeen (site : Site) (start : String) : List String :=
  site.configsSeen (ancestorsOf start) ++
    match site.firstConfigured (ancestorsOf start) with
    | .ok none => site.scriptsSeen (ancestorsOf start)
    | _ => []

section SameFiles

variable {site other : Site} {path dir start fallback : String} {names dirs : List String}

theorem isFile_of_sameFile (h : other.content? path = site.content? path) :
    other.isFile path = site.isFile path := by
  rw [isFile_eq, isFile_eq, h]

theorem readText_of_sameFile (h : other.content? path = site.content? path)
    (hfile : site.isFile path = true) : other.readText path = site.readText path := by
  rw [isFile_eq] at hfile
  obtain ⟨content, hcontent⟩ := Option.isSome_iff_exists.mp hfile
  rw [readText_of_content? hcontent, readText_of_content? (h.trans hcontent)]

theorem configAmong_of_sameFiles
    (h : ∀ path ∈ upToFirst site.isFile ((names ++ [projectFileName]).map (joinPath dir)),
      other.content? path = site.content? path) :
    other.configAmong dir names = site.configAmong dir names := by
  induction names with
  | nil =>
    obtain ⟨hproject, -⟩ := forall_mem_upToFirst_cons.mp h
    unfold configAmong configInProject readProject
    rw [isFile_of_sameFile hproject]
    cases hfile : site.isFile (joinPath dir projectFileName) with
    | false => rfl
    | true => rw [readText_of_sameFile hproject hfile]
  | cons name names ih =>
    obtain ⟨hname, hnames⟩ := forall_mem_upToFirst_cons.mp h
    unfold configAmong readConfig
    rw [isFile_of_sameFile hname]
    cases hfile : site.isFile (joinPath dir name) with
    | false => exact ih (hnames hfile)
    | true => rw [readText_of_sameFile hname hfile, if_pos rfl, if_pos rfl]

theorem configIn_of_sameFiles
    (h : ∀ path ∈ site.candidatesSeen dir, other.content? path = site.content? path) :
    other.configIn dir = site.configIn dir :=
  configAmong_of_sameFiles h

theorem firstConfigured_of_sameFiles
    (h : ∀ path ∈ site.configsSeen dirs, other.content? path = site.content? path) :
    other.firstConfigured dirs = site.firstConfigured dirs := by
  induction dirs with
  | nil => rfl
  | cons dir dirs ih =>
    obtain ⟨hdir, hdirs⟩ := forall_mem_upToFirst_cons.mp (List.forall_mem_flatMap.mp h)
    rw [firstConfigured, firstConfigured, configIn_of_sameFiles hdir]
    rcases hconfig : site.configIn dir with e | _ | found
    · rfl
    · exact ih (List.forall_mem_flatMap.mpr (hdirs (by rw [isConfigured, hconfig])))
    · rfl

theorem scriptRoot?_of_sameFiles
    (h : ∀ path ∈ site.scriptsSeen (ancestorsOf start), other.content? path = site.content? path) :
    other.scriptRoot? start = site.scriptRoot? start :=
  find?_congr_upToFirst fun dir hdir => isFile_of_sameFile (List.forall_mem_map.mp h dir hdir)

theorem workspaceOf_of_sameFiles (hstart : other.content? path = site.content? path)
    (h : ∀ file ∈ site.filesSeen (site.searchStart path),
      other.content? file = site.content? file) :
    other.workspaceOf path fallback = site.workspaceOf path fallback := by
  have hsame : other.searchStart path = site.searchStart path := by
    unfold searchStart
    rw [isFile_of_sameFile hstart]
  obtain ⟨hconfigs, hscripts⟩ := List.forall_mem_append.mp h
  unfold workspaceOf
  rw [hsame, firstConfigured_of_sameFiles hconfigs]
  rcases hfirst : site.firstConfigured (ancestorsOf (site.searchStart path)) with e | _ | found
  · rfl
  · rw [hfirst] at hscripts
    simp only [scriptRoot?_of_sameFiles hscripts]
  · rfl

end SameFiles

end Site

end TestCursor
