import Mathlib.Data.List.MinMax
import TestCursor.Cli.ScriptSearch
import TestCursor.Proofs.Lookup
import TestCursor.Proofs.NameOrder
import TestCursor.Proofs.PathsOfPlaces

/-!
# The script that lies least deep

The search for the management script collects the scripts by the depth they lie in. A walk that
enters each directory before it goes on to the next entry meets the same scripts in another order.

1. The walk meets the scripts that the rules admit, and no others (`mem_visited_iff`), in the order
   of their names' bytes (`pairwise_visited`).
2. The scripts of one depth are those of the walk that lie there (`scriptsAt_eq_filter`). So all
   scripts stand in the order of `Precedes`, the least deep ones first (`pairwise_scripts`), and the
   first of them precedes every other one.
3. That is the first one of the least depth that the walk meets (`argmin_visited`).
-/

namespace TestCursor

/-- A name that a directory on a disk can hold. -/
structure IsDiskName (name : String) : Prop extends IsEntryName name where
  no_nul : '\x00' ∉ name.toList
  short : name.utf8ByteSize ≤ maxNameBytes

instance (name : String) : Decidable (IsDiskName name) :=
  decidable_of_iff
    (IsEntryName name ∧ '\x00' ∉ name.toList ∧ name.utf8ByteSize ≤ maxNameBytes)
    ⟨fun ⟨h₁, h₂, h₃⟩ => ⟨h₁, h₂, h₃⟩, fun ⟨h₁, h₂, h₃⟩ => ⟨h₁, h₂, h₃⟩⟩

namespace FileTree

/-- A tree that a disk can hold: no directory has two entries of one name. -/
inductive IsProper : FileTree → Prop
  | file (content : ByteArray) (mode : Nat) : IsProper (.file content mode)
  | device (kind : Device) : IsProper (.device kind)
  | link (target : String) : IsProper (.link target)
  | dir {entries : List (String × FileTree)} (hdistinct : (entries.map Prod.fst).Nodup)
      (hnames : ∀ name ∈ entries.map Prod.fst, IsDiskName name)
      (hnodes : ∀ node ∈ entries.map Prod.snd, IsProper node) : IsProper (.dir entries)

section IsProper

variable {tree node : FileTree} {name : String} {place : Location}

theorem IsProper.nodup (h : tree.IsProper) : (tree.entries.map Prod.fst).Nodup := by
  cases h with
  | dir hdistinct hnames hnodes => exact hdistinct
  | _ => exact List.nodup_nil

theorem IsProper.entry?_eq_some_iff (h : tree.IsProper) :
    tree.entry? name = some node ↔ (name, node) ∈ tree.entries :=
  lookup_eq_some_iff_mem h.nodup

theorem IsProper.of_entry? (h : tree.IsProper) (hentry : tree.entry? name = some node) :
    IsDiskName name ∧ node.IsProper := by
  have hmem : (name, node) ∈ tree.entries := h.entry?_eq_some_iff.mp hentry
  cases h with
  | dir hdistinct hnames hnodes =>
    exact ⟨hnames name (List.mem_map_of_mem hmem), hnodes node (List.mem_map_of_mem hmem)⟩
  | _ => cases hmem

theorem get?_cons_of_child (h : tree.entry? name = some node) :
    tree.get? (name :: place) = node.get? place := by
  rw [get?, h]

theorem isFile_iff : tree.isFile = true ↔ ∃ content mode, tree = .file content mode := by
  cases tree <;> simp [isFile]

theorem get?_eq_dir_of_prefix {front : Location} (h : tree.get? place = some node)
    (hfront : front <+: place) (hne : front ≠ place) :
    ∃ entries, tree.get? front = some (.dir entries) := by
  obtain ⟨rest, rfl⟩ := hfront
  have hrest : rest ≠ [] := fun hnil => hne (by rw [hnil, List.append_nil])
  have hkind : tree.kindAt (front ++ rest) = some node.kind := by rw [kindAt, h]; rfl
  obtain ⟨dir, hdir, hdirKind⟩ := Option.map_eq_some_iff.mp (kindAt_eq_dir_of_append hkind hrest)
  obtain ⟨entries, rfl⟩ := kind_eq_dir.mp hdirKind
  exact ⟨entries, hdir⟩

end IsProper

end FileTree

namespace ScriptSearch

/-! ## What may be found -/

/-- A name that the search does not pass over. -/
def IsVisible (name : String) : Prop :=
  name.toList.head? ≠ some '.' ∧ name ∉ ["node_modules", "venv", "env", "__pycache__"]

/-- A script that may be found below a root. -/
structure IsCandidate (root : FileTree) (path : Location) : Prop where
  isScript : path.getLast? = some "manage.py"
  not_deep : path.length ≤ 3
  isVisible : ∀ name ∈ path, IsVisible name
  isFile : ∃ content mode, root.get? path = some (.file content mode)
  /-- It lies in directories, behind no link. -/
  isDir : ∀ above, above <+: path → above ≠ path → ∃ entries, root.get? above = some (.dir entries)

/-- The order in which scripts are preferred: less deep ones first, and of one depth those whose
names have the lesser bytes where the paths part. -/
def Precedes (path other : Location) : Prop :=
  path.length < other.length ∨ path.length = other.length ∧ List.Lex BytesPrecede path other

/-- The scripts that an entry leads to: itself, or those below it. -/
def fromEntry (below : FileTree → List Location) (name : String) (node : FileTree) :
    List Location :=
  if isSkipped name then []
  else
    (if node.isFile && name == scriptName then [[name]] else []) ++ (below node).map (name :: ·)

/-- The scripts down to a depth, in the order in which a walk meets them that enters each directory
before it goes on to the next entry. -/
def visited : Nat → FileTree → List Location
  | 0, _ => []
  | depth + 1, tree =>
    tree.sortedEntries.flatMap fun (name, node) => fromEntry (visited depth) name node

theorem isSkipped_eq_false_iff {name : String} : isSkipped name = false ↔ IsVisible name := by
  unfold isSkipped IsVisible
  rw [Bool.or_eq_false_iff, decide_eq_false_iff_not, ← Bool.not_eq_true, List.contains_iff_mem]
  rfl

section Walk

variable {tree node : FileTree} {name : String} {path rest : Location} {depth : Nat}
  {below : FileTree → List Location}

theorem mem_sortedEntries {entry : String × FileTree} :
    entry ∈ tree.sortedEntries ↔ entry ∈ tree.entries :=
  List.mem_mergeSort

/-- The entries of a directory are sorted by name, and no name stands there twice. -/
theorem pairwise_sortedEntries (hproper : tree.IsProper) :
    tree.sortedEntries.Pairwise fun entry other => entry.1 < other.1 := by
  have hsorted : tree.sortedEntries.Pairwise fun entry other => entry.1 ≤ other.1 := by
    refine (List.pairwise_mergeSort ?_ ?_ tree.entries).imp of_decide_eq_true
    · intro first second third h₁ h₂
      exact decide_eq_true (le_trans (of_decide_eq_true h₁) (of_decide_eq_true h₂))
    · intro first second
      rw [Bool.or_eq_true, decide_eq_true_eq, decide_eq_true_eq]
      exact le_total first.1 second.1
  have hperm : tree.sortedEntries.Perm tree.entries := List.mergeSort_perm _ _
  have hnodup : (tree.sortedEntries.map Prod.fst).Nodup :=
    (hperm.map Prod.fst).nodup_iff.mpr hproper.nodup
  exact (hsorted.and (List.pairwise_map.mp hnodup)).imp fun h => lt_of_le_of_ne h.1 h.2

theorem mem_fromEntry_iff : path ∈ fromEntry below name node ↔ IsVisible name ∧ ∃ rest,
    path = name :: rest ∧
      ((node.isFile = true ∧ name = scriptName ∧ rest = []) ∨ rest ∈ below node) := by
  rw [← isSkipped_eq_false_iff]
  unfold fromEntry
  cases isSkipped name with
  | true => simp
  | false =>
    rw [if_neg Bool.false_ne_true, List.mem_append, List.mem_map]
    constructor
    · rintro (hself | ⟨rest, hrest, rfl⟩)
      · split at hself
        · next hscript =>
          rw [Bool.and_eq_true, beq_iff_eq] at hscript
          exact ⟨rfl, [], List.mem_singleton.mp hself, .inl ⟨hscript.1, hscript.2, rfl⟩⟩
        · cases hself
      · exact ⟨rfl, rest, rfl, .inr hrest⟩
    · rintro ⟨-, rest, rfl, ⟨hfile, hname, rfl⟩ | hrest⟩
      · exact .inl (by simp [hfile, hname])
      · exact .inr ⟨rest, hrest, rfl⟩

theorem mem_visited_succ_iff (hproper : tree.IsProper) :
    path ∈ visited (depth + 1) tree ↔ ∃ name rest, path = name :: rest ∧ IsVisible name ∧
      ∃ node, tree.entry? name = some node ∧
        ((node.isFile = true ∧ name = scriptName ∧ rest = []) ∨ rest ∈ visited depth node) := by
  rw [visited, List.mem_flatMap]
  constructor
  · rintro ⟨⟨name, node⟩, hentry, hpath⟩
    obtain ⟨hvisible, rest, hcons, hrest⟩ := mem_fromEntry_iff.mp hpath
    exact ⟨name, rest, hcons, hvisible, node,
      hproper.entry?_eq_some_iff.mpr (mem_sortedEntries.mp hentry), hrest⟩
  · rintro ⟨name, rest, hcons, hvisible, node, hentry, hrest⟩
    exact ⟨(name, node), mem_sortedEntries.mpr (hproper.entry?_eq_some_iff.mp hentry),
      mem_fromEntry_iff.mpr ⟨hvisible, rest, hcons, hrest⟩⟩

/-- The walk meets the scripts down to its depth whose names are all visible. -/
theorem mem_visited_iff (hproper : tree.IsProper) :
    path ∈ visited depth tree ↔ path.getLast? = some scriptName ∧ path.length ≤ depth ∧
      (∀ name ∈ path, IsVisible name) ∧
      ∃ node, tree.get? path = some node ∧ node.isFile = true := by
  induction depth generalizing tree path with
  | zero =>
    constructor
    · intro hmem
      cases hmem
    · rintro ⟨hlast, hlength, -⟩
      obtain rfl := List.eq_nil_of_length_eq_zero (Nat.le_zero.mp hlength)
      cases hlast
  | succ depth ih =>
    rw [mem_visited_succ_iff hproper]
    constructor
    · rintro ⟨name, rest, rfl, hvisible, node, hentry, ⟨hfile, rfl, rfl⟩ | hrest⟩
      · exact ⟨rfl, by simp, by simpa using hvisible, node, FileTree.get?_cons_of_child hentry,
          hfile⟩
      · obtain ⟨hlast, hlength, hnames, hfound⟩ := (ih (hproper.of_entry? hentry).2).mp hrest
        refine ⟨by simp [List.getLast?_cons, hlast], Nat.succ_le_succ hlength,
          List.forall_mem_cons.mpr ⟨hvisible, hnames⟩, ?_⟩
        rwa [FileTree.get?_cons_of_child hentry]
    · rintro ⟨hlast, hlength, hnames, found, hfound, hfile⟩
      cases path with
      | nil => cases hlast
      | cons name rest =>
        obtain ⟨hvisible, hnames⟩ := List.forall_mem_cons.mp hnames
        cases hentry : tree.entry? name with
        | none => simp [FileTree.get?, hentry] at hfound
        | some node =>
          rw [FileTree.get?_cons_of_child hentry] at hfound
          refine ⟨name, rest, rfl, hvisible, node, hentry, ?_⟩
          cases rest with
          | nil =>
            obtain rfl := Option.some.inj hfound
            exact .inl ⟨hfile, Option.some.inj hlast, rfl⟩
          | cons next rest =>
            rw [List.getLast?_cons_cons] at hlast
            exact .inr ((ih (hproper.of_entry? hentry).2).mpr
              ⟨hlast, Nat.le_of_succ_le_succ hlength, hnames, found, hfound, hfile⟩)

theorem nil_not_mem_visited : [] ∉ visited depth tree := by
  intro hmem
  cases depth with
  | zero => cases hmem
  | succ depth =>
    obtain ⟨⟨name, node⟩, -, hpath⟩ := List.mem_flatMap.mp hmem
    obtain ⟨-, rest, hcons, -⟩ := mem_fromEntry_iff.mp hpath
    cases hcons

theorem pairwise_fromEntry (hnil : [] ∉ below node)
    (hbelow : (below node).Pairwise (List.Lex BytesPrecede)) :
    (fromEntry below name node).Pairwise (List.Lex BytesPrecede) := by
  have hdeeper : ((below node).map (name :: ·)).Pairwise (List.Lex BytesPrecede) :=
    List.pairwise_map.mpr (hbelow.imp fun hlex => .cons hlex)
  unfold fromEntry
  split
  · exact .nil
  · split
    · refine List.pairwise_cons.mpr ⟨fun path hpath => ?_, hdeeper⟩
      obtain ⟨rest, hrest, rfl⟩ := List.mem_map.mp hpath
      obtain ⟨first, others, rfl⟩ := List.exists_cons_of_ne_nil fun h => hnil (h ▸ hrest)
      exact .cons .nil
    · exact hdeeper

/-- The walk meets the scripts in the order of the bytes of their names. -/
theorem pairwise_visited (hproper : tree.IsProper) :
    (visited depth tree).Pairwise (List.Lex BytesPrecede) := by
  induction depth generalizing tree with
  | zero => exact .nil
  | succ depth ih =>
    rw [visited, List.pairwise_flatMap]
    constructor
    · rintro ⟨name, node⟩ hentry
      have hnode : node.IsProper :=
        (hproper.of_entry? (hproper.entry?_eq_some_iff.mpr (mem_sortedEntries.mp hentry))).2
      exact pairwise_fromEntry nil_not_mem_visited (ih hnode)
    · refine (pairwise_sortedEntries hproper).imp ?_
      rintro ⟨name, node⟩ ⟨other, otherNode⟩ hlt path hpath otherPath hotherPath
      obtain ⟨-, rest, rfl, -⟩ := mem_fromEntry_iff.mp hpath
      obtain ⟨-, otherRest, rfl, -⟩ := mem_fromEntry_iff.mp hotherPath
      exact .rel (bytesPrecede_of_lt hlt)

end Walk

/-! ## The scripts by depth -/

section Order

variable {root tree node : FileTree} {name : String} {path other : Location} {depth limit : Nat}
  {below : FileTree → List Location}

theorem filter_fromEntry (hnil : [] ∉ below node) :
    (fromEntry below name node).filter (·.length = depth + 1) =
      if isSkipped name then []
      else if depth = 0 then (if node.isFile && name == scriptName then [[name]] else [])
      else ((below node).filter (·.length = depth)).map (name :: ·) := by
  have hdeeper : ((below node).map (name :: ·)).filter (·.length = depth + 1) =
      ((below node).filter (·.length = depth)).map (name :: ·) := by
    rw [List.filter_map]
    congr 2
    funext rest
    simp
  unfold fromEntry
  split
  · rfl
  · rw [List.filter_append, hdeeper]
    by_cases hzero : depth = 0
    · have hnone : (below node).filter (·.length = depth) = [] := by
        refine List.filter_eq_nil_iff.mpr fun path hpath hlength => hnil ?_
        rwa [List.eq_nil_of_length_eq_zero ((of_decide_eq_true hlength).trans hzero)] at hpath
      rw [if_pos hzero, hnone, hzero, List.map_nil, List.append_nil]
      split <;> simp
    · rw [if_neg hzero]
      have hself : (if node.isFile && name == scriptName then [[name]] else []).filter
          (·.length = depth + 1) = [] := by split <;> simp [hzero]
      rw [hself, List.nil_append]

theorem scriptsAt_eq_filter (h : depth ≤ limit) :
    scriptsAt depth tree = (visited limit tree).filter (·.length = depth) := by
  induction limit generalizing depth tree with
  | zero =>
    obtain rfl := Nat.le_zero.mp h
    rfl
  | succ limit ih =>
    cases depth with
    | zero =>
      refine (List.filter_eq_nil_iff.mpr fun path hpath hzero => ?_).symm
      obtain rfl := List.eq_nil_of_length_eq_zero (of_decide_eq_true hzero)
      exact nil_not_mem_visited hpath
    | succ depth =>
      rw [scriptsAt, visited, List.filter_flatMap]
      congr 1
      funext ⟨name, node⟩
      show _ = (fromEntry (visited limit) name node).filter _
      rw [filter_fromEntry nil_not_mem_visited]
      simp only [ih (Nat.le_of_succ_le_succ h)]

theorem not_precedes_of_precedes (h : Precedes path other) : ¬Precedes other path := by
  unfold Precedes at h ⊢
  rintro (hlt | ⟨hlength, hlex⟩)
  · omega
  · rcases h with hlt | ⟨-, h⟩
    · omega
    · exact List.lex_asymm (fun h => not_bytesPrecede_of_bytesPrecede h) h hlex

theorem scripts_eq : scripts tree = (List.range 3).flatMap fun depth =>
    (visited 3 tree).filter (·.length = depth + 1) := by
  unfold scripts maxDepth
  refine List.flatMap_congr fun depth hdepth => ?_
  exact scriptsAt_eq_filter (List.mem_range.mp hdepth)

/-- The search finds what the walk meets. -/
theorem mem_scripts_iff (hproper : tree.IsProper) :
    path ∈ scripts tree ↔ path ∈ visited 3 tree := by
  rw [scripts_eq, List.mem_flatMap]
  constructor
  · rintro ⟨depth, -, hpath⟩
    exact (List.mem_filter.mp hpath).1
  · intro hpath
    obtain ⟨-, hlength, -⟩ := (mem_visited_iff hproper).mp hpath
    have hne : path.length ≠ 0 := fun hzero =>
      nil_not_mem_visited (List.eq_nil_of_length_eq_zero hzero ▸ hpath)
    exact ⟨path.length - 1, List.mem_range.mpr (by omega),
      List.mem_filter.mpr ⟨hpath, decide_eq_true (by omega)⟩⟩

theorem pairwise_scripts (hproper : tree.IsProper) : (scripts tree).Pairwise Precedes := by
  rw [scripts_eq, List.pairwise_flatMap]
  constructor
  · intro depth hdepth
    refine ((pairwise_visited hproper).filter _).imp_of_mem fun hpath hother hlex => ?_
    have hlength := of_decide_eq_true (List.mem_filter.mp hpath).2
    have hotherLength := of_decide_eq_true (List.mem_filter.mp hother).2
    exact .inr ⟨hlength.trans hotherLength.symm, hlex⟩
  · refine List.pairwise_lt_range.imp fun hlt path hpath other hother => ?_
    have hlength := of_decide_eq_true (List.mem_filter.mp hpath).2
    have hotherLength := of_decide_eq_true (List.mem_filter.mp hother).2
    exact .inl (by omega)

end Order

/-! ## The first script -/

section First

variable {α : Type} [DecidableEq α] {rel : α → α → Prop} {measure : α → Nat} {first other : α}
  {items : List α}

/-- The first of the items with the least measure stands before the others that have it too. -/
theorem rel_of_mem_argmin (hitems : items.Pairwise rel) (h : first ∈ items.argmin measure)
    (hother : other ∈ items) (hmeasure : measure first = measure other) (hne : other ≠ first) :
    rel first other := by
  obtain ⟨hmem, -, hfirst⟩ := List.mem_argmin_iff.mp h
  have hindex : items.idxOf first < items.idxOf other :=
    lt_of_le_of_ne (hfirst other hother hmeasure.ge) fun heq =>
      hne ((List.idxOf_inj hmem).mp heq).symm
  have hrel := List.pairwise_iff_getElem.mp hitems _ _
    (List.idxOf_lt_length_iff.mpr hmem) (List.idxOf_lt_length_iff.mpr hother) hindex
  rwa [List.getElem_idxOf, List.getElem_idxOf] at hrel

omit [DecidableEq α] in
/-- The first item of a list in order is the one that precedes all others. -/
theorem head?_eq_some_iff_of_pairwise (hasymm : ∀ {x y}, rel x y → ¬rel y x)
    (hitems : items.Pairwise rel) :
    items.head? = some first ↔
      first ∈ items ∧ ∀ other ∈ items, other ≠ first → rel first other := by
  cases items with
  | nil => simp
  | cons item items =>
    obtain ⟨hitem, -⟩ := List.pairwise_cons.mp hitems
    rw [List.head?_cons, Option.some.injEq]
    constructor
    · rintro rfl
      exact ⟨List.mem_cons_self, fun other hother hne =>
        hitem other ((List.mem_cons.mp hother).resolve_left hne)⟩
    · rintro ⟨hfirst, hleast⟩
      rcases List.mem_cons.mp hfirst with rfl | hfirst
      · rfl
      · by_cases hne : item = first
        · exact hne
        · exact absurd (hleast item List.mem_cons_self hne) (hasymm (hitem first hfirst))

end First

section Find

variable {root : FileTree} {path other : Location}

theorem isCandidate_iff (hproper : root.IsProper) :
    IsCandidate root path ↔ path ∈ visited 3 root := by
  rw [mem_visited_iff hproper]
  constructor
  · rintro ⟨hscript, hdepth, hvisible, ⟨content, mode, hfile⟩, -⟩
    exact ⟨hscript, hdepth, hvisible, _, hfile, rfl⟩
  · rintro ⟨hscript, hdepth, hvisible, node, hnode, hfile⟩
    obtain ⟨content, mode, rfl⟩ := FileTree.isFile_iff.mp hfile
    exact ⟨hscript, hdepth, hvisible, ⟨content, mode, hnode⟩,
      fun above => FileTree.get?_eq_dir_of_prefix hnode⟩

theorem find?_of_isDir (name : String) (hroot : root.isDir = true) :
    find? name root = (scripts root).head? := by
  have hfile : root.isFile = false := by cases root <;> first | rfl | cases hroot
  unfold find?
  rw [hfile, Bool.false_and, if_neg Bool.false_ne_true]

/-- The first of the least deep scripts that the walk meets precedes all others. -/
theorem head?_scripts_eq_argmin (hproper : root.IsProper) :
    (scripts root).head? = (visited 3 root).argmin List.length := by
  cases hfirst : (visited 3 root).argmin List.length with
  | none =>
    have hnone : visited 3 root = [] := List.argmin_eq_none.mp hfirst
    rw [List.head?_eq_none_iff, List.eq_nil_iff_forall_not_mem]
    intro path hpath
    rw [mem_scripts_iff hproper, hnone] at hpath
    cases hpath
  | some path =>
    rw [head?_eq_some_iff_of_pairwise not_precedes_of_precedes (pairwise_scripts hproper)]
    simp only [mem_scripts_iff hproper]
    refine ⟨List.argmin_mem hfirst, fun other hother hne => ?_⟩
    rcases Nat.lt_or_eq_of_le (List.le_of_mem_argmin hother hfirst) with hlt | hlength
    · exact .inl hlt
    · exact .inr ⟨hlength,
        rel_of_mem_argmin (pairwise_visited hproper) hfirst hother hlength hne⟩

theorem isCandidate_of_find? {name : String} (hroot : root.isDir = true) (hproper : root.IsProper)
    (h : find? name root = some path) : IsCandidate root path := by
  rw [find?_of_isDir name hroot] at h
  exact (isCandidate_iff hproper).mpr ((mem_scripts_iff hproper).mp (List.mem_of_mem_head? h))

end Find

/-- The search below a directory, whatever its name: a script is found exactly when there is one
that may be found, and it is the one that precedes all others. This is the first one of the least
depth that a walk meets. -/
theorem find?_eq_some_iff_least (name : String) {root : FileTree} (hroot : root.isDir = true)
    (hproper : root.IsProper) :
    ((∃ path, find? name root = some path) ↔ ∃ path, IsCandidate root path) ∧
      (∀ path, find? name root = some path ↔
        IsCandidate root path ∧ ∀ other, IsCandidate root other → other ≠ path →
          Precedes path other) ∧
      find? name root = (visited 3 root).argmin List.length := by
  rw [find?_of_isDir name hroot]
  simp only [isCandidate_iff hproper, ← mem_scripts_iff hproper]
  refine ⟨⟨?_, ?_⟩, fun path => ?_, head?_scripts_eq_argmin hproper⟩
  · rintro ⟨path, hpath⟩
    exact ⟨path, List.mem_of_mem_head? hpath⟩
  · rintro ⟨path, hpath⟩
    exact Option.isSome_iff_exists.mp (List.isSome_head?.mpr (List.ne_nil_of_mem hpath))
  · exact head?_eq_some_iff_of_pairwise not_precedes_of_precedes (pairwise_scripts hproper)

/-- A directory with two scripts of the same depth, a deeper one, a hidden one and a link. -/
def sampleTree : FileTree :=
  let script : String × FileTree := ("manage.py", .file ByteArray.empty newFileMode)
  .dir [("site", .dir [script]), ("back", .dir [("apps", .dir [script]), script]),
    ("app", .dir [("manage.py", .link "../site/manage.py")]), (".venv", .dir [script])]

theorem isProper_sampleTree : sampleTree.IsProper := by
  have hscript : (FileTree.dir [("manage.py", .file ByteArray.empty newFileMode)]).IsProper :=
    .dir (by decide) (by decide) (by simp [FileTree.IsProper.file])
  have happ : (FileTree.dir [("manage.py", .link "../site/manage.py")]).IsProper :=
    .dir (by decide) (by decide) (by simp [FileTree.IsProper.link])
  have hback : (FileTree.dir [("apps", .dir [("manage.py", .file ByteArray.empty newFileMode)]),
      ("manage.py", .file ByteArray.empty newFileMode)]).IsProper :=
    .dir (by decide) (by decide) (by simp [hscript, FileTree.IsProper.file])
  exact .dir (by decide) (by decide) (by simp [hscript, happ, hback])

theorem find?_eq_some_iff_least_sampleTree :
    sampleTree.isDir = true ∧ sampleTree.IsProper ∧
      find? "venv" sampleTree = some ["back", "manage.py"] ∧
      IsCandidate sampleTree ["back", "manage.py"] ∧
      ∀ other, IsCandidate sampleTree other → other ≠ ["back", "manage.py"] →
        Precedes ["back", "manage.py"] other := by
  have hfound : find? "venv" sampleTree = some ["back", "manage.py"] := by
    simp +decide [find?, scripts, maxDepth, scriptsAt, List.range, List.range.loop, sampleTree,
      FileTree.sortedEntries, FileTree.entries, List.mergeSort,
      List.MergeSort.Internal.splitInTwo, List.splitAt, List.splitAt.go, FileTree.isFile, isSkipped,
      skippedNames, scriptName]
  exact ⟨rfl, isProper_sampleTree, hfound,
    ((find?_eq_some_iff_least "venv" rfl isProper_sampleTree).2.1 _).mp hfound⟩

end ScriptSearch

end TestCursor
