import TestCursor.Proofs.Lookup
import TestCursor.Workspace

/-!
# What was written is read back

Writing to a path and reading from it walk the tree in two ways: the writer refuses a separator
at the end, may stop in a directory that lacks the last name, and goes by the tree from before.

1. A walk sees only the kinds of nodes: directory, link with its target, or neither
   (`walkWith_cons`). The walks that end somewhere are a relation with one rule for each kind of
   step (`walk_eq_ok_iff`), and what follows is by induction on it.
2. A file put in a place that held no directory changes no kind anywhere else
   (`kindAt_put_of_ne`).
3. A walk ends at a node that is no link, or in a directory (`Walks.rests`). So the walk that
   found the place to write, taken again with a file there, ends at that file
   (`Walks.here_of_same`).
4. What was written is then what the path names, except that a device keeps nothing
   (`node?_of_writeBytes`).
5. Where a path leads to a regular file, or to a directory that lacks nothing but the last name,
   writing succeeds (`exists_writeText`): only a path to a directory can end in a separator
   (`Walks.dir_of_getLast?`).
-/

namespace TestCursor

/-- Where a walk ended, or where the name it lacked would stand. -/
def Arrival.spot : Arrival → Location
  | .here place => place
  | .absent parent name => parent ++ [name]

namespace FileTree

/-! ## Kinds of nodes -/

/-- What a walk sees of a node. -/
inductive Kind
  | dir
  | link (target : String)
  /-- A file or a device. -/
  | leaf
  deriving DecidableEq, Repr

def kind : FileTree → Kind
  | .file _ _ => .leaf
  | .device _ => .leaf
  | .link target => .link target
  | .dir _ => .dir

def kindAt (tree : FileTree) (place : Location) : Option Kind := (tree.get? place).map kind

theorem kind_eq_dir {tree : FileTree} : tree.kind = .dir ↔ ∃ entries, tree = .dir entries := by
  cases tree <;> simp [kind]

theorem entry?_of_kind_ne_dir {tree : FileTree} (h : tree.kind ≠ .dir) (name : String) :
    tree.entry? name = none := by
  cases tree with
  | dir entries => exact absurd rfl h
  | _ => rfl

theorem get?_append (tree : FileTree) (place rest : Location) :
    tree.get? (place ++ rest) = (tree.get? place).bind fun node => node.get? rest := by
  induction place generalizing tree with
  | nil => rfl
  | cons name place ih =>
    simp only [List.cons_append, get?]
    cases tree.entry? name with
    | none => rfl
    | some child => exact ih child

theorem get?_singleton (tree : FileTree) (name : String) : tree.get? [name] = tree.entry? name := by
  simp only [get?]
  cases tree.entry? name <;> rfl

theorem kindAt_of_kindAt_snoc {tree : FileTree} {parent : Location} {name : String} {kind : Kind}
    (h : tree.kindAt (parent ++ [name]) = some kind) : tree.kindAt parent = some .dir := by
  simp only [kindAt, get?_append] at h
  cases hparent : tree.get? parent with
  | none => simp [hparent] at h
  | some node =>
    simp only [hparent, Option.bind_some, get?_singleton] at h
    cases node with
    | dir entries => simp [kindAt, hparent, FileTree.kind]
    | _ => cases h

theorem kindAt_dropLast {tree : FileTree} {place : Location} (h : tree.kindAt place = some .dir) :
    tree.kindAt place.dropLast = some .dir := by
  cases hplace : place.getLast? with
  | none =>
    obtain rfl := List.getLast?_eq_none_iff.mp hplace
    exact h
  | some name =>
    obtain ⟨parent, rfl⟩ := List.getLast?_eq_some_iff.mp hplace
    rw [List.dropLast_concat]
    exact kindAt_of_kindAt_snoc h

/-- A walk goes by the kinds of nodes alone. -/
theorem walkWith_cons (tree : FileTree) (purpose : Purpose)
    (jump : Location → List String → Except FileError Arrival) (place : Location)
    (piece : String) (rest : List String) :
    walkWith tree purpose jump place (piece :: rest) =
      match tree.kindAt place with
      | some .dir =>
        if piece = "" ∨ piece = "." then walkWith tree purpose jump place rest
        else if piece = ".." then walkWith tree purpose jump place.dropLast rest
        else if purpose = .writing ∧ endsInSeparators rest then .error .isDirectory
        else if maxNameBytes < piece.utf8ByteSize then .error .nameTooLong
        else
          match tree.kindAt (place ++ [piece]) with
          | none => if rest.isEmpty then .ok (.absent place piece) else .error .notFound
          | some (.link target) =>
            if rest.isEmpty && purpose == .entry then .ok (.here (place ++ [piece]))
            else jump (startOf place target) (splitString '/' target ++ rest)
          | some _ => walkWith tree purpose jump (place ++ [piece]) rest
      | some _ => .error .notDirectory
      | none => .error .notFound := by
  rw [walkWith, kindAt]
  cases hplace : tree.get? place with
  | none => rfl
  | some node =>
    cases node with
    | dir entries =>
      have hpiece : tree.kindAt (place ++ [piece]) = (entries.lookup piece).map kind := by
        rw [kindAt, get?_append, hplace, Option.bind_some, get?_singleton]
        rfl
      rw [hpiece]
      simp only [Option.map_some, kind]
      cases entries.lookup piece with
      | none => rfl
      | some child => cases child <;> rfl
    | _ => rfl

/-! ## Walks that end somewhere -/

/-- A piece that names an entry, in front of the pieces that follow it. -/
structure Names (purpose : Purpose) (piece : String) (rest : List String) : Prop where
  not_here : ¬(piece = "" ∨ piece = ".")
  not_up : piece ≠ ".."
  not_closed : ¬(purpose = .writing ∧ endsInSeparators rest)
  short : ¬maxNameBytes < piece.utf8ByteSize

/-- A walk that ends somewhere, step by step, for what a path names. -/
inductive Walks (tree : FileTree) (purpose : Purpose) :
    Nat → Location → List String → Arrival → Prop
  | stop (links : Nat) (place : Location) : Walks tree purpose links place [] (.here place)
  | skip {links : Nat} {place : Location} {piece : String} {rest : List String}
      {arrival : Arrival} (hdir : tree.kindAt place = some .dir) (hpiece : piece = "" ∨ piece = ".")
      (next : Walks tree purpose links place rest arrival) :
      Walks tree purpose links place (piece :: rest) arrival
  | up {links : Nat} {place : Location} {rest : List String} {arrival : Arrival}
      (hdir : tree.kindAt place = some .dir)
      (next : Walks tree purpose links place.dropLast rest arrival) :
      Walks tree purpose links place (".." :: rest) arrival
  | missing {links : Nat} {place : Location} {name : String}
      (hdir : tree.kindAt place = some .dir) (hname : Names purpose name [])
      (hnone : tree.kindAt (place ++ [name]) = none) :
      Walks tree purpose links place [name] (.absent place name)
  | jump {links : Nat} {place : Location} {name target : String} {rest : List String}
      {arrival : Arrival} (hdir : tree.kindAt place = some .dir)
      (hname : Names purpose name rest)
      (hlink : tree.kindAt (place ++ [name]) = some (.link target))
      (next : Walks tree purpose links (startOf place target) (splitString '/' target ++ rest)
        arrival) :
      Walks tree purpose (links + 1) place (name :: rest) arrival
  | enter {links : Nat} {place : Location} {name : String} {rest : List String}
      {arrival : Arrival} {kind : Kind} (hdir : tree.kindAt place = some .dir)
      (hname : Names purpose name rest) (hkind : tree.kindAt (place ++ [name]) = some kind)
      (hlink : ∀ target, kind ≠ .link target)
      (next : Walks tree purpose links (place ++ [name]) rest arrival) :
      Walks tree purpose links place (name :: rest) arrival

section Walks

variable {tree : FileTree} {purpose : Purpose} {links : Nat} {place : Location}
  {pieces rest : List String} {piece : String} {arrival : Arrival}

theorem walkWith_of_names {jump : Location → List String → Except FileError Arrival}
    (hdir : tree.kindAt place = some .dir) (h : Names purpose piece rest) :
    walkWith tree purpose jump place (piece :: rest) =
      match tree.kindAt (place ++ [piece]) with
      | none => if rest.isEmpty then .ok (.absent place piece) else .error .notFound
      | some (.link target) =>
        if rest.isEmpty && purpose == .entry then .ok (.here (place ++ [piece]))
        else jump (startOf place target) (splitString '/' target ++ rest)
      | some _ => walkWith tree purpose jump (place ++ [piece]) rest := by
  rw [walkWith_cons, hdir]
  simp only
  rw [if_neg h.not_here, if_neg h.not_up, if_neg h.not_closed, if_neg h.short]

/-- What the steps of one piece come to when links lead on by `jump`. -/
theorem walks_of_walkWith (hpurpose : purpose ≠ .entry)
    {jump : Location → List String → Except FileError Arrival}
    (hjump : ∀ {place name target rest}, tree.kindAt place = some .dir →
      Names purpose name rest → tree.kindAt (place ++ [name]) = some (.link target) →
      jump (startOf place target) (splitString '/' target ++ rest) = .ok arrival →
      Walks tree purpose links place (name :: rest) arrival)
    (h : walkWith tree purpose jump place pieces = .ok arrival) :
    Walks tree purpose links place pieces arrival := by
  induction pieces generalizing place with
  | nil =>
    obtain rfl := Except.ok.inj h
    exact .stop links place
  | cons piece rest ih =>
    have hdir : tree.kindAt place = some .dir := by
      rw [walkWith_cons] at h
      split at h
      · assumption
      · cases h
      · cases h
    by_cases hhere : piece = "" ∨ piece = "."
    · rw [walkWith_cons, hdir] at h
      simp only [if_pos hhere] at h
      exact .skip hdir hhere (ih h)
    by_cases hup : piece = ".."
    · rw [walkWith_cons, hdir] at h
      simp only [if_neg hhere, if_pos hup] at h
      subst hup
      exact .up hdir (ih h)
    have hname : Names purpose piece rest := by
      rw [walkWith_cons, hdir] at h
      simp only [if_neg hhere, if_neg hup] at h
      refine ⟨hhere, hup, fun hclosed => ?_, fun hlong => ?_⟩
      · rw [if_pos hclosed] at h
        cases h
      · rw [if_pos hlong] at h
        split at h <;> cases h
    rw [walkWith_of_names hdir hname] at h
    cases hkind : tree.kindAt (place ++ [piece]) with
    | none =>
      rw [hkind] at h
      cases rest with
      | nil =>
        obtain rfl := Except.ok.inj h
        exact .missing hdir hname hkind
      | cons next rest => cases h
    | some kind =>
      rw [hkind] at h
      cases kind with
      | link target =>
        have hentry : (rest.isEmpty && purpose == .entry) = false := by simp [hpurpose]
        simp only [hentry, Bool.false_eq_true, if_false] at h
        exact hjump hdir hname hkind h
      | dir => exact .enter hdir hname hkind (by simp) (ih h)
      | leaf => exact .enter hdir hname hkind (by simp) (ih h)

/-- The walks that end somewhere are those that are done step by step. -/
theorem walk_eq_ok_iff (hpurpose : purpose ≠ .entry) :
    walk tree purpose links place pieces = .ok arrival ↔
      Walks tree purpose links place pieces arrival := by
  constructor
  · intro h
    induction links generalizing place pieces with
    | zero => exact walks_of_walkWith hpurpose (fun _ _ _ h => by cases h) h
    | succ links ih =>
      exact walks_of_walkWith hpurpose (fun hdir hname hlink h => .jump hdir hname hlink (ih h)) h
  · intro h
    induction h with
    | stop links place => cases links <;> rfl
    | @skip links place piece rest _ hdir hpiece _ ih =>
      cases links <;> (rw [walk, walkWith_cons, hdir]; simp only [if_pos hpiece]; exact ih)
    | @up links place rest _ hdir _ ih =>
      cases links <;> (rw [walk, walkWith_cons, hdir]; exact ih)
    | @missing links place name hdir hname hnone =>
      cases links <;> (rw [walk, walkWith_of_names hdir hname, hnone]; rfl)
    | @jump links place name target rest _ hdir hname hlink _ ih =>
      have hentry : (rest.isEmpty && purpose == .entry) = false := by simp [hpurpose]
      rw [walk, walkWith_of_names hdir hname, hlink]
      simp only [hentry, Bool.false_eq_true, if_false]
      exact ih
    | @enter links place name rest _ kind hdir hname hkind hlink _ ih =>
      cases kind with
      | link target => exact absurd rfl (hlink target)
      | dir | leaf =>
        cases links <;> (rw [walk, walkWith_of_names hdir hname, hkind]; exact ih)

end Walks

/-! ## Putting a node -/

theorem lookup_putEntry (name other : String) (node : FileTree)
    (entries : List (String × FileTree)) :
    (putEntry name node entries).lookup other =
      if other = name then some node else entries.lookup other := by
  induction entries with
  | nil => exact lookup_cons_eq_ite other
  | cons entry entries ih =>
    obtain ⟨first, old⟩ := entry
    rw [putEntry]
    by_cases hfirst : first = name
    · subst hfirst
      rw [if_pos rfl, lookup_cons_eq_ite, lookup_cons_eq_ite]
      by_cases h : other = first <;> simp [h]
    · rw [if_neg hfirst, lookup_cons_eq_ite, lookup_cons_eq_ite, ih]
      by_cases h : other = first
      · subst h
        simp [hfirst]
      · rw [if_neg h, if_neg h]

theorem kind_put_cons (tree node : FileTree) (name : String) (place : Location) :
    (tree.put (name :: place) node).kind = tree.kind := by
  cases tree with
  | dir entries =>
    rw [put]
    split
    · rfl
    · split <;> rfl
  | _ => rfl

theorem entry?_put_singleton {tree : FileTree} (h : tree.kind = .dir) (name other : String)
    (node : FileTree) :
    FileTree.entry? (tree.put [name] node) other =
      if other = name then some node else tree.entry? other := by
  obtain ⟨entries, rfl⟩ := kind_eq_dir.mp h
  exact lookup_putEntry name other node entries

theorem entry?_put_cons {tree child : FileTree} {name : String}
    (h : tree.entry? name = some child) {place : Location} (hplace : place ≠ [])
    (other : String) (node : FileTree) :
    FileTree.entry? (tree.put (name :: place) node) other =
      if other = name then some (child.put place node) else tree.entry? other := by
  cases tree with
  | dir entries =>
    have hchild : entries.lookup name = some child := h
    rw [put, if_neg (by simpa using hplace), hchild]
    exact lookup_putEntry name other _ entries
  | _ => cases h

theorem put_cons_of_entry?_eq_none {tree : FileTree} {name : String}
    (h : tree.entry? name = none) {place : Location} (hplace : place ≠ []) (node : FileTree) :
    tree.put (name :: place) node = tree := by
  cases tree with
  | dir entries =>
    have hchild : entries.lookup name = none := h
    rw [put, if_neg (by simpa using hplace), hchild]
  | _ => rfl

theorem entry?_put_self {tree child : FileTree} {name : String}
    (h : tree.entry? name = some child) (place : Location) (node : FileTree) :
    FileTree.entry? (tree.put (name :: place) node) name = some (child.put place node) := by
  by_cases hplace : place = []
  · have htree : tree.kind = .dir := by
      by_contra hdir
      cases (entry?_of_kind_ne_dir hdir name).symm.trans h
    rw [hplace, entry?_put_singleton htree, if_pos rfl, put]
  · rw [entry?_put_cons h hplace, if_pos rfl]

theorem entry?_put_of_ne {name other : String} (h : other ≠ name) (tree : FileTree)
    (place : Location) (node : FileTree) :
    FileTree.entry? (tree.put (name :: place) node) other = tree.entry? other := by
  by_cases hplace : place = []
  · subst hplace
    by_cases htree : tree.kind = .dir
    · rw [entry?_put_singleton htree, if_neg h]
    · have hsame : (tree.put [name] node).kind ≠ .dir := by rwa [kind_put_cons]
      rw [entry?_of_kind_ne_dir htree, entry?_of_kind_ne_dir hsame]
  · cases hchild : tree.entry? name with
    | none => rw [put_cons_of_entry?_eq_none hchild hplace]
    | some child => rw [entry?_put_cons hchild hplace, if_neg h]

theorem get?_put_snoc {tree : FileTree} {parent : Location} (name : String) (node : FileTree)
    (h : tree.kindAt parent = some .dir) :
    (tree.put (parent ++ [name]) node).get? (parent ++ [name]) = some node := by
  induction parent generalizing tree with
  | nil =>
    rw [List.nil_append, get?_singleton, entry?_put_singleton (Option.some.inj h), if_pos rfl]
  | cons first parent ih =>
    rw [kindAt, get?] at h
    cases hchild : tree.entry? first with
    | none => simp [hchild] at h
    | some child =>
      rw [hchild] at h
      rw [List.cons_append, get?, entry?_put_self hchild]
      exact ih h

theorem get?_of_kind_ne_dir {tree : FileTree} {place : Location} (h : tree.kind ≠ .dir)
    (hplace : place ≠ []) : tree.get? place = none := by
  obtain ⟨name, place, rfl⟩ := List.exists_cons_of_ne_nil hplace
  rw [get?, entry?_of_kind_ne_dir h]

/-- A node that is no directory, put where no directory was, changes no kind anywhere else. -/
theorem kindAt_put_of_ne {tree node : FileTree} {place other : Location}
    (hold : tree.kindAt place ≠ some .dir) (hnew : node.kind ≠ .dir) (h : other ≠ place) :
    (tree.put place node).kindAt other = tree.kindAt other := by
  induction place generalizing tree other with
  | nil =>
    have htree : tree.kind ≠ .dir := fun hdir => hold (congrArg some hdir)
    rw [put, kindAt, kindAt, get?_of_kind_ne_dir hnew h, get?_of_kind_ne_dir htree h]
  | cons name place ih =>
    cases other with
    | nil => exact congrArg some (kind_put_cons tree node name place)
    | cons first rest =>
      rw [kindAt, get?] at hold
      rw [kindAt, kindAt, get?, get?]
      by_cases hfirst : first = name
      · subst hfirst
        have hrest : rest ≠ place := fun hrest => h (by rw [hrest])
        cases hchild : tree.entry? first with
        | some child =>
          rw [entry?_put_self hchild]
          rw [hchild] at hold
          exact ih hold hrest
        | none =>
          by_cases hplace : place = []
          · subst hplace
            by_cases htree : tree.kind = .dir
            · rw [entry?_put_singleton htree, if_pos rfl]
              simp [get?_of_kind_ne_dir hnew hrest]
            · rw [entry?_of_kind_ne_dir (by rwa [kind_put_cons])]
          · rw [put_cons_of_entry?_eq_none hchild hplace, hchild]
      · rw [entry?_put_of_ne hfirst]

/-- A file is not touched by a node that is put elsewhere, where no directory was. -/
theorem get?_put_of_ne {tree found : FileTree} {place other : Location}
    (hold : tree.kindAt place ≠ some .dir) (hfound : tree.get? other = some found)
    (hkind : found.kind ≠ .dir) (h : other ≠ place) (node : FileTree) :
    (tree.put place node).get? other = some found := by
  induction place generalizing tree other with
  | nil =>
    have htree : tree.kind ≠ .dir := fun hdir => hold (congrArg some hdir)
    cases (get?_of_kind_ne_dir htree h).symm.trans hfound
  | cons name place ih =>
    cases other with
    | nil =>
      obtain rfl := Option.some.inj hfound
      cases tree with
      | dir entries => exact absurd rfl hkind
      | _ => rfl
    | cons first rest =>
      rw [get?] at hfound ⊢
      rw [kindAt, get?] at hold
      by_cases hfirst : first = name
      · subst hfirst
        cases hchild : tree.entry? first with
        | none => simp [hchild] at hfound
        | some child =>
          rw [hchild] at hold hfound
          rw [entry?_put_self hchild]
          exact ih hold hfound fun hrest => h (by rw [hrest])
      · rwa [entry?_put_of_ne hfirst]

/-! ## Where a walk ends -/

/-- A walk ends at a node that is no link, or lacks only a name that a directory can take. -/
def Rests (tree : FileTree) : Arrival → Prop
  | .here place => tree.kindAt place = some .dir ∨ tree.kindAt place = some .leaf
  | .absent parent name =>
    tree.kindAt parent = some .dir ∧ tree.kindAt (parent ++ [name]) = none

section Ends

variable {tree : FileTree} {purpose : Purpose} {links : Nat} {place : Location}
  {pieces rest : List String} {piece : String} {arrival : Arrival}

theorem Walks.rests (h : Walks tree purpose links place pieces arrival)
    (hstart : pieces ≠ []) : tree.Rests arrival := by
  replace hstart : pieces = [] → tree.Rests (.here place) := fun hnil => absurd hnil hstart
  induction h with
  | stop links place => exact hstart rfl
  | skip hdir _ _ ih => exact ih fun _ => .inl hdir
  | up hdir _ ih => exact ih fun _ => .inl (kindAt_dropLast hdir)
  | missing hdir _ hnone => exact ⟨hdir, hnone⟩
  | @jump _ _ _ target _ _ _ _ _ _ ih =>
    refine ih fun hnil => ?_
    have hsplit := (List.append_eq_nil_iff.mp hnil).1
    exact absurd (List.map_eq_nil_iff.mp hsplit) (splitOn_ne_nil '/' target.toList)
  | @enter _ _ _ _ _ kind _ _ hkind hlink _ ih =>
    refine ih fun _ => ?_
    cases kind with
    | dir => exact .inl hkind
    | link target => exact absurd rfl (hlink target)
    | leaf => exact .inr hkind

theorem getLast?_of_endsInSeparators (h : endsInSeparators rest = true) :
    rest.getLast? = some "" := by
  simp only [endsInSeparators, Bool.and_eq_true, List.all_eq_true, Bool.not_eq_true',
    List.isEmpty_eq_false_iff] at h
  rw [List.getLast?_eq_some_getLast h.1]
  exact congrArg some (String.isEmpty_iff.mp (h.2 _ (List.getLast_mem h.1)))

/-- A path that ends in a separator or in the current directory leads to a directory. -/
theorem Walks.dir_of_getLast? (h : Walks tree purpose links place pieces arrival)
    (hlast : pieces.getLast? = some piece) (hpiece : piece = "" ∨ piece = ".") :
    ∃ place, arrival = .here place ∧ tree.kindAt place = some .dir := by
  induction h with
  | stop => cases hlast
  | @skip _ place _ rest _ hdir _ next ih =>
    cases rest with
    | nil =>
      cases next
      exact ⟨place, rfl, hdir⟩
    | cons => exact ih (by simpa using hlast)
  | @up _ _ rest _ _ _ ih =>
    cases rest with
    | nil =>
      obtain rfl := Option.some.inj hlast
      exact absurd hpiece (by decide)
    | cons => exact ih (by simpa using hlast)
  | missing _ hname =>
    obtain rfl := Option.some.inj hlast
    exact absurd hpiece hname.not_here
  | @jump _ _ _ _ rest _ _ hname _ _ ih =>
    cases rest with
    | nil =>
      obtain rfl := Option.some.inj hlast
      exact absurd hpiece hname.not_here
    | cons => exact ih (by simpa [List.getLast?_append] using hlast)
  | @enter _ _ _ rest _ _ _ hname _ _ _ ih =>
    cases rest with
    | nil =>
      obtain rfl := Option.some.inj hlast
      exact absurd hpiece hname.not_here
    | cons => exact ih (by simpa using hlast)

theorem Walks.writing (h : Walks tree .target links place pieces arrival)
    (hdir : ∀ place, arrival = .here place → tree.kindAt place ≠ some .dir) :
    Walks tree .writing links place pieces arrival := by
  have hopen : ∀ {name rest}, Names .target name rest → rest.getLast? ≠ some "" →
      Names .writing name rest := fun hname hlast =>
    ⟨hname.not_here, hname.not_up, fun hclosed => hlast (getLast?_of_endsInSeparators hclosed.2),
      hname.short⟩
  induction h with
  | stop links place => exact .stop links place
  | skip hdir' hpiece _ ih => exact .skip hdir' hpiece (ih hdir)
  | up hdir' _ ih => exact .up hdir' (ih hdir)
  | missing hdir' hname hnone => exact .missing hdir' (hopen hname (by simp)) hnone
  | @jump _ _ _ target rest _ hdir' hname hlink next ih =>
    refine .jump hdir' (hopen hname fun hlast => ?_) hlink (ih hdir)
    obtain ⟨last, harrival, hkind⟩ := next.dir_of_getLast?
      (by simp [List.getLast?_append, hlast]) (.inl rfl)
    exact hdir last harrival hkind
  | enter hdir' hname hkind hlink next ih =>
    refine .enter hdir' (hopen hname fun hlast => ?_) hkind hlink (ih hdir)
    obtain ⟨last, harrival, hkind⟩ := next.dir_of_getLast? hlast (.inl rfl)
    exact hdir last harrival hkind

/-- The walk to the place to write, taken in a tree that has a file or a device there and is
the same elsewhere, ends at that place. -/
theorem Walks.here_of_same {tree' : FileTree}
    (h : Walks tree .writing links place pieces arrival)
    (hsame : ∀ other, other ≠ arrival.spot → tree'.kindAt other = tree.kindAt other)
    (hold : tree.kindAt arrival.spot = none ∨ tree.kindAt arrival.spot = some .leaf)
    (hnew : tree'.kindAt arrival.spot = some .leaf) :
    Walks tree' .target links place pieces (.here arrival.spot) := by
  have hopen : ∀ {name rest}, Names .writing name rest → Names .target name rest :=
    fun hname => ⟨hname.not_here, hname.not_up, fun hclosed => Purpose.noConfusion hclosed.1,
      hname.short⟩
  have hkeep : ∀ {other : Location} {kind : Kind}, tree.kindAt other = some kind →
      kind ≠ .leaf → tree'.kindAt other = some kind := by
    intro other kind hother hleaf
    rw [hsame other, hother]
    rintro rfl
    rcases hold with hold | hold <;> simp_all
  induction h with
  | stop links place => exact .stop links place
  | skip hdir hpiece _ ih =>
    exact .skip (hkeep hdir (by simp)) hpiece (ih hsame hold hnew)
  | up hdir _ ih => exact .up (hkeep hdir (by simp)) (ih hsame hold hnew)
  | missing hdir hname _ =>
    exact .enter (hkeep hdir (by simp)) (hopen hname) hnew (by simp) (.stop _ _)
  | jump hdir hname hlink _ ih =>
    exact .jump (hkeep hdir (by simp)) (hopen hname) (hkeep hlink (by simp))
      (ih hsame hold hnew)
  | @enter _ place name _ arrival kind hdir hname hkind hlink _ ih =>
    have hkind' : tree'.kindAt (place ++ [name]) = some kind ∨
        tree'.kindAt (place ++ [name]) = some .leaf := by
      by_cases hspot : place ++ [name] = arrival.spot
      · exact .inr (hspot ▸ hnew)
      · exact .inl ((hsame _ hspot).trans hkind)
    rcases hkind' with hkind' | hkind'
    · exact .enter (hkeep hdir (by simp)) (hopen hname) hkind' hlink (ih hsame hold hnew)
    · exact .enter (hkeep hdir (by simp)) (hopen hname) hkind' (by simp)
        (ih hsame hold hnew)

end Ends

/-! ## Writing and reading back -/

/-- A text that can be walked as a path. -/
structure IsPath (path : String) : Prop where
  no_nul : path.toList.contains '\x00' = false
  not_empty : path.isEmpty = false
  short : ¬maxPathBytes < path.utf8ByteSize

/-- A path leads to a regular file, or to a directory that lacks nothing but its last name. -/
def hasRoomAt (tree : FileTree) (cwd : Location) (path : String) : Bool :=
  match tree.arrive cwd .target path with
  | .ok (.here place) => ((tree.get? place).map isFile).getD false
  | .ok (.absent _ _) => true
  | .error _ => false

section Writing

variable {tree tree' : FileTree} {cwd place : Location} {path text : String}
  {content : ByteArray} {arrival : Arrival}

theorem arrive_eq_ok_iff {purpose : Purpose} (hpurpose : purpose ≠ .entry) :
    tree.arrive cwd purpose path = .ok arrival ↔
      IsPath path ∧
        Walks tree purpose maxLinks (startOf cwd path) (splitString '/' path) arrival := by
  rw [arrive, follow]
  cases hnul : path.toList.contains '\x00' with
  | true =>
    exact iff_of_false (by simp) fun h => Bool.noConfusion (hnul.symm.trans h.1.no_nul)
  | false =>
    by_cases hlong : maxPathBytes < path.utf8ByteSize
    · exact iff_of_false (by simp [hlong]) fun h => h.1.short hlong
    · cases hempty : path.isEmpty with
      | true =>
        exact iff_of_false (by simp [hlong]) fun h =>
          Bool.noConfusion (hempty.symm.trans h.1.not_empty)
      | false =>
        have hpath : IsPath path := ⟨hnul, hempty, hlong⟩
        simp [hlong, hpath, walk_eq_ok_iff hpurpose]

theorem Rests.of_arrive {purpose : Purpose} (hpurpose : purpose ≠ .entry)
    (h : tree.arrive cwd purpose path = .ok arrival) : tree.Rests arrival := by
  refine ((arrive_eq_ok_iff hpurpose).mp h).2.rests fun hnil => ?_
  exact absurd (List.map_eq_nil_iff.mp hnil) (splitOn_ne_nil '/' path.toList)

theorem node?_of_arrive (h : tree.arrive cwd .target path = .ok (.here place)) :
    tree.node? cwd path = tree.get? place := by
  rw [node?, locate, h]
  rfl

/-- A place found for writing holds a file or a device, or nothing yet. -/
theorem kindAt_of_placeToWrite (h : tree.placeToWrite cwd path = .ok place) :
    ∃ arrival, tree.arrive cwd .writing path = .ok arrival ∧ arrival.spot = place ∧
      (tree.kindAt place = none ∨ tree.kindAt place = some .leaf) := by
  rw [placeToWrite] at h
  cases harrive : tree.arrive cwd .writing path with
  | error e => cases harrive ▸ h
  | ok arrival =>
    rw [harrive] at h
    have hrests := Rests.of_arrive (by decide) harrive
    cases arrival with
    | absent parent name =>
      obtain rfl := Except.ok.inj h
      exact ⟨_, rfl, rfl, .inl hrests.2⟩
    | here last =>
      have hlast : last = place ∧ tree.kindAt last ≠ some .dir := by
        simp only [kindAt] at h ⊢
        cases hnode : tree.get? last with
        | none => exact ⟨by simpa [hnode] using h, by simp⟩
        | some node => cases node <;> simp_all [kind]
      obtain ⟨rfl, hdir⟩ := hlast
      exact ⟨_, rfl, rfl, .inr (hrests.resolve_left hdir)⟩

theorem get?_put_spot (h : tree.Rests arrival) (node : FileTree) :
    (tree.put arrival.spot node).get? arrival.spot = some node := by
  cases arrival with
  | absent parent name => exact get?_put_snoc name node h.1
  | here place =>
    cases hlast : place.getLast? with
    | none =>
      obtain rfl := List.getLast?_eq_none_iff.mp hlast
      rfl
    | some name =>
      obtain ⟨parent, rfl⟩ := List.getLast?_eq_some_iff.mp hlast
      exact get?_put_snoc name node (h.elim kindAt_of_kindAt_snoc kindAt_of_kindAt_snoc)

/-- What a path led to for writing it names afterwards, when a file or a device is there. -/
theorem node?_of_same (h : tree.arrive cwd .writing path = .ok arrival)
    (hsame : ∀ other, other ≠ arrival.spot → tree'.kindAt other = tree.kindAt other)
    (hold : tree.kindAt arrival.spot = none ∨ tree.kindAt arrival.spot = some .leaf)
    (hnew : tree'.kindAt arrival.spot = some .leaf) :
    tree'.node? cwd path = tree'.get? arrival.spot := by
  obtain ⟨hpath, hwalks⟩ := (arrive_eq_ok_iff (by decide)).mp h
  exact node?_of_arrive ((arrive_eq_ok_iff (by decide)).mpr
    ⟨hpath, hwalks.here_of_same hsame hold hnew⟩)

theorem node?_put (h : tree.placeToWrite cwd path = .ok place) (mode : Nat) :
    (tree.put place (.file content mode)).node? cwd path = some (.file content mode) := by
  obtain ⟨arrival, harrive, rfl, hold⟩ := kindAt_of_placeToWrite h
  have hget := get?_put_spot (Rests.of_arrive (by decide) harrive) (.file content mode)
  have hdir : tree.kindAt arrival.spot ≠ some .dir := by
    rcases hold with hold | hold <;> simp [hold]
  rw [node?_of_same harrive (fun other => kindAt_put_of_ne hdir (by simp [kind])) hold
    (by rw [kindAt, hget]; rfl), hget]

theorem eq_of_writeAt (h : tree.writeAt place content = .ok tree') :
    (∃ mode, tree' = tree.put place (.file content mode)) ∨
      (tree' = tree ∧ ∃ device, tree.get? place = some (.device device)) := by
  rw [writeAt] at h
  split at h
  · next hnode =>
    split at h
    · exact .inr ⟨(Except.ok.inj h).symm, .full, hnode⟩
    · cases h
  · next device _ hnode => exact .inr ⟨(Except.ok.inj h).symm, device, hnode⟩
  · exact .inl ⟨_, (Except.ok.inj h).symm⟩
  · exact .inl ⟨_, (Except.ok.inj h).symm⟩

/-- What was written to a file is what the path names afterwards; a device keeps nothing. -/
theorem node?_of_writeBytes (h : tree.writeBytes cwd path content = .ok tree') :
    (∃ mode, tree'.node? cwd path = some (.file content mode)) ∨
      (tree' = tree ∧ ∃ device, tree.node? cwd path = some (.device device)) := by
  rw [writeBytes] at h
  cases hplace : tree.placeToWrite cwd path with
  | error e => cases hplace ▸ h
  | ok place =>
    rw [hplace] at h
    rcases eq_of_writeAt h with ⟨mode, rfl⟩ | ⟨hsame, device, hnode⟩
    · exact .inl ⟨mode, node?_put hplace mode⟩
    · obtain ⟨arrival, harrive, rfl, hold⟩ := kindAt_of_placeToWrite hplace
      have hleaf : tree.kindAt arrival.spot = some .leaf := by
        rw [kindAt, hnode]
        rfl
      refine .inr ⟨hsame, device, ?_⟩
      rw [node?_of_same harrive (fun _ _ => rfl) hold hleaf, hnode]

theorem readText_of_readBytes (h : tree.readBytes cwd path = .ok text.toUTF8) :
    tree.readText cwd path = .ok text := by
  have htext : String.fromUTF8? text.toUTF8 = some text := dif_pos text.isValidUTF8
  rw [readText, h]
  simp only [htext]

/-- A text that was written is read back; a device keeps nothing. -/
theorem readText_of_writeText (h : tree.writeText cwd path text = .ok tree') :
    (tree'.readText cwd path = .ok text ∧ tree'.isFileAt cwd path = true) ∨
      (tree' = tree ∧ ∃ device, tree.node? cwd path = some (.device device)) := by
  refine (node?_of_writeBytes h).imp_left fun ⟨mode, hnode⟩ => ?_
  refine ⟨readText_of_readBytes ?_, by rw [isFileAt, hnode]⟩
  rw [node?] at hnode
  rw [readBytes]
  cases hplace : tree'.locate cwd path with
  | error e => cases hplace ▸ hnode
  | ok place =>
    rw [hplace] at hnode
    simp only [hnode]

theorem not_device_of_hasRoomAt (h : tree.hasRoomAt cwd path = true) (device : Device) :
    tree.node? cwd path ≠ some (.device device) := by
  rw [hasRoomAt] at h
  cases harrive : tree.arrive cwd .target path with
  | error e => simp [harrive] at h
  | ok arrival =>
    cases arrival with
    | absent parent name => simp [node?, locate, harrive, Arrival.place]
    | here place =>
      rw [node?_of_arrive harrive]
      intro hnode
      simp [harrive, hnode, isFile] at h

theorem exists_writeText (h : tree.hasRoomAt cwd path = true) (text : String) :
    ∃ tree', tree.writeText cwd path text = .ok tree' := by
  rw [hasRoomAt] at h
  cases harrive : tree.arrive cwd .target path with
  | error e => simp [harrive] at h
  | ok arrival =>
    have hdir : ∀ place, arrival = .here place → tree.kindAt place ≠ some .dir := by
      rintro place rfl hdir
      rw [harrive] at h
      cases hnode : tree.get? place with
      | none => simp [kindAt, hnode] at hdir
      | some node =>
        obtain ⟨entries, rfl⟩ := kind_eq_dir.mp (by simpa [kindAt, hnode] using hdir)
        simp [hnode, isFile] at h
    obtain ⟨hpath, hwalks⟩ := (arrive_eq_ok_iff (by decide)).mp harrive
    have hwriting := (arrive_eq_ok_iff (by decide)).mpr ⟨hpath, hwalks.writing hdir⟩
    rw [writeText, writeBytes, placeToWrite, hwriting]
    rw [harrive] at h
    cases arrival with
    | absent parent name =>
      have hnone := (Rests.of_arrive (by decide) harrive).2
      simp only [kindAt, Option.map_eq_none_iff] at hnone
      simp [writeAt, hnone]
    | here place =>
      cases hnode : tree.get? place with
      | none => simp [hnode] at h
      | some node =>
        cases node with
        | file old mode => simp [writeAt, hnode]
        | _ => simp [hnode, isFile] at h

end Writing

end FileTree

namespace Site

variable {site : Site} {path text : String} {tree : FileTree}

theorem readText_eq_ok_iff :
    site.readText path = .ok text ↔ site.tree.readText site.cwd path = .ok text := by
  unfold readText
  split
  · next read hread => simp [hread]
  · next e hread => simp [hread]

theorem writeText_eq_ok_iff :
    site.writeText path text = .ok tree ↔ site.tree.writeText site.cwd path text = .ok tree := by
  unfold writeText
  split
  · next written hwrite => simp [hwrite]
  · next e hwrite => simp [hwrite]

end Site

end TestCursor
