import TestCursor.Proofs.SameFile

/-!
# The paths of places

A place is the list of names that lead to it, and its path is the text of that list. On such paths
what is done to texts is what is done to lists.

1. The path of a place spells its names (`ofString_pathOf`).
2. So the parent of a path is that of the place (`parentOf?_pathOf_concat`), the directories above
   it are the paths of its beginnings (`exists_prefix_of_mem_ancestorsOf`), and the path below a
   beginning is the rest of the names (`relativePath_pathOf`), which followed from there leads back
   (`joinPath_pathOf`).
3. A walk passes through the names of a place (`Walks.through`), so nothing lies below a file
   (`content?_below_file`).
4. An absolute path leads to a place with such names (`areEntryNames_of_arrive`), and the path of
   that place leads nowhere else (`eq_of_arrive_pathOf`, `eq_of_leads`).
-/

namespace TestCursor

/-- A name that an entry of a directory can have. -/
structure IsEntryName (name : String) : Prop where
  not_empty : name ≠ ""
  not_here : name ≠ "."
  not_up : name ≠ ".."
  no_slash : '/' ∉ name.toList

instance (name : String) : Decidable (IsEntryName name) :=
  decidable_of_iff (name ≠ "" ∧ name ≠ "." ∧ name ≠ ".." ∧ '/' ∉ name.toList)
    ⟨fun ⟨h₁, h₂, h₃, h₄⟩ => ⟨h₁, h₂, h₃, h₄⟩, fun ⟨h₁, h₂, h₃, h₄⟩ => ⟨h₁, h₂, h₃, h₄⟩⟩

/-- All names of a place are those of entries. -/
abbrev AreEntryNames (place : Location) : Prop := ∀ name ∈ place, IsEntryName name

section Spelling

variable {name dir : String} {place root rest : Location} {pieces others : List (List Char)}

theorem IsEntryName.isName (h : IsEntryName name) : PathText.isName name.toList = true := by
  have hhere : name.toList ≠ ['.'] := fun hdot => h.not_here (String.toList_inj.mp hdot)
  simp [PathText.isName, h.not_empty, hhere]

theorem AreEntryNames.isName (h : AreEntryNames place) :
    ∀ piece ∈ place.map String.toList, PathText.isName piece = true :=
  List.forall_mem_map.mpr fun name hname => (h name hname).isName

theorem AreEntryNames.no_slash (h : AreEntryNames place) :
    ∀ piece ∈ place.map String.toList, '/' ∉ piece :=
  List.forall_mem_map.mpr fun name hname => (h name hname).no_slash

theorem toList_pathOf (place : Location) :
    (FileTree.pathOf place).toList = '/' :: joinWith ['/'] (place.map String.toList) := by
  unfold FileTree.pathOf
  cases place with
  | nil => rfl
  | cons name place =>
    rw [List.isEmpty_cons, if_neg Bool.false_ne_true]
    induction place generalizing name with
    | nil => simp [String.join_cons, joinWith]
    | cons next place ih =>
      have hjoin : joinWith ['/'] ((name :: next :: place).map String.toList) =
          name.toList ++ '/' :: joinWith ['/'] ((next :: place).map String.toList) :=
        joinWith_cons (List.cons_ne_nil _ _)
      rw [List.map_cons, String.join_cons, String.toList_append, ih next, String.toList_append,
        hjoin]
      rfl

theorem ofString_pathOf (hplace : place ≠ []) (h : AreEntryNames place) :
    PathText.ofString (FileTree.pathOf place) = ⟨.root, place.map String.toList⟩ := by
  rw [PathText.ofString, toList_pathOf, PathText.ofChars,
    splitOn_joinWith (by simpa using hplace) h.no_slash]

theorem toString_root (place : Location) :
    PathText.toString ⟨.root, place.map String.toList⟩ = FileTree.pathOf place := by
  rw [← String.toList_inj, toList_pathOf, PathText.toString, String.toList_ofList]
  rfl

/-! ## Parents -/

theorem trimRight_of_isName (h : ∀ piece ∈ pieces, PathText.isName piece = true) :
    PathText.trimRight pieces = pieces :=
  List.rdropWhile_eq_self_iff.mpr fun hne => by simp [h _ (List.getLast_mem hne)]

theorem parentOf?_pathOf_concat (h : AreEntryNames (place ++ [name])) :
    parentOf? (FileTree.pathOf (place ++ [name])) = some (FileTree.pathOf place) := by
  obtain ⟨hplace, hname⟩ := List.forall_mem_append.mp h
  rw [parentOf?, ofString_pathOf (by simp) h, ← toString_root place]
  have htrimmed := trimRight_of_isName (AreEntryNames.isName h)
  have hparent : PathText.parent? ⟨.root, (place ++ [name]).map String.toList⟩ =
      some ⟨.root, place.map String.toList⟩ := by
    unfold PathText.parent?
    rw [htrimmed]
    split
    · next hnil => simp at hnil
    · next piece pieces hpieces =>
      rw [← hpieces, List.map_append, List.map_singleton, List.dropLast_concat,
        trimRight_of_isName (AreEntryNames.isName hplace)]
  rw [hparent]
  rfl

theorem exists_prefix_of_mem_ancestorsOf (h : AreEntryNames place)
    (hdir : dir ∈ ancestorsOf (FileTree.pathOf place)) :
    ∃ front, front <+: place ∧ dir = FileTree.pathOf front := by
  induction place using List.reverseRecOn with
  | nil =>
    have htop : ancestorsOf (FileTree.pathOf []) = [FileTree.pathOf []] := rfl
    rw [htop, List.mem_singleton] at hdir
    exact ⟨[], List.prefix_rfl, hdir⟩
  | append_singleton place name ih =>
    rw [ancestorsOf_eq, parentOf?_pathOf_concat h, List.mem_cons] at hdir
    rcases hdir with rfl | hdir
    · exact ⟨_, List.prefix_rfl, rfl⟩
    · obtain ⟨front, hfront, hpath⟩ := ih (List.forall_mem_append.mp h).1 hdir
      exact ⟨front, hfront.trans (List.prefix_append _ _), hpath⟩

/-! ## Below a place -/

theorem dropNames_append (h : ∀ piece ∈ pieces, PathText.isName piece = true) :
    PathText.dropNames pieces.length (pieces ++ others) = others := by
  induction pieces with
  | nil => simp [PathText.dropNames]
  | cons piece pieces ih =>
    obtain ⟨hpiece, hpieces⟩ := List.forall_mem_cons.mp h
    rw [List.length_cons, List.cons_append, PathText.dropNames, if_pos hpiece, ih hpieces]

theorem components_pathOf (h : AreEntryNames place) :
    (PathText.ofString (FileTree.pathOf place)).components =
        ['/'] :: place.map String.toList ∧
      (PathText.ofString (FileTree.pathOf place)).names = place.map String.toList := by
  by_cases hplace : place = []
  · subst hplace
    exact ⟨rfl, rfl⟩
  · have hnames : (place.map String.toList).filter PathText.isName = place.map String.toList :=
      List.filter_eq_self.mpr h.isName
    rw [ofString_pathOf hplace h]
    exact ⟨congrArg (['/'] :: ·) hnames, hnames⟩

theorem relativePath_pathOf (h : AreEntryNames (root ++ rest)) (hrest : rest ≠ []) :
    relativePath (FileTree.pathOf (root ++ rest)) (FileTree.pathOf root) =
      "/".intercalate rest := by
  obtain ⟨hrootNames, hrestNames⟩ := List.forall_mem_append.mp h
  have hpieces := ofString_pathOf (by simp [hrest]) h
  obtain ⟨hcomponents, -⟩ := components_pathOf h
  obtain ⟨hbase, hnames⟩ := components_pathOf hrootNames
  have hprefix : List.isPrefixOf (['/'] :: root.map String.toList)
      (['/'] :: (root ++ rest).map String.toList) = true := by
    rw [List.isPrefixOf_iff_prefix, List.map_append]
    exact List.prefix_append (['/'] :: root.map String.toList) _
  have hdrop : PathText.dropNames (root.map String.toList).length
      ((root ++ rest).map String.toList) = rest.map String.toList := by
    rw [List.map_append, dropNames_append (AreEntryNames.isName hrootNames)]
  have hleft : PathText.trimLeft (rest.map String.toList) = rest.map String.toList := by
    obtain ⟨first, others, rfl⟩ := List.exists_cons_of_ne_nil hrest
    have hfirst := (hrestNames first List.mem_cons_self).isName
    rw [PathText.trimLeft, List.map_cons, List.dropWhile_cons_of_neg (by simp [hfirst])]
  have hbelow : (PathText.ofString (FileTree.pathOf (root ++ rest))).below?
      (PathText.ofString (FileTree.pathOf root)) = some ⟨.plain, rest.map String.toList⟩ := by
    rw [PathText.below?, hbase, hcomponents, hnames, hpieces, List.isEmpty_cons,
      if_neg Bool.false_ne_true, if_pos hprefix, hdrop, hleft,
      trimRight_of_isName (AreEntryNames.isName hrestNames)]
  rw [relativePath, hbelow, ← String.toList_inj, toList_intercalate_eq]
  exact String.toList_ofList

theorem isAbsolute_intercalate (h : AreEntryNames rest) (hrest : rest ≠ []) :
    isAbsolute ("/".intercalate rest) = false := by
  obtain ⟨first, others, rfl⟩ := List.exists_cons_of_ne_nil hrest
  have hfirst := h first List.mem_cons_self
  obtain ⟨more, hmore, -⟩ :=
    @joinWith_append '/' [first.toList] (others.map String.toList) (by simp)
  have htext : ("/".intercalate (first :: others)).toList = first.toList ++ more := by
    rw [toList_intercalate_eq]
    exact hmore
  obtain ⟨c, chars, hc⟩ := List.exists_cons_of_ne_nil
    (show first.toList ≠ [] by simpa using hfirst.not_empty)
  have hslash : c ≠ '/' := fun heq => hfirst.no_slash (by simp [hc, heq])
  rw [isAbsolute, htext, hc]
  simpa using hslash

theorem getLast?_pathOf (h : AreEntryNames place) (hplace : place ≠ []) :
    (FileTree.pathOf place).toList.getLast? ≠ some '/' := by
  intro hlast
  have hne : place.map String.toList ≠ [] := by simpa using hplace
  have hsplit := splitOn_joinWith hne h.no_slash
  rw [toList_pathOf, List.getLast?_cons] at hlast
  -- The text behind a last separator would be an empty name.
  have hempty : [] ∈ place.map String.toList := by
    cases hjoin : (joinWith ['/'] (place.map String.toList)).getLast? with
    | none =>
      rw [List.getLast?_eq_none_iff.mp hjoin] at hsplit
      rw [← hsplit]
      exact List.mem_singleton.mpr rfl
    | some c =>
      obtain rfl : c = '/' := by simpa [hjoin] using hlast
      obtain ⟨front, hfront⟩ := List.getLast?_eq_some_iff.mp hjoin
      rw [hfront, splitOn_append] at hsplit
      rw [← hsplit]
      exact List.mem_append_right _ (List.mem_singleton.mpr rfl)
  exact absurd (AreEntryNames.isName h [] hempty) (by decide)

/-- What lies below a place leads back when it is followed from there. -/
theorem joinPath_pathOf (h : AreEntryNames (root ++ rest)) (hrest : rest ≠ []) :
    joinPath (FileTree.pathOf root) ("/".intercalate rest) = FileTree.pathOf (root ++ rest) := by
  obtain ⟨hrootNames, hrestNames⟩ := List.forall_mem_append.mp h
  have hjoined : (joinPath (FileTree.pathOf root) ("/".intercalate rest)) =
      if (FileTree.pathOf root).toList.getLast? = some '/' then
        FileTree.pathOf root ++ "/".intercalate rest
      else FileTree.pathOf root ++ "/" ++ "/".intercalate rest := by
    rw [joinPath, isAbsolute_intercalate hrestNames hrest,
      isEmpty_of_isAbsolute (isAbsolute_pathOf root)]
    rfl
  rw [hjoined]
  by_cases hroot : root = []
  · subst hroot
    rw [if_pos (by decide), ← String.toList_inj, String.toList_append, toList_intercalate_eq,
      toList_pathOf, toList_pathOf]
    rfl
  · rw [if_neg (getLast?_pathOf hrootNames hroot), ← String.toList_inj, String.toList_append,
      String.toList_append, toList_intercalate_eq, toList_pathOf, toList_pathOf, List.map_append,
      joinWith_append_of_ne_nil (by simpa using hroot) (by simpa using hrest)]
    simp

theorem joinPath_pathOf_name (h : AreEntryNames (place ++ [name])) :
    joinPath (FileTree.pathOf place) name = FileTree.pathOf (place ++ [name]) := by
  rw [← joinPath_pathOf h (List.cons_ne_nil name []), String.intercalate_singleton]

end Spelling

/-! ## Nothing lies below a file -/

namespace FileTree

section Through

variable {tree : FileTree} {purpose : Purpose} {links : Nat} {place names : Location}
  {rest : List String} {piece name : String} {arrival : Arrival} {kind : Kind}

theorem kindAt_eq_dir_of_append (h : tree.kindAt (place ++ names) = some kind)
    (hnames : names ≠ []) : tree.kindAt place = some .dir := by
  obtain ⟨name, names, rfl⟩ := List.exists_cons_of_ne_nil hnames
  rw [kindAt, get?_append] at h
  cases hplace : tree.get? place with
  | none => simp [hplace] at h
  | some node =>
    cases node with
    | dir entries => rw [kindAt, hplace]; rfl
    | _ => simp [hplace, get?, entry?, entries] at h

theorem Walks.dir_of_cons (h : Walks tree purpose links place (piece :: rest) arrival) :
    tree.kindAt place = some .dir := by
  cases h <;> assumption

theorem Walks.stay (h : Walks tree purpose links place (piece :: rest) arrival)
    (hpiece : piece = "" ∨ piece = ".") : Walks tree purpose links place rest arrival := by
  cases h with
  | skip hdir _ next => exact next
  | up hdir next => simp at hpiece
  | missing hdir hname hnone => exact absurd hpiece hname.not_here
  | jump hdir hname hlink next => exact absurd hpiece hname.not_here
  | enter hdir hname hkind hlink next => exact absurd hpiece hname.not_here

theorem Walks.enter_of_kindAt (h : Walks tree purpose links place (name :: rest) arrival)
    (hname : IsEntryName name) (hkind : tree.kindAt (place ++ [name]) = some kind)
    (hlink : ∀ target, kind ≠ .link target) :
    Walks tree purpose links (place ++ [name]) rest arrival := by
  cases h with
  | skip hdir hpiece next => exact absurd hpiece (by simp [hname.not_empty, hname.not_here])
  | up hdir next => exact absurd rfl hname.not_up
  | missing hdir hnamed hnone => cases hnone.symm.trans hkind
  | jump hdir hnamed hlinked next =>
    exact absurd (Option.some.inj (hkind.symm.trans hlinked)) (hlink _)
  | enter hdir hnamed hfound hplain next => exact next

theorem Walks.through (hnames : AreEntryNames names)
    (h : Walks tree purpose links place (names ++ rest) arrival)
    (hkind : tree.kindAt (place ++ names) = some kind) (hlink : ∀ target, kind ≠ .link target) :
    Walks tree purpose links (place ++ names) rest arrival := by
  induction names generalizing place with
  | nil => rwa [List.append_nil]
  | cons name names ih =>
    obtain ⟨hname, hnames⟩ := List.forall_mem_cons.mp hnames
    rw [List.append_cons] at hkind ⊢
    refine ih hnames ?_ hkind
    by_cases hnil : names = []
    · subst hnil
      exact h.enter_of_kindAt hname (by simpa using hkind) hlink
    · exact h.enter_of_kindAt hname (kindAt_eq_dir_of_append hkind hnil) (by simp)

end Through

end FileTree

theorem splitString_pathOf {place : Location} (h : AreEntryNames place) (hplace : place ≠ []) :
    splitString '/' (FileTree.pathOf place) = "" :: place := by
  rw [splitString, toList_pathOf, splitOn, if_pos rfl,
    splitOn_joinWith (by simpa using hplace) h.no_slash]
  simp

/-- A path leads on below a node that is no link only if that is a directory. -/
theorem FileTree.dir_of_arrive_below {tree : FileTree} {cwd place : Location} {name : String}
    {purpose : Purpose} {arrival : Arrival} {kind : Kind} (hpurpose : purpose ≠ .entry)
    (hnames : AreEntryNames (place ++ [name])) (hkind : tree.kindAt place = some kind)
    (hlink : ∀ target, kind ≠ .link target)
    (h : tree.arrive cwd purpose (pathOf (place ++ [name])) = .ok arrival) :
    tree.kindAt place = some .dir := by
  obtain ⟨-, hwalks⟩ := (arrive_eq_ok_iff hpurpose).mp h
  rw [startOf, if_pos (isAbsolute_iff_head.mp (isAbsolute_pathOf _)),
    splitString_pathOf hnames (by simp)] at hwalks
  have hbelow := (hwalks.stay (.inl rfl)).through (List.forall_mem_append.mp hnames).1 hkind hlink
  exact hbelow.dir_of_cons

theorem Site.content?_below_file {site : Site} {file : Location} {name : String}
    {content : ByteArray} {mode : Nat} (hnames : AreEntryNames (file ++ [name]))
    (hfile : site.tree.get? file = some (.file content mode)) :
    site.content? (joinPath (FileTree.pathOf file) name) = none := by
  rw [joinPath_pathOf_name hnames]
  by_contra hfound
  obtain ⟨found, hfound⟩ := Option.ne_none_iff_exists'.mp hfound
  have hkind : site.tree.kindAt file = some .leaf := by rw [FileTree.kindAt, hfile]; rfl
  unfold content? at hfound
  split at hfound
  · next hnode =>
    obtain ⟨place, hplace, -⟩ := FileTree.exists_locate_of_node? hnode
    unfold FileTree.locate at hplace
    split at hplace
    · next arrival harrive =>
      have hdir := FileTree.dir_of_arrive_below (by decide) hnames hkind (by simp) harrive
      cases hdir.symm.trans hkind
    · cases hplace
  · cases hfound

/-! ## Where an absolute path leads -/

namespace FileTree

section Absolute

variable {tree : FileTree} {purpose : Purpose} {links : Nat} {place cwd : Location}
  {pieces rest : List String} {piece path : String} {arrival : Arrival} {kind : Kind}

theorem Names.isEntryName (h : Names purpose piece rest) (hslash : '/' ∉ piece.toList) :
    IsEntryName piece :=
  ⟨fun hempty => h.not_here (.inl hempty), fun hhere => h.not_here (.inr hhere), h.not_up, hslash⟩

theorem no_slash_splitString (text : String) :
    ∀ piece ∈ splitString '/' text, '/' ∉ piece.toList := by
  intro piece hpiece
  obtain ⟨chars, hchars, rfl⟩ := List.mem_map.mp hpiece
  rw [String.toList_ofList]
  exact not_mem_of_mem_splitOn hchars

theorem Walks.areEntryNames (h : Walks tree purpose links place pieces arrival)
    (hplace : AreEntryNames place) (hpieces : ∀ piece ∈ pieces, '/' ∉ piece.toList) :
    AreEntryNames arrival.spot := by
  induction h with
  | stop => exact hplace
  | skip _ _ _ ih =>
    exact ih hplace fun piece hpiece => hpieces piece (List.mem_cons_of_mem _ hpiece)
  | up _ _ ih =>
    exact ih (fun name hname => hplace name (List.dropLast_subset _ hname))
      fun piece hpiece => hpieces piece (List.mem_cons_of_mem _ hpiece)
  | missing _ hname _ =>
    exact List.forall_mem_append.mpr
      ⟨hplace, List.forall_mem_singleton.mpr (hname.isEntryName (hpieces _ List.mem_cons_self))⟩
  | jump _ _ _ _ ih =>
    refine ih ?_ (List.forall_mem_append.mpr ⟨no_slash_splitString _,
      fun piece hpiece => hpieces piece (List.mem_cons_of_mem _ hpiece)⟩)
    rw [startOf]
    split
    · exact fun name hname => absurd hname List.not_mem_nil
    · exact hplace
  | enter _ hname _ _ _ ih =>
    obtain ⟨hfirst, hrest⟩ := List.forall_mem_cons.mp hpieces
    exact ih (List.forall_mem_append.mpr
      ⟨hplace, List.forall_mem_singleton.mpr (hname.isEntryName hfirst)⟩) hrest

theorem areEntryNames_of_arrive (hpurpose : purpose ≠ .entry) (habsolute : isAbsolute path = true)
    (h : tree.arrive cwd purpose path = .ok arrival) : AreEntryNames arrival.spot := by
  obtain ⟨-, hwalks⟩ := (arrive_eq_ok_iff hpurpose).mp h
  rw [startOf, if_pos (isAbsolute_iff_head.mp habsolute)] at hwalks
  exact hwalks.areEntryNames (fun name hname => absurd hname List.not_mem_nil)
    (no_slash_splitString path)

/-- The path of a node that is no link leads to that node, if it leads anywhere. -/
theorem eq_of_arrive_pathOf (hpurpose : purpose ≠ .entry) (hnames : AreEntryNames place)
    (hkind : tree.kindAt place = some kind) (hlink : ∀ target, kind ≠ .link target)
    (h : tree.arrive cwd purpose (pathOf place) = .ok arrival) : arrival = .here place := by
  obtain ⟨-, hwalks⟩ := (arrive_eq_ok_iff hpurpose).mp h
  rw [startOf, if_pos (isAbsolute_iff_head.mp (isAbsolute_pathOf _))] at hwalks
  by_cases hplace : place = []
  · subst hplace
    have htop := (hwalks.stay (.inl rfl)).stay (.inl rfl)
    cases htop
    rfl
  · rw [splitString_pathOf hnames hplace, ← List.append_nil place] at hwalks
    have hlast := (hwalks.stay (.inl rfl)).through hnames hkind hlink
    cases hlast
    rfl

end Absolute

end FileTree

theorem Site.eq_of_leads {site : Site} {name : String} {place : Location} {arrival : Arrival}
    (h : site.Leads name place)
    (harrive : site.tree.arrive site.cwd .target (FileTree.pathOf place) = .ok arrival) :
    arrival = .here place := by
  have hname := FileTree.arrive_of_locate h
  have hnames : AreEntryNames place := FileTree.areEntryNames_of_arrive (by decide)
    (isAbsolute_joinPath (isAbsolute_pathOf _) name) hname
  rcases FileTree.Rests.of_arrive (by decide) hname with hkind | hkind
  · exact FileTree.eq_of_arrive_pathOf (by decide) hnames hkind (by simp) harrive
  · exact FileTree.eq_of_arrive_pathOf (by decide) hnames hkind (by simp) harrive

end TestCursor
