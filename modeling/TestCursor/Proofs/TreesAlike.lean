import TestCursor.Proofs.FileWriting
import TestCursor.Proofs.NearestConfig

/-!
# Trees alike but for one file

Two trees can be the same everywhere but at one spot, where each has a regular file or nothing.
Whoever does not look at that file cannot tell them apart, and a write to it makes them the same.

1. A node has a face, which is all of it but what hangs below. Trees are alike but for a spot when
   they have the same faces elsewhere (`AlikeBut`); a file put at the spot leads to such a tree
   (`alikeBut_put`).
2. A path leads to the same place in both trees, though at the spot it may find a file in one and a
   name to take in the other (`Walks.alike`, `AlikeBut.arrive`). A path that passes by the spot
   (`PassesBy`) has the same content in both (`AlikeBut.content?_eq`).
3. A text can be written to a path in both trees or in neither, and then the path has the same
   content in both, whatever it held before (`AlikeBut.content?_of_writeText`).
-/

namespace TestCursor

namespace FileTree

/-! ## Faces -/

/-- A node without what hangs below it. -/
def face : FileTree → FileTree
  | .dir _ => empty
  | node => node

def faceAt (tree : FileTree) (place : Location) : Option FileTree := (tree.get? place).map face

/-- A place holds a regular file or nothing. -/
def isFreeAt (tree : FileTree) (place : Location) : Bool :=
  ((tree.get? place).map isFile).getD true

/-- Two trees are the same but for a spot. There they are the same too, or each has a regular file
or nothing. -/
structure AlikeBut (spot : Location) (tree other : FileTree) : Prop where
  elsewhere : ∀ place, place ≠ spot → other.faceAt place = tree.faceAt place
  there : other.faceAt spot = tree.faceAt spot ∨
    (tree.isFreeAt spot = true ∧ other.isFreeAt spot = true)

section Faces

variable {tree other node : FileTree} {spot place : Location}

@[simp] theorem kind_face (node : FileTree) : node.face.kind = node.kind := by cases node <;> rfl

theorem kindAt_eq_map_faceAt (tree : FileTree) (place : Location) :
    tree.kindAt place = (tree.faceAt place).map kind := by
  rw [kindAt, faceAt, Option.map_map]
  exact congrArg (Option.map · _) (funext fun node => (kind_face node).symm)

theorem kindAt_of_isFreeAt (h : tree.isFreeAt place = true) :
    tree.kindAt place = none ∨ tree.kindAt place = some .leaf := by
  rw [isFreeAt] at h
  rw [kindAt]
  cases hnode : tree.get? place with
  | none => exact .inl rfl
  | some node => cases node <;> simp_all [isFile, kind]

theorem isFreeAt_of_kindAt_dir (h : tree.kindAt place = some .dir) :
    tree.isFreeAt place = false := by
  by_contra hfree
  rcases kindAt_of_isFreeAt (by simpa using hfree) with hkind | hkind <;> cases hkind.symm.trans h

theorem get?_of_faceAt_eq (h : other.faceAt place = tree.faceAt place)
    (hnode : tree.get? place = some node) (hkind : node.kind ≠ .dir) :
    other.get? place = some node := by
  rw [faceAt, faceAt, hnode] at h
  obtain ⟨found, hfound, hface⟩ := Option.map_eq_some_iff.mp h
  rw [hfound]
  cases node with
  | dir entries => exact absurd rfl hkind
  | _ => cases found <;> simp_all [face, empty]

/-- A node that is no directory, put where no directory was, changes no face anywhere else. -/
theorem faceAt_put_of_ne (hold : tree.kindAt spot ≠ some .dir) (hnew : node.kind ≠ .dir)
    (h : place ≠ spot) : (tree.put spot node).faceAt place = tree.faceAt place := by
  have hkind := kindAt_put_of_ne hold hnew h
  cases hfound : tree.get? place with
  | none =>
    rw [kindAt, kindAt, hfound, Option.map_none, Option.map_eq_none_iff] at hkind
    rw [faceAt, faceAt, hkind, hfound]
  | some found =>
    by_cases hdir : found.kind = .dir
    · rw [kindAt, kindAt, hfound, Option.map_some, hdir] at hkind
      obtain ⟨later, hlater, hkind⟩ := Option.map_eq_some_iff.mp hkind
      obtain ⟨entries, rfl⟩ := kind_eq_dir.mp hdir
      obtain ⟨entries', rfl⟩ := kind_eq_dir.mp hkind
      rw [faceAt, faceAt, hfound, hlater]
      rfl
    · rw [faceAt, faceAt, get?_put_of_ne hold hfound hdir h, hfound]

/-- A file put where a regular file or nothing was leads to a tree alike but for that spot. -/
theorem alikeBut_put {parent : Location} {name : String} (hparent : tree.kindAt parent = some .dir)
    (hfree : tree.isFreeAt (parent ++ [name]) = true) (content : ByteArray) (mode : Nat) :
    AlikeBut (parent ++ [name]) tree (tree.put (parent ++ [name]) (.file content mode)) := by
  have hold : tree.kindAt (parent ++ [name]) ≠ some .dir := fun hdir =>
    Bool.noConfusion ((isFreeAt_of_kindAt_dir hdir).symm.trans hfree)
  refine ⟨fun place => faceAt_put_of_ne hold (by simp [kind]), .inr ⟨hfree, ?_⟩⟩
  rw [isFreeAt, get?_put_snoc name _ hparent]
  rfl

namespace AlikeBut

variable (h : AlikeBut spot tree other)

include h

theorem symm : AlikeBut spot other tree :=
  ⟨fun place hplace => (h.elsewhere place hplace).symm,
    h.there.imp Eq.symm fun ⟨hfree, hfree'⟩ => ⟨hfree', hfree⟩⟩

theorem faceAt_eq_or (place : Location) :
    other.faceAt place = tree.faceAt place ∨
      (place = spot ∧ tree.isFreeAt spot = true ∧ other.isFreeAt spot = true) := by
  by_cases hplace : place = spot
  · subst hplace
    exact h.there.imp_right fun hfree => ⟨rfl, hfree⟩
  · exact .inl (h.elsewhere place hplace)

theorem faceAt_eq (hplace : place = spot → tree.isFreeAt spot = false) :
    other.faceAt place = tree.faceAt place :=
  (h.faceAt_eq_or place).resolve_right fun ⟨hspot, hfree, _⟩ =>
    Bool.noConfusion ((hplace hspot).symm.trans hfree)

theorem kindAt_eq_or (place : Location) :
    other.kindAt place = tree.kindAt place ∨
      (place = spot ∧ tree.isFreeAt spot = true ∧ other.isFreeAt spot = true) := by
  rw [kindAt_eq_map_faceAt, kindAt_eq_map_faceAt]
  exact (h.faceAt_eq_or place).imp_left (congrArg _)

/-- What a walk goes through is the same in both trees. -/
theorem kindAt_of_ne_leaf {kind : Kind} (hkind : tree.kindAt place = some kind)
    (hleaf : kind ≠ .leaf) : other.kindAt place = some kind := by
  rcases h.kindAt_eq_or place with hsame | ⟨rfl, hfree, -⟩
  · rw [hsame, hkind]
  · rcases kindAt_of_isFreeAt hfree with hnone | hfile
    · cases hnone.symm.trans hkind
    · exact absurd (Option.some.inj (hkind.symm.trans hfile)) hleaf

end AlikeBut

end Faces

/-! ## Paths in both trees -/

section Paths

variable {tree other : FileTree} {spot place cwd : Location} {purpose : Purpose} {links : Nat}
  {pieces : List String} {path : String} {arrival : Arrival}

/-- A walk ends at the same place in both trees. It ends in the same way too, unless it ends at the
spot. -/
theorem Walks.alike (h : Walks tree purpose links place pieces arrival)
    (halike : AlikeBut spot tree other) :
    ∃ arrival', Walks other purpose links place pieces arrival' ∧ arrival'.spot = arrival.spot ∧
      (arrival' = arrival ∨ (arrival.spot = spot ∧ tree.isFreeAt spot = true)) := by
  induction h with
  | stop links place => exact ⟨_, .stop links place, rfl, .inl rfl⟩
  | skip hdir hpiece _ ih =>
    obtain ⟨arrival', hwalks, hends⟩ := ih
    exact ⟨arrival', .skip (halike.kindAt_of_ne_leaf hdir (by simp)) hpiece hwalks, hends⟩
  | up hdir _ ih =>
    obtain ⟨arrival', hwalks, hends⟩ := ih
    exact ⟨arrival', .up (halike.kindAt_of_ne_leaf hdir (by simp)) hwalks, hends⟩
  | @missing _ place name hdir hname hnone =>
    have hdir' := halike.kindAt_of_ne_leaf hdir (by simp)
    rcases halike.kindAt_eq_or (place ++ [name]) with hsame | ⟨hspot, hfree, hfree'⟩
    · exact ⟨_, .missing hdir' hname (hsame.trans hnone), rfl, .inl rfl⟩
    · rcases kindAt_of_isFreeAt hfree' with hnone' | hfile'
      · exact ⟨_, .missing hdir' hname (hspot ▸ hnone'), rfl, .inl rfl⟩
      · exact ⟨_, .enter hdir' hname (hspot ▸ hfile') (by simp) (.stop _ _), rfl,
          .inr ⟨hspot, hfree⟩⟩
  | jump hdir hname hlink _ ih =>
    obtain ⟨arrival', hwalks, hends⟩ := ih
    exact ⟨arrival', .jump (halike.kindAt_of_ne_leaf hdir (by simp)) hname
      (halike.kindAt_of_ne_leaf hlink (by simp)) hwalks, hends⟩
  | @enter _ place name rest _ kind hdir hname hkind hlink next ih =>
    have hdir' := halike.kindAt_of_ne_leaf hdir (by simp)
    rcases halike.kindAt_eq_or (place ++ [name]) with hsame | ⟨hspot, hfree, hfree'⟩
    · obtain ⟨arrival', hwalks, hends⟩ := ih
      exact ⟨arrival', .enter hdir' hname (hsame.trans hkind) hlink hwalks, hends⟩
    · -- Nothing lies below a file, so the walk ends here.
      have hfile : tree.kindAt (place ++ [name]) = some .leaf := by
        rcases kindAt_of_isFreeAt hfree with hnone | hfile
        · cases (hspot ▸ hnone).symm.trans hkind
        · exact hspot ▸ hfile
      cases next with
      | stop =>
        rcases kindAt_of_isFreeAt hfree' with hnone' | hfile'
        · exact ⟨_, .missing hdir' hname (hspot ▸ hnone'), rfl, .inr ⟨hspot, hfree⟩⟩
        · exact ⟨_, .enter hdir' hname (hspot ▸ hfile') (by simp) (.stop _ _), rfl, .inl rfl⟩
      | skip hbelow | up hbelow | missing hbelow | jump hbelow | enter hbelow =>
        cases hfile.symm.trans hbelow

/-- A path does not lead to a spot that holds a regular file or nothing. -/
def PassesBy (tree : FileTree) (cwd spot : Location) (path : String) : Prop :=
  ∀ arrival, tree.arrive cwd .target path = .ok arrival → arrival.spot = spot →
    tree.isFreeAt spot = false

theorem passesBy_of_dir (hplace : tree.locate cwd path = .ok place)
    (hdir : tree.kindAt place = some .dir) : tree.PassesBy cwd spot path := by
  intro arrival harrive hspot
  rw [locate, harrive] at hplace
  cases arrival with
  | absent parent name => cases hplace
  | here found =>
    obtain rfl : found = place := Except.ok.inj hplace
    obtain rfl : found = spot := hspot
    exact isFreeAt_of_kindAt_dir hdir

namespace AlikeBut

variable (h : AlikeBut spot tree other)

include h

theorem arrive (hpurpose : purpose ≠ .entry)
    (harrive : tree.arrive cwd purpose path = .ok arrival) :
    ∃ arrival', other.arrive cwd purpose path = .ok arrival' ∧ arrival'.spot = arrival.spot ∧
      (arrival' = arrival ∨ (arrival.spot = spot ∧ tree.isFreeAt spot = true)) := by
  obtain ⟨hpath, hwalks⟩ := (arrive_eq_ok_iff hpurpose).mp harrive
  obtain ⟨arrival', hwalks', hends⟩ := hwalks.alike h
  exact ⟨arrival', (arrive_eq_ok_iff hpurpose).mpr ⟨hpath, hwalks'⟩, hends⟩

theorem arrive_of_passesBy (hpass : tree.PassesBy cwd spot path)
    (harrive : tree.arrive cwd .target path = .ok arrival) :
    other.arrive cwd .target path = .ok arrival := by
  obtain ⟨arrival', harrive', -, rfl | ⟨hspot, hfree⟩⟩ := h.arrive (by decide) harrive
  · exact harrive'
  · exact Bool.noConfusion ((hpass _ harrive hspot).symm.trans hfree)

theorem isFreeAt_eq_false (hfree : tree.isFreeAt spot = false) : other.isFreeAt spot = false := by
  rcases h.there with hface | ⟨hfree', -⟩
  · cases hnode : tree.get? spot with
    | none => simp [isFreeAt, hnode] at hfree
    | some node =>
      rw [faceAt, faceAt, hnode] at hface
      obtain ⟨found, hfound, hface⟩ := Option.map_eq_some_iff.mp hface
      rw [isFreeAt, hnode] at hfree
      rw [isFreeAt, hfound]
      cases node <;> cases found <;> simp_all [face, empty, isFile]
  · exact Bool.noConfusion (hfree.symm.trans hfree')

theorem passesBy (hpass : tree.PassesBy cwd spot path) : other.PassesBy cwd spot path := by
  intro arrival harrive hspot
  obtain ⟨arrival', harrive', hsame, -⟩ := h.symm.arrive (by decide) harrive
  exact h.isFreeAt_eq_false (hpass arrival' harrive' (hsame.trans hspot))

theorem locate_of_passesBy (hpass : tree.PassesBy cwd spot path)
    (hplace : tree.locate cwd path = .ok place) :
    other.locate cwd path = .ok place ∧ other.faceAt place = tree.faceAt place := by
  rw [locate] at hplace
  cases harrive : tree.arrive cwd .target path with
  | error e => simp [harrive] at hplace
  | ok arrival =>
    rw [harrive] at hplace
    cases arrival with
    | absent parent name => cases hplace
    | here found =>
      obtain rfl : found = place := Except.ok.inj hplace
      rw [locate, h.arrive_of_passesBy hpass harrive]
      exact ⟨rfl, h.faceAt_eq (hpass _ harrive)⟩

theorem face_node?_eq (hpass : tree.PassesBy cwd spot path) :
    (other.node? cwd path).map face = (tree.node? cwd path).map face := by
  cases hplace : tree.locate cwd path with
  | ok place =>
    obtain ⟨hplace', hface⟩ := h.locate_of_passesBy hpass hplace
    rw [node?, node?, hplace, hplace']
    exact hface
  | error e =>
    cases hplace' : other.locate cwd path with
    | ok place =>
      cases (h.symm.locate_of_passesBy (h.passesBy hpass) hplace').1.symm.trans hplace
    | error e' => rw [node?, node?, hplace, hplace']

theorem existsAt_eq (hpass : tree.PassesBy cwd spot path) :
    other.existsAt cwd path = tree.existsAt cwd path := by
  have hface := congrArg Option.isSome (h.face_node?_eq hpass)
  rwa [Option.isSome_map, Option.isSome_map] at hface

end AlikeBut

theorem content?_eq_of_face (site : Site) (path : String) :
    site.content? path =
      match (site.tree.node? site.cwd path).map face with
      | some (.file content _) => some content
      | _ => none := by
  unfold Site.content?
  cases site.tree.node? site.cwd path with
  | none => rfl
  | some node => cases node <;> rfl

theorem AlikeBut.content?_eq (h : AlikeBut spot tree other) (hpass : tree.PassesBy cwd spot path) :
    Site.content? ⟨other, cwd⟩ path = Site.content? ⟨tree, cwd⟩ path := by
  rw [content?_eq_of_face, content?_eq_of_face]
  simp only [h.face_node?_eq hpass]

end Paths

/-! ## Writing in both trees -/

section Writing

variable {tree tree' other : FileTree} {spot place cwd : Location} {path text : String}
  {content : ByteArray} {e : FileError}

theorem placeToWrite_eq_ok_iff :
    tree.placeToWrite cwd path = .ok place ↔
      ∃ arrival, tree.arrive cwd .writing path = .ok arrival ∧ arrival.spot = place ∧
        (tree.kindAt place = none ∨ tree.kindAt place = some .leaf) := by
  refine ⟨kindAt_of_placeToWrite, ?_⟩
  rintro ⟨arrival, harrive, rfl, hkind⟩
  rw [placeToWrite, harrive]
  cases arrival with
  | absent parent name => rfl
  | here place =>
    change tree.kindAt place = none ∨ tree.kindAt place = some .leaf at hkind
    rw [kindAt] at hkind
    cases hnode : tree.get? place with
    | none => simp only [hnode, Arrival.spot]
    | some node => cases node <;> simp_all [kind, Arrival.spot]

/-- A device keeps nothing. -/
theorem eq_of_writeAt_device {device : Device} (hnode : tree.get? place = some (.device device))
    (h : tree.writeAt place content = .ok tree') : tree' = tree := by
  rw [writeAt, hnode] at h
  cases device with
  | full =>
    simp only at h
    split at h
    · exact (Except.ok.inj h).symm
    · cases h
  | _ => exact (Except.ok.inj h).symm

/-- What a path holds when a text was written to it: the text, but a device keeps nothing. -/
theorem content?_of_writeText (h : tree.writeText cwd path text = .ok tree') :
    ∃ place, tree.placeToWrite cwd path = .ok place ∧
      ((∃ device, tree.get? place = some (.device device)) →
        Site.content? ⟨tree', cwd⟩ path = none) ∧
      ((¬∃ device, tree.get? place = some (.device device)) →
        Site.content? ⟨tree', cwd⟩ path = some text.toUTF8) := by
  rw [writeText, writeBytes] at h
  cases hplace : tree.placeToWrite cwd path with
  | error e => simp [hplace] at h
  | ok place =>
    simp only [hplace] at h
    refine ⟨place, rfl, fun hdevice => ?_, fun hdevice => ?_⟩
    · obtain ⟨device, hnode⟩ := hdevice
      obtain rfl := eq_of_writeAt_device hnode h
      obtain ⟨arrival, harrive, rfl, hold⟩ := kindAt_of_placeToWrite hplace
      have hleaf : tree'.kindAt arrival.spot = some .leaf := by rw [kindAt, hnode]; rfl
      unfold Site.content?
      simp only [node?_of_same harrive (fun _ _ => rfl) hold hleaf, hnode]
    · obtain ⟨mode, rfl⟩ := (eq_of_writeAt h).resolve_right fun hkept => hdevice hkept.2
      unfold Site.content?
      simp only [node?_put hplace mode]

/-- Where nothing can be written there is no file. -/
theorem content?_of_writeText_error (h : tree.writeText cwd path text = .error e) :
    Site.content? ⟨tree, cwd⟩ path = none := by
  by_contra hcontent
  obtain ⟨content, hcontent⟩ := Option.ne_none_iff_exists'.mp hcontent
  have hroom : tree.hasRoomAt cwd path = true := by
    unfold Site.content? at hcontent
    split at hcontent
    · next found mode hnode =>
      unfold node? locate at hnode
      rw [hasRoomAt]
      cases harrive : tree.arrive cwd .target path with
      | error e => simp [harrive] at hnode
      | ok arrival =>
        cases arrival with
        | absent parent name => rfl
        | here place =>
          simp only [harrive, Arrival.place] at hnode
          simp [hnode, isFile]
    · cases hcontent
  obtain ⟨tree', hwrite⟩ := exists_writeText hroom text
  cases h.symm.trans hwrite

namespace AlikeBut

variable (h : AlikeBut spot tree other)

include h

theorem placeToWrite (hplace : tree.placeToWrite cwd path = .ok place) :
    other.placeToWrite cwd path = .ok place := by
  obtain ⟨arrival, harrive, rfl, hkind⟩ := placeToWrite_eq_ok_iff.mp hplace
  obtain ⟨arrival', harrive', hspot, -⟩ := h.arrive (by decide) harrive
  refine placeToWrite_eq_ok_iff.mpr ⟨arrival', harrive', hspot, ?_⟩
  rcases h.kindAt_eq_or arrival.spot with hsame | ⟨hspot, -, hfree⟩
  · rwa [hsame]
  · rw [hspot]
    exact kindAt_of_isFreeAt hfree

theorem get?_device {device : Device} (hnode : tree.get? place = some (.device device)) :
    other.get? place = some (.device device) := by
  refine get?_of_faceAt_eq (h.faceAt_eq ?_) hnode (by simp [kind])
  rintro rfl
  rw [isFreeAt, hnode]
  rfl

theorem exists_writeText (hwrite : tree.writeText cwd path text = .ok tree') :
    ∃ other', other.writeText cwd path text = .ok other' := by
  rw [writeText, writeBytes] at hwrite ⊢
  cases hplace : tree.placeToWrite cwd path with
  | error e => simp [hplace] at hwrite
  | ok place =>
    simp only [hplace] at hwrite
    simp only [h.placeToWrite hplace]
    cases hwrite' : other.writeAt place text.toUTF8 with
    | ok other' => exact ⟨other', rfl⟩
    | error e =>
      -- Only a full device refuses a text, and then it does in both trees.
      rw [writeAt] at hwrite'
      split at hwrite'
      · next hfull =>
        rw [writeAt, h.symm.get?_device hfull] at hwrite
        simp only at hwrite
        split at hwrite
        · next hempty => cases (if_pos hempty).symm.trans hwrite'
        · cases hwrite
      all_goals cases hwrite'

/-- What is written to a path it has as content in both trees, whatever it held before. -/
theorem content?_of_writeText {other' : FileTree}
    (hwrite : tree.writeText cwd path text = .ok tree')
    (hwrite' : other.writeText cwd path text = .ok other') :
    Site.content? ⟨other', cwd⟩ path = Site.content? ⟨tree', cwd⟩ path := by
  obtain ⟨place, hplace, hnone, hsome⟩ := FileTree.content?_of_writeText hwrite
  obtain ⟨place', hplace', hnone', hsome'⟩ := FileTree.content?_of_writeText hwrite'
  obtain rfl : place = place' := Except.ok.inj ((h.placeToWrite hplace).symm.trans hplace')
  have hdevice : (∃ device, other.get? place = some (.device device)) ↔
      ∃ device, tree.get? place = some (.device device) :=
    exists_congr fun _ => ⟨h.symm.get?_device, h.get?_device⟩
  by_cases hkept : ∃ device, tree.get? place = some (.device device)
  · rw [hnone hkept, hnone' (hdevice.mpr hkept)]
  · rw [hsome hkept, hsome' fun h => hkept (hdevice.mp h)]

end AlikeBut

end Writing

end FileTree

end TestCursor
