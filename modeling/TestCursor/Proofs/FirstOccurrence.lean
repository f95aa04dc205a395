import Mathlib.Logic.Basic
import TestCursor.TestPath

/-!
# What a root rule cuts off

A root rule leaves what stands behind the leftmost occurrence of a key: of a dot, or of the name of
a package with a dot behind it. Occurrences can overlap, and a place in a text is counted in bytes.

1. The search stops at the leftmost occurrence (`exists_leftmost_of_afterFirst?`), and finds
   nothing only where there is none (`afterFirst?_eq_none_iff`).
2. Bytes of a key inside a text begin and end where characters do, so the bytes of a text hold no
   further occurrence (`standsAt_iff`).
3. So what is left is known from the text and the key (`cutsThrough_iff`), and every rule but the
   empty one cuts with a key that ends with a dot (`rootRule_cuts_at_leftmost`).
-/

namespace TestCursor

/-! ## The search -/

section Search

variable {key text rest : List Char}

theorem afterFirst?_eq_none_iff : afterFirst? key text = none ↔ ¬key <:+: text := by
  induction text with
  | nil =>
    rw [afterFirst?, List.infix_nil]
    cases key <;> simp
  | cons c text ih =>
    rw [afterFirst?, List.infix_cons_iff]
    cases hkey : after? key (c :: text) with
    | some tail =>
      have hhead : key <+: c :: text := ⟨tail, (after?_eq_some_iff.mp hkey).symm⟩
      exact iff_of_false (by simp) (not_not.mpr (.inl hhead))
    | none =>
      have hhead : ¬key <+: c :: text := by
        rintro ⟨tail, htail⟩
        exact absurd (after?_eq_some_iff.mpr htail.symm) (by simp [hkey])
      rw [ih, not_or]
      exact (and_iff_right hhead).symm

theorem exists_leftmost_of_afterFirst? (h : afterFirst? key text = some rest) :
    ∃ front, text = front ++ key ++ rest ∧
      ∀ before after, text = before ++ key ++ after → front <+: before := by
  induction text with
  | nil =>
    rw [afterFirst?] at h
    split at h
    · next hempty =>
      obtain rfl := Option.some.inj h
      obtain rfl := List.isEmpty_iff.mp hempty
      exact ⟨[], rfl, fun before _ _ => List.nil_prefix⟩
    · cases h
  | cons c text ih =>
    rw [afterFirst?] at h
    split at h
    · next tail hkey =>
      obtain rfl := Option.some.inj h
      exact ⟨[], after?_eq_some_iff.mp hkey, fun before _ _ => List.nil_prefix⟩
    · next hkey =>
      -- The key does not stand at the head, so each occurrence is one in the rest of the text.
      obtain ⟨front, hfront, hleast⟩ := ih h
      refine ⟨c :: front, congrArg (c :: ·) hfront, fun before after hsplit => ?_⟩
      cases before with
      | nil => exact absurd (after?_eq_some_iff.mpr hsplit) (by simp [hkey])
      | cons d before =>
        obtain ⟨rfl, htext⟩ := List.cons.inj hsplit
        exact List.cons_prefix_cons.mpr ⟨rfl, hleast before after htext⟩

end Search

/-! ## Places in the bytes of a text -/

section Bytes

variable {key text : String} {offset : Nat}

/-- The bytes of a key stand in those of a text behind `offset` bytes. -/
def StandsAt (key text : String) (offset : Nat) : Prop :=
  text.toByteArray.extract offset (offset + key.utf8ByteSize) = key.toByteArray

instance (key text : String) (offset : Nat) : Decidable (StandsAt key text offset) :=
  inferInstanceAs (Decidable (_ = _))

theorem StandsAt.le (h : StandsAt key text offset) (hkey : key ≠ "") :
    offset + key.utf8ByteSize ≤ text.utf8ByteSize := by
  have hsize : key.utf8ByteSize ≠ 0 := by simpa using hkey
  have hlength := congrArg ByteArray.size h
  rw [ByteArray.size_extract, String.size_toByteArray, String.size_toByteArray] at hlength
  omega

theorem standsAt_append_iff (front rest : String) :
    StandsAt key (front ++ rest) front.utf8ByteSize ↔ StandsAt key rest 0 := by
  have hextract : (front.toByteArray ++ rest.toByteArray).extract (front.utf8ByteSize + 0)
      (front.utf8ByteSize + key.utf8ByteSize) = rest.toByteArray.extract 0 key.utf8ByteSize :=
    ByteArray.extract_append_size_add' String.size_toByteArray.symm
  rw [StandsAt, StandsAt, String.toByteArray_append, Nat.zero_add, ← hextract, Nat.add_zero]

theorem standsAt_zero_iff (hkey : key ≠ "") :
    StandsAt key text 0 ↔ ∃ rest, text = key ++ rest := by
  constructor
  · intro h
    have hle := h.le hkey
    rw [Nat.zero_add] at hle
    rw [StandsAt, Nat.zero_add] at h
    -- The key ends in the text where a character does, since its own bytes are whole characters.
    have hvalid : String.Pos.Raw.IsValid text ⟨key.utf8ByteSize⟩ :=
      String.Pos.Raw.isValid_iff_isValidUTF8_extract_zero.mpr
        ⟨String.Pos.Raw.le_iff.mpr hle, h ▸ key.isValidUTF8⟩
    obtain ⟨front, rest, rfl, hfront⟩ := String.Pos.Raw.isValid_iff_exists_append.mp hvalid
    have hsize : key.utf8ByteSize = front.toByteArray.size :=
      (congrArg String.Pos.Raw.byteIdx hfront).trans String.size_toByteArray.symm
    rw [String.toByteArray_append, ByteArray.extract_append_eq_left hsize] at h
    exact ⟨rest, congrArg (· ++ rest) (String.toByteArray_inj.mp h)⟩
  · rintro ⟨rest, rfl⟩
    rw [StandsAt, Nat.zero_add, String.toByteArray_append,
      ByteArray.extract_append_eq_left String.size_toByteArray.symm]

theorem StandsAt.exists_append (h : StandsAt key text offset) (hkey : key ≠ "") :
    ∃ front rest, text = front ++ rest ∧ front.utf8ByteSize = offset := by
  have hle : (⟨offset + key.utf8ByteSize⟩ : String.Pos.Raw) ≤ text.rawEndPos :=
    String.Pos.Raw.le_iff.mpr (h.le hkey)
  have hne : (⟨offset⟩ : String.Pos.Raw) ≠ ⟨offset + key.utf8ByteSize⟩ := by
    simpa [String.Pos.Raw.ext_iff] using hkey
  have hvalid := (String.Pos.Raw.isValidUTF8_extract_iff ⟨offset⟩ _
    (String.Pos.Raw.le_iff.mpr (Nat.le_add_right offset _)) hle).mp (h ▸ key.isValidUTF8)
  obtain ⟨hfront, -⟩ := hvalid.resolve_left hne
  obtain ⟨front, rest, htext, hoffset⟩ := String.Pos.Raw.isValid_iff_exists_append.mp hfront
  exact ⟨front, rest, htext, (congrArg String.Pos.Raw.byteIdx hoffset).symm⟩

/-- A key stands in the bytes of a text only where it stands in the text. -/
theorem standsAt_iff (hkey : key ≠ "") :
    StandsAt key text offset ↔
      ∃ front rest, text = front ++ key ++ rest ∧ front.utf8ByteSize = offset := by
  constructor
  · intro h
    obtain ⟨front, rest, rfl, rfl⟩ := h.exists_append hkey
    obtain ⟨rest, rfl⟩ := (standsAt_zero_iff hkey).mp ((standsAt_append_iff front rest).mp h)
    exact ⟨front, rest, String.append_assoc.symm, rfl⟩
  · rintro ⟨front, rest, rfl, rfl⟩
    rw [String.append_assoc, standsAt_append_iff, standsAt_zero_iff hkey]
    exact ⟨rest, rfl⟩

end Bytes

/-! ## What is left of a text -/

section Cut

variable {key text rest other : String}

/-- What is left of a text when everything through the leftmost occurrence of a key is cut off. A
text in which the key does not occur stays as it is. -/
inductive CutsThrough (key text : String) : String → Prop
  | cut {front rest : String} (split : text = front ++ key ++ rest)
      (leftmost : ∀ offset < front.utf8ByteSize, ¬StandsAt key text offset) :
      CutsThrough key text rest
  | kept (absent : ∀ offset, ¬StandsAt key text offset) : CutsThrough key text text

/-- The leftmost occurrence is one place, so one text is left. -/
theorem CutsThrough.unique (hkey : key ≠ "") (h : CutsThrough key text rest)
    (hother : CutsThrough key text other) : rest = other := by
  have hstands {front rest : String} (hsplit : text = front ++ key ++ rest) :
      StandsAt key text front.utf8ByteSize := (standsAt_iff hkey).mpr ⟨front, rest, hsplit, rfl⟩
  cases h with
  | kept absent =>
    cases hother with
    | kept => rfl
    | cut split => exact absurd (hstands split) (absent _)
  | @cut front _ split leftmost =>
    cases hother with
    | kept absent => exact absurd (hstands split) (absent _)
    | @cut front' _ split' leftmost' =>
      have hsize : front.utf8ByteSize = front'.utf8ByteSize :=
        Nat.le_antisymm (Nat.le_of_not_lt fun hlt => leftmost _ hlt (hstands split'))
          (Nat.le_of_not_lt fun hlt => leftmost' _ hlt (hstands split))
      have hsame := split.symm.trans split'
      rw [String.append_assoc, String.append_assoc] at hsame
      have hfront : front = front' := String.toByteArray_inj.mp <|
        ByteArray.append_inj_left (congrArg String.toByteArray hsame) (by simpa using hsize)
      rw [hfront, String.append_right_inj, String.append_right_inj] at hsame
      exact hsame

theorem cutsThrough_dropThrough (hkey : key ≠ "") (text : String) :
    CutsThrough key text (String.ofList (dropThrough key.toList text.toList)) := by
  unfold dropThrough
  cases hfound : afterFirst? key.toList text.toList with
  | none =>
    rw [Option.getD_none, String.ofList_toList]
    refine .kept fun offset hstands => ?_
    obtain ⟨front, rest, rfl, -⟩ := (standsAt_iff hkey).mp hstands
    refine afterFirst?_eq_none_iff.mp hfound ⟨front.toList, rest.toList, ?_⟩
    rw [String.toList_append, String.toList_append]
  | some rest =>
    obtain ⟨front, hsplit, hleast⟩ := exists_leftmost_of_afterFirst? hfound
    have htext : text = String.ofList front ++ key ++ String.ofList rest := by
      rw [← String.toList_inj, hsplit]
      simp
    refine .cut htext fun offset hlt hstands => ?_
    obtain ⟨before, after, hbefore, rfl⟩ := (standsAt_iff hkey).mp hstands
    obtain ⟨more, hmore⟩ := hleast before.toList after.toList (by simp [hbefore])
    have hlonger : before = String.ofList front ++ String.ofList more := by
      rw [← String.toList_inj, ← hmore]
      simp
    rw [hlonger, String.utf8ByteSize_append] at hlt
    omega

theorem cutsThrough_iff (hkey : key ≠ "") :
    CutsThrough key text rest ↔ String.ofList (dropThrough key.toList text.toList) = rest :=
  ⟨(cutsThrough_dropThrough hkey text).unique hkey,
    fun h => h ▸ cutsThrough_dropThrough hkey text⟩

theorem CutsThrough.exists_removed (h : CutsThrough key text rest) :
    ∃ removed, text = removed ++ rest ∧ (removed = "" ∨ ∃ front, removed = front ++ key) := by
  cases h with
  | kept => exact ⟨"", String.empty_append.symm, .inl rfl⟩
  | cut split => exact ⟨_, split, .inr ⟨_, rfl⟩⟩

end Cut

/-! ## What a rule leaves -/

section Rule

variable {name : String}

/-- The name of a package with a dot behind it, unless the name ends with a dot already. -/
def closedName (name : String) : String :=
  if ['.'] <:+ name.toList then name else name ++ "."

theorem toList_closedName (name : String) :
    (closedName name).toList = packageKey name.toList := by
  have hlast : ['.'] <:+ name.toList ↔ name.toList.getLast? = some '.' := by
    rw [List.getLast?_eq_some_iff]
    exact exists_congr fun front => eq_comm
  unfold closedName packageKey
  simp only [hlast]
  split
  · rfl
  · exact String.toList_append

theorem exists_closedName (name : String) : ∃ stem, closedName name = stem ++ "." := by
  unfold closedName
  split
  · next hdot =>
    obtain ⟨stem, hstem⟩ := hdot
    refine ⟨String.ofList stem, ?_⟩
    rw [← String.toList_inj, ← hstem]
    simp
  · exact ⟨name, rfl⟩

theorem closedName_ne_empty (name : String) : closedName name ≠ "" := by
  obtain ⟨stem, hstem⟩ := exists_closedName name
  simp [hstem]

theorem RootRule.apply_of_package {path : String} (hname : name ≠ "") :
    RootRule.apply ⟨false, name⟩ path =
      String.ofList (dropThrough (packageKey name.toList) path.toList) := by
  have hnonempty : name.isEmpty = false := by simpa using hname
  simp only [RootRule.apply, Bool.false_eq_true, if_false, hnonempty]

/-- A rule with a package cuts through the name closed by a dot. -/
theorem RootRule.apply_eq_iff {path rest : String} (hname : name ≠ "") :
    RootRule.apply ⟨false, name⟩ path = rest ↔ CutsThrough (closedName name) path rest := by
  rw [cutsThrough_iff (closedName_ne_empty name), toList_closedName, apply_of_package hname]

/-- A rule that leaves out the first segment cuts through a dot. -/
theorem RootRule.apply_dropFirst (path name : String) :
    RootRule.apply ⟨true, name⟩ path = RootRule.apply ⟨false, "."⟩ path := rfl

theorem RootRule.exists_removed (rule : RootRule) (path : String) :
    ∃ removed, path = removed ++ rule.apply path ∧
      (removed = "" ∨ ∃ stem, removed = stem ++ ".") := by
  have hpackage {name : String} (hname : name ≠ "") :
      ∃ removed, path = removed ++ RootRule.apply ⟨false, name⟩ path ∧
        (removed = "" ∨ ∃ stem, removed = stem ++ ".") := by
    obtain ⟨removed, hpath, hremoved⟩ := ((apply_eq_iff hname).mp rfl).exists_removed
    refine ⟨removed, hpath, hremoved.imp_right ?_⟩
    rintro ⟨front, rfl⟩
    obtain ⟨stem, hstem⟩ := exists_closedName name
    exact ⟨front ++ stem, by rw [hstem, String.append_assoc]⟩
  obtain ⟨dropFirst, name⟩ := rule
  cases dropFirst with
  | true =>
    rw [apply_dropFirst]
    exact hpackage (by decide)
  | false =>
    by_cases hname : name = ""
    · subst hname
      exact ⟨"", String.empty_append.symm, .inl rfl⟩
    · exact hpackage hname

theorem RootRule.apply_suffix (rule : RootRule) (path : String) :
    (rule.apply path).toList <:+ path.toList := by
  obtain ⟨removed, hpath, -⟩ := rule.exists_removed path
  exact ⟨removed.toList, by rw [← String.toList_append, ← hpath]⟩

/-- A rule with a package leaves what stands behind the leftmost occurrence of the name closed by
a dot, or the whole path where there is none. A rule that leaves out the first segment does the
same for a dot, whatever its package is. A rule leaves an ending of the path, and if it leaves
anything out then a dot stands in front of that ending. -/
theorem rootRule_cuts_at_leftmost (path name : String) :
    (name ≠ "" → ∀ rest, RootRule.apply ⟨false, name⟩ path = rest ↔
      CutsThrough (closedName name) path rest) ∧
    RootRule.apply ⟨true, name⟩ path = RootRule.apply ⟨false, "."⟩ path ∧
    ∀ dropFirst, ∃ removed, path = removed ++ RootRule.apply ⟨dropFirst, name⟩ path ∧
      ((RootRule.apply ⟨dropFirst, name⟩ path).length < path.length →
        ∃ stem, removed = stem ++ ".") := by
  refine ⟨fun hname rest => RootRule.apply_eq_iff hname, RootRule.apply_dropFirst path name,
    fun dropFirst => ?_⟩
  obtain ⟨removed, hpath, hremoved⟩ := RootRule.exists_removed ⟨dropFirst, name⟩ path
  refine ⟨removed, hpath, fun hshorter => hremoved.resolve_left ?_⟩
  rintro rfl
  rw [String.empty_append] at hpath
  exact absurd (congrArg String.length hpath) (Nat.ne_of_gt hshorter)

/-- In `éaaa.b.aa.c` the name `aa` is found where it stands in front of a dot, and not where it
begins first. -/
theorem rootRule_cuts_at_leftmost_overlap :
    "aa" ≠ "" ∧ closedName "aa" = "aa." ∧ CutsThrough "aa." "éaaa.b.aa.c" "b.aa.c" ∧
      RootRule.apply ⟨false, "aa"⟩ "éaaa.b.aa.c" = "b.aa.c" ∧
      RootRule.apply ⟨true, "aa"⟩ "éaaa.b.aa.c" = RootRule.apply ⟨false, "."⟩ "éaaa.b.aa.c" ∧
      ∃ removed, "éaaa.b.aa.c" = removed ++ "b.aa.c" ∧ ∃ stem, removed = stem ++ "." := by
  have hname : "aa" ≠ "" := by decide
  have hsplit : "éaaa.b.aa.c" = "éa" ++ "aa." ++ "b.aa.c" := rfl
  have hcuts : CutsThrough "aa." "éaaa.b.aa.c" "b.aa.c" := .cut hsplit (by decide)
  obtain ⟨hcut, hdrop, hremoved⟩ := rootRule_cuts_at_leftmost "éaaa.b.aa.c" "aa"
  have hleft := (hcut hname "b.aa.c").mpr hcuts
  obtain ⟨removed, hpath, hdot⟩ := hremoved false
  rw [hleft] at hpath hdot
  exact ⟨hname, by decide, hcuts, hleft, hdrop, removed, hpath, hdot (by decide)⟩

end Rule

end TestCursor
