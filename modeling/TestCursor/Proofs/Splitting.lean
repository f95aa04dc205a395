import TestCursor.Text.Split

/-!
# Splitting and joining

Texts are cut at a character, and pieces joined by it.

1. No piece holds the character that the text was cut at (`not_mem_of_mem_splitOn`), and pieces
   that do not hold it are found again when they are joined and cut (`splitOn_joinWith`).
2. What ends a joined text and does not hold the character ends the last piece
   (`suffix_joinWith_concat_iff`).
3. Strings are joined like their characters (`toList_intercalate_eq`), and found again like them
   (`splitString_intercalate`).
-/

namespace TestCursor

section Split

variable {sep : Char} {text piece : List Char} {pieces others : List (List Char)}

theorem not_mem_of_mem_splitOn (h : piece ∈ splitOn sep text) : sep ∉ piece := by
  induction text generalizing piece with
  | nil =>
    rw [List.mem_singleton.mp h]
    exact List.not_mem_nil
  | cons c text ih =>
    rw [splitOn] at h
    split at h
    · rcases List.mem_cons.mp h with rfl | h
      · exact List.not_mem_nil
      · exact ih h
    · next hc =>
      split at h
      · next hnil => exact absurd hnil (splitOn_ne_nil sep text)
      · next first rest hsplit =>
        rw [hsplit] at ih
        rcases List.mem_cons.mp h with rfl | h
        · rw [List.mem_cons, not_or]
          exact ⟨fun heq => hc heq.symm, ih List.mem_cons_self⟩
        · exact ih (List.mem_cons_of_mem _ h)

/-- A text is cut in front of a separator and behind it on its own. -/
theorem splitOn_append (front back : List Char) :
    splitOn sep (front ++ sep :: back) = splitOn sep front ++ splitOn sep back := by
  induction front with
  | nil => simp only [List.nil_append, splitOn, if_true, List.singleton_append]
  | cons c front ih =>
    rw [List.cons_append, splitOn, splitOn, ih]
    split
    · rfl
    · obtain ⟨first, rest, hfront⟩ := List.exists_cons_of_ne_nil (splitOn_ne_nil sep front)
      rw [hfront]
      rfl

theorem exists_last_of_mem (h : sep ∈ text) :
    ∃ front back, text = front ++ sep :: back ∧ sep ∉ back := by
  obtain ⟨rest, back, hreverse, hrest⟩ := List.eq_append_cons_of_mem (List.mem_reverse.mpr h)
  refine ⟨back.reverse, rest.reverse, ?_, mt List.mem_reverse.mp hrest⟩
  rw [← List.reverse_reverse text, hreverse]
  simp

theorem splitOn_eq_singleton (hpiece : sep ∉ piece) : splitOn sep piece = [piece] := by
  induction piece with
  | nil => rfl
  | cons c piece ih =>
    rw [List.mem_cons, not_or] at hpiece
    rw [splitOn, if_neg (Ne.symm hpiece.1), ih hpiece.2]

theorem joinWith_cons (hothers : others ≠ []) :
    joinWith [sep] (piece :: others) = piece ++ sep :: joinWith [sep] others := by
  obtain ⟨next, others, rfl⟩ := List.exists_cons_of_ne_nil hothers
  rw [joinWith, List.append_assoc]
  rfl

theorem splitOn_joinWith (hpieces : pieces ≠ []) (h : ∀ piece ∈ pieces, sep ∉ piece) :
    splitOn sep (joinWith [sep] pieces) = pieces := by
  induction pieces with
  | nil => exact absurd rfl hpieces
  | cons piece pieces ih =>
    obtain ⟨hpiece, hrest⟩ := List.forall_mem_cons.mp h
    by_cases hnil : pieces = []
    · subst hnil
      exact splitOn_eq_singleton hpiece
    · rw [joinWith_cons hnil, splitOn_append, splitOn_eq_singleton hpiece, ih hnil hrest,
        List.singleton_append]

/-- Joining pieces adds no character but the one between them. -/
theorem mem_joinWith_iff {c : Char} (hc : c ≠ sep) :
    c ∈ joinWith [sep] pieces ↔ ∃ piece ∈ pieces, c ∈ piece := by
  induction pieces with
  | nil => simp [joinWith]
  | cons piece pieces ih =>
    by_cases hnil : pieces = []
    · subst hnil
      simp [joinWith]
    · rw [joinWith_cons hnil, List.mem_append, List.mem_cons, ih]
      simp [hc]

/-- Pieces joined in two groups have the character between the groups. -/
theorem joinWith_append_of_ne_nil (hpieces : pieces ≠ []) (hothers : others ≠ []) :
    joinWith [sep] (pieces ++ others) =
      joinWith [sep] pieces ++ sep :: joinWith [sep] others := by
  induction pieces with
  | nil => exact absurd rfl hpieces
  | cons piece pieces ih =>
    by_cases hnil : pieces = []
    · subst hnil
      exact joinWith_cons hothers
    · rw [List.cons_append, joinWith_cons (by simp [hnil]), ih hnil, joinWith_cons hnil,
        List.append_assoc]
      rfl

/-- The first pieces of a text are joined to a text in front of it, up to the end or up to the
character it was cut at. -/
theorem joinWith_append (hpieces : pieces ≠ []) :
    ∃ more, joinWith [sep] (pieces ++ others) = joinWith [sep] pieces ++ more ∧
      (more = [] ∨ more.head? = some sep) := by
  by_cases hothers : others = []
  · exact ⟨[], by simp [hothers], .inl rfl⟩
  · exact ⟨_, joinWith_append_of_ne_nil hpieces hothers, .inr rfl⟩

theorem suffix_joinWith_concat_iff {ending last : List Char} {front : List (List Char)}
    (h : sep ∉ ending) : ending <:+ joinWith [sep] (front ++ [last]) ↔ ending <:+ last := by
  by_cases hfront : front = []
  · subst hfront
    rfl
  have hjoin : joinWith [sep] (front ++ [last]) = joinWith [sep] front ++ sep :: last :=
    joinWith_append_of_ne_nil hfront (by simp)
  rw [hjoin]
  have hlast : last <:+ joinWith [sep] front ++ sep :: last :=
    (List.suffix_cons sep last).trans (List.suffix_append _ _)
  refine ⟨fun hending => ?_, fun hending => hending.trans hlast⟩
  rcases List.suffix_or_suffix_of_suffix hending hlast with hshort | ⟨more, rfl⟩
  · exact hshort
  · -- What stands in front of the last piece ends with the character.
    obtain ⟨before, hbefore⟩ := hending
    have hmore : before ++ more = joinWith [sep] front ++ [sep] :=
      List.append_cancel_right (by simpa using hbefore)
    cases hend : more.getLast? with
    | none =>
      rw [List.getLast?_eq_none_iff.mp hend]
      exact List.suffix_refl _
    | some c =>
      have hc : c = sep := by
        have hlastChar := congrArg List.getLast? hmore
        rw [List.getLast?_append, hend] at hlastChar
        simpa using hlastChar
      exact absurd (List.mem_append_left _ (List.mem_of_getLast? hend)) (hc ▸ h)

theorem toList_intercalate_eq (sep : String) (pieces : List String) :
    (sep.intercalate pieces).toList = joinWith sep.toList (pieces.map String.toList) := by
  induction pieces with
  | nil => simp [joinWith]
  | cons piece pieces ih =>
    cases pieces with
    | nil => simp [joinWith]
    | cons next pieces =>
      rw [String.intercalate_cons_of_ne_nil (by simp), String.toList_append,
        String.toList_append, ih]
      rfl

/-- Strings without the character they are joined by are found again. -/
theorem splitString_intercalate {mark : String} {names : List String} (hmark : mark.toList = [sep])
    (hnames : names ≠ []) (h : ∀ name ∈ names, sep ∉ name.toList) :
    splitString sep (mark.intercalate names) = names := by
  rw [splitString, toList_intercalate_eq, hmark,
    splitOn_joinWith (by simpa using hnames) (List.forall_mem_map.mpr h)]
  simp

end Split

end TestCursor
