import TestCursor.Proofs.SpacedWords

/-!
# The spaces of a command line

A command line has one space between two of its parts, and all other spaces are in the parts.

1. A text has a stray space, at one of its ends or behind another one, exactly when it is cut into
   pieces of which one is empty, and is not empty itself (`nil_mem_splitOn_space_iff`).
2. Texts that are joined by a character are cut there like each of them (`splitOn_joinWith_eq`). So
   a joined text has a stray space when one of its parts has (`hasStraySpace_joinWith_iff`), as long
   as no part is empty; and an empty part is left out of a command line.
-/

namespace TestCursor

/-- A text has a space in front, at its end, or behind another one. -/
inductive HasStraySpace : List Char → Prop
  | leading (rest : List Char) : HasStraySpace (' ' :: rest)
  | trailing (front : List Char) : HasStraySpace (front ++ [' '])
  | doubled (front back : List Char) : HasStraySpace (front ++ ' ' :: ' ' :: back)

section Pieces

variable {sep : Char} {text : List Char} {pieces : List (List Char)}

theorem HasStraySpace.ne_nil (h : HasStraySpace text) : text ≠ [] := by
  cases h <;> simp

/-- Between two separators, and between a separator and an end of the text, is an empty piece. -/
theorem nil_mem_splitOn_space_iff : [] ∈ splitOn ' ' text ↔ text = [] ∨ HasStraySpace text := by
  constructor
  · intro h
    obtain ⟨front, back, hpieces⟩ := List.append_of_mem h
    have htext : text = joinWith [' '] (front ++ [] :: back) := by
      rw [← hpieces, joinWith_splitOn]
    by_cases hfront : front = []
    · subst hfront
      by_cases hback : back = []
      · exact .inl (by rw [htext, hback]; rfl)
      · rw [htext, List.nil_append, joinWith_cons hback]
        exact .inr (.leading _)
    · rw [htext, joinWith_append_of_ne_nil hfront (by simp)]
      by_cases hback : back = []
      · rw [hback]
        exact .inr (.trailing _)
      · rw [joinWith_cons hback]
        exact .inr (.doubled _ _)
  · rintro (rfl | ⟨rest⟩ | ⟨front⟩ | ⟨front, back⟩)
    · exact List.mem_singleton.mpr rfl
    · simp [splitOn]
    · simp [splitOn_append, splitOn]
    · simp [splitOn_append, splitOn]

theorem hasStraySpace_iff : HasStraySpace text ↔ text ≠ [] ∧ [] ∈ splitOn ' ' text := by
  rw [nil_mem_splitOn_space_iff]
  exact ⟨fun h => ⟨h.ne_nil, .inr h⟩, fun h => h.2.resolve_left h.1⟩

/-- Texts joined by a character are cut at it one after the other. -/
theorem splitOn_joinWith_eq (h : pieces ≠ []) :
    splitOn sep (joinWith [sep] pieces) = pieces.flatMap (splitOn sep) := by
  induction pieces with
  | nil => exact absurd rfl h
  | cons piece pieces ih =>
    by_cases hnil : pieces = []
    · subst hnil
      simp [joinWith]
    · rw [joinWith_cons hnil, splitOn_append, ih hnil, List.flatMap_cons]

theorem joinWith_ne_nil (hpieces : pieces ≠ []) (h : ∀ piece ∈ pieces, piece ≠ []) :
    joinWith [sep] pieces ≠ [] := by
  obtain ⟨piece, others, rfl⟩ := List.exists_cons_of_ne_nil hpieces
  by_cases hnil : others = []
  · subst hnil
    exact h piece List.mem_cons_self
  · rw [joinWith_cons hnil]
    simp

theorem hasStraySpace_joinWith_iff (h : ∀ piece ∈ pieces, piece ≠ []) :
    HasStraySpace (joinWith [' '] pieces) ↔ ∃ piece ∈ pieces, HasStraySpace piece := by
  by_cases hnil : pieces = []
  · subst hnil
    exact iff_of_false (fun hstray => hstray.ne_nil rfl) (by simp)
  · rw [hasStraySpace_iff, and_iff_right (joinWith_ne_nil hnil h), splitOn_joinWith_eq hnil,
      List.mem_flatMap]
    refine exists_congr fun piece => and_congr_right fun hpiece => ?_
    rw [hasStraySpace_iff, and_iff_right (h piece hpiece)]

end Pieces

theorem toList_line (parts : CommandParts) :
    parts.line.toList =
      joinWith [' '] ((parts.toList.map String.toList).filter fun part => !part.isEmpty) := by
  rw [CommandParts.line, toList_intercalate_eq, List.filter_map]
  congr 3
  funext part
  rw [Function.comp_apply, Bool.eq_iff_iff]
  simp

/-- A command line keeps the words of its parts in their order, an empty part having none, and adds
no space but one between two parts: it begins or ends with a space, or has two in a row, exactly
when one of its parts does. -/
theorem line_keeps_words_and_spaces (parts : CommandParts) :
    wordsOf parts.line =
        wordsOf parts.runBy ++ wordsOf parts.interpreter ++ wordsOf parts.program ++
          wordsOf parts.testPath ++ wordsOf parts.flags ∧
      (HasStraySpace parts.line.toList ↔ ∃ part ∈ parts.toList, HasStraySpace part.toList) := by
  constructor
  · rw [wordsOf_line, CommandParts.toList]
    simp only [List.flatMap_cons, List.flatMap_nil, List.append_nil, List.append_assoc]
  · rw [toList_line, hasStraySpace_joinWith_iff (by simp)]
    constructor
    · rintro ⟨piece, hpiece, hstray⟩
      obtain ⟨part, hpart, rfl⟩ := List.mem_map.mp (List.mem_filter.mp hpiece).1
      exact ⟨part, hpart, hstray⟩
    · rintro ⟨part, hpart, hstray⟩
      exact ⟨part.toList, List.mem_filter.mpr ⟨List.mem_map_of_mem hpart,
        by simpa using hstray.ne_nil⟩, hstray⟩

/-- A space in front of the program stands behind the one that is put there. -/
example : CommandParts.line ⟨"", "python", " manage.py test", "", "--keepdb"⟩ =
    "python  manage.py test --keepdb" := by decide

end TestCursor
