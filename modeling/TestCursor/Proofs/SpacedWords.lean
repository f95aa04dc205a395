import TestCursor.Command
import TestCursor.Proofs.Splitting

/-!
# Words between spaces

The words of a text are what stands between its spaces, and texts joined by spaces have their words
one after the other.

1. Words of two texts with a space between them are those of the first and those of the second
   (`wordsIn_append`). A text is one word exactly when it is not empty and has no space
   (`wordsOf_eq_singleton_iff`).
2. So the words of a command line are those of its parts in their order (`wordsOf_line`).
-/

namespace TestCursor

/-- What stands between the spaces of a text, as characters. -/
def wordsIn (text : List Char) : List (List Char) :=
  (splitOn ' ' text).filter fun piece => !piece.isEmpty

/-- The words of a text: what stands between its spaces. -/
def wordsOf (text : String) : List String :=
  (splitString ' ' text).filter fun piece => !piece.isEmpty

/-- A text that is one word. -/
structure IsOneWord (text : List Char) : Prop where
  not_empty : text ≠ []
  no_space : ' ' ∉ text

section Words

variable {text word front back rest : List Char}

theorem wordsOf_eq_map (text : String) :
    wordsOf text = (wordsIn text.toList).map String.ofList := by
  unfold wordsOf wordsIn splitString
  rw [List.filter_map]
  congr 2
  funext piece
  cases piece <;> simp

theorem wordsIn_append : wordsIn (front ++ ' ' :: back) = wordsIn front ++ wordsIn back := by
  unfold wordsIn
  rw [splitOn_append, List.filter_append]

theorem wordsIn_cons_space (text : List Char) : wordsIn (' ' :: text) = wordsIn text :=
  @wordsIn_append [] text

theorem isOneWord_of_mem (h : word ∈ wordsIn text) : IsOneWord word := by
  obtain ⟨hmem, hword⟩ := List.mem_filter.mp h
  exact ⟨by simpa using hword, not_mem_of_mem_splitOn hmem⟩

theorem wordsIn_eq_singleton_iff : wordsIn text = [text] ↔ IsOneWord text := by
  constructor
  · intro h
    exact isOneWord_of_mem (h ▸ List.mem_singleton.mpr rfl)
  · rintro ⟨hne, hspace⟩
    unfold wordsIn
    rw [splitOn_eq_singleton hspace, List.filter_cons_of_pos (by simpa using hne), List.filter_nil]

/-- A word up to the end of a text or to the next space. -/
theorem wordsIn_word_append (hword : IsOneWord word) (hrest : ∀ c, rest.head? = some c → c = ' ') :
    wordsIn (word ++ rest) = word :: wordsIn rest := by
  cases rest with
  | nil =>
    rw [List.append_nil, wordsIn_eq_singleton_iff.mpr hword]
    rfl
  | cons c rest =>
    obtain rfl := hrest c rfl
    rw [wordsIn_append, wordsIn_eq_singleton_iff.mpr hword, wordsIn_cons_space]
    rfl

theorem length_wordsIn_le (text : List Char) : (wordsIn text).length ≤ text.length := by
  induction text with
  | nil => exact Nat.le_refl 0
  | cons c text ih =>
    by_cases hc : c = ' '
    · subst hc
      rw [wordsIn_cons_space]
      exact Nat.le_succ_of_le ih
    · obtain ⟨piece, pieces, hsplit⟩ := List.exists_cons_of_ne_nil (splitOn_ne_nil ' ' text)
      have hlonger : wordsIn (c :: text) = (c :: piece) :: pieces.filter fun piece =>
          !piece.isEmpty := by
        rw [wordsIn, splitOn, if_neg hc, hsplit]
        rfl
      have hshorter :
          (pieces.filter fun piece => !piece.isEmpty).length ≤ (wordsIn text).length := by
        rw [wordsIn, hsplit]
        exact (List.Sublist.filter _ (List.sublist_cons_self _ _)).length_le
      rw [hlonger, List.length_cons, List.length_cons]
      omega

theorem cases_wordsIn (text : List Char) :
    (∃ spaces, text = List.replicate spaces ' ' ∧ wordsIn text = []) ∨
      ∃ spaces word rest, text = List.replicate spaces ' ' ++ (word ++ rest) ∧ IsOneWord word ∧
        (∀ c, rest.head? = some c → c = ' ') ∧ wordsIn text = word :: wordsIn rest := by
  induction text with
  | nil => exact .inl ⟨0, rfl, rfl⟩
  | cons c text ih =>
    by_cases hc : c = ' '
    · subst hc
      rw [wordsIn_cons_space]
      rcases ih with ⟨spaces, htext, hnone⟩ | ⟨spaces, word, rest, htext, hword, hrest, hwords⟩
      · exact .inl ⟨spaces + 1, by rw [htext, List.replicate_succ], hnone⟩
      · exact .inr ⟨spaces + 1, word, rest, by rw [htext, List.replicate_succ]; rfl, hword, hrest,
          hwords⟩
    · have htext : (c :: text).takeWhile (· != ' ') ++ (c :: text).dropWhile (· != ' ') =
          c :: text := List.takeWhile_append_dropWhile
      have hword : IsOneWord ((c :: text).takeWhile (· != ' ')) := by
        refine ⟨by simp [hc], fun hspace => ?_⟩
        have hkept := List.all_takeWhile (l := c :: text) (p := (· != ' '))
        exact absurd (List.all_eq_true.mp hkept ' ' hspace) (by decide)
      have hrest : ∀ d, ((c :: text).dropWhile (· != ' ')).head? = some d → d = ' ' := by
        intro d hd
        have hstop := List.head?_dropWhile_not (· != ' ') (c :: text)
        simpa [hd] using hstop
      refine .inr ⟨0, _, _, htext.symm, hword, hrest, ?_⟩
      rw [← wordsIn_word_append hword hrest, htext]

theorem head?_of_wordsIn {words : List (List Char)} {c : Char} (h : wordsIn text = word :: words)
    (hc : c ≠ ' ') (hhead : text.head? = some c) : word.head? = some c := by
  rcases cases_wordsIn text with ⟨spaces, -, hnil⟩ | ⟨spaces, found, rest, htext, hfound, -, hcons⟩
  · cases h.symm.trans hnil
  · obtain ⟨rfl, -⟩ := List.cons.inj (h.symm.trans hcons)
    cases spaces with
    | zero =>
      obtain ⟨first, others, rfl⟩ := List.exists_cons_of_ne_nil hfound.not_empty
      rwa [htext] at hhead
    | succ spaces =>
      rw [htext, List.replicate_succ] at hhead
      exact absurd (Option.some.inj hhead).symm hc

end Words

section Texts

variable {text : String} {pieces : List String}

theorem wordsOf_eq_singleton_iff : wordsOf text = [text] ↔ text ≠ "" ∧ ' ' ∉ text.toList := by
  rw [wordsOf_eq_map]
  constructor
  · intro h
    obtain ⟨word, hword, hsame⟩ := List.map_eq_singleton_iff.mp h
    have hone : IsOneWord word := isOneWord_of_mem (hword ▸ List.mem_singleton.mpr rfl)
    rw [← hsame, String.toList_ofList]
    exact ⟨by simpa using hone.not_empty, hone.no_space⟩
  · rintro ⟨hne, hspace⟩
    have hone : IsOneWord text.toList := ⟨by simpa using hne, hspace⟩
    rw [wordsIn_eq_singleton_iff.mpr hone, List.map_singleton, String.ofList_toList]

theorem no_space_of_mem {word : String} (h : word ∈ wordsOf text) : ' ' ∉ word.toList := by
  rw [wordsOf_eq_map] at h
  obtain ⟨chars, hchars, rfl⟩ := List.mem_map.mp h
  rw [String.toList_ofList]
  exact (isOneWord_of_mem hchars).no_space

theorem wordsOf_append_space (text other : String) :
    wordsOf (text ++ " " ++ other) = wordsOf text ++ wordsOf other := by
  have htext : (text ++ " " ++ other).toList = text.toList ++ ' ' :: other.toList := by simp
  rw [wordsOf_eq_map, wordsOf_eq_map, wordsOf_eq_map, htext, wordsIn_append, List.map_append]

theorem wordsOf_intercalate : wordsOf (" ".intercalate pieces) = pieces.flatMap wordsOf := by
  induction pieces with
  | nil => rfl
  | cons piece pieces ih =>
    by_cases hnil : pieces = []
    · subst hnil
      simp
    · rw [String.intercalate_cons_of_ne_nil hnil, wordsOf_append_space, ih, List.flatMap_cons]

/-- The words of a command line are those of its parts: a part that is left out has none. -/
theorem wordsOf_line (parts : CommandParts) :
    wordsOf parts.line = parts.toList.flatMap wordsOf := by
  unfold CommandParts.line
  rw [wordsOf_intercalate]
  induction parts.toList with
  | nil => rfl
  | cons part rest ih =>
    by_cases hpart : part = ""
    · subst hpart
      rw [List.filter_cons_of_neg (by decide), ih]
      rfl
    · rw [List.filter_cons_of_pos (by simpa using hpart), List.flatMap_cons, List.flatMap_cons, ih]

end Texts

end TestCursor
