import TestCursor.Text.Lines

/-!
# The lines that a cursor takes in

A cursor takes in the first lines of a text, and they are read from the last one upwards.
`reverse_take_eq` and `exists_of_reverse_take_eq` pass between such a list and line numbers.
-/

namespace TestCursor

def textLines (text : String) : List String := (linesOf text.toList).map String.ofList

/-- The cursor stands on a line of a text with `total` lines: the lines down to that one are those
it takes in. A cursor past the end stands on the last line. -/
def Cursor.StandsOn (cursor : Cursor) (total line : Nat) : Prop :=
  min cursor.count total = line + 1

instance (cursor : Cursor) (total line : Nat) : Decidable (cursor.StandsOn total line) :=
  inferInstanceAs (Decidable (min cursor.count total = line + 1))

theorem linesToCursor_eq (text : String) (cursor : Cursor) :
    linesToCursor text cursor = ((textLines text).take cursor.count).reverse := by
  rw [linesToCursor, textLines, List.map_take]

theorem linesToCursor_of_standsOn {text : String} {cursor : Cursor} {line : Nat}
    (h : cursor.StandsOn (textLines text).length line) :
    linesToCursor text cursor = ((textLines text).take (line + 1)).reverse := by
  unfold Cursor.StandsOn at h
  rw [linesToCursor_eq, List.take_eq_take_min, h]

/-! ## Lines seen from below -/

variable {lines : List String} {line : String} {d count : Nat}

/-- The lines taken in are those under a line, the line, and those above it. -/
theorem reverse_take_eq (h : lines[d]? = some line) (hd : d < count) :
    (lines.take count).reverse =
      ((lines.take count).drop (d + 1)).reverse ++ line :: (lines.take d).reverse := by
  obtain ⟨hlen, hget⟩ := List.getElem?_eq_some_iff.mp h
  have hlen' : d < (lines.take count).length := by rw [List.length_take]; omega
  have hsplit : lines.take count = lines.take d ++ line :: (lines.take count).drop (d + 1) := by
    calc lines.take count
        = (lines.take count).take d ++ (lines.take count).drop d :=
          (List.take_append_drop d _).symm
      _ = lines.take d ++ (lines.take count)[d] :: (lines.take count).drop (d + 1) := by
          rw [List.take_take, Nat.min_eq_left (by omega), List.drop_eq_getElem_cons hlen']
      _ = lines.take d ++ line :: (lines.take count).drop (d + 1) := by
          rw [List.getElem_take, hget]
  calc (lines.take count).reverse
      = (lines.take d ++ line :: (lines.take count).drop (d + 1)).reverse := by rw [← hsplit]
    _ = ((lines.take count).drop (d + 1)).reverse ++ line :: (lines.take d).reverse := by
        rw [List.reverse_append, List.reverse_cons, List.append_assoc, List.singleton_append]

theorem exists_getElem?_of_mem_drop (h : line ∈ (lines.take count).drop (d + 1)) :
    ∃ i, d < i ∧ i < count ∧ lines[i]? = some line := by
  obtain ⟨j, hj⟩ := List.mem_iff_getElem?.mp h
  rw [List.getElem?_drop, List.getElem?_take] at hj
  split at hj
  · exact ⟨d + 1 + j, by omega, by omega, hj⟩
  · exact absurd hj (by simp)

/-- Where a line stands among the lines taken in, and which lines are under it. -/
theorem exists_of_reverse_take_eq {nearer farther : List String}
    (h : (lines.take count).reverse = nearer ++ line :: farther) :
    ∃ d, d < count ∧ lines[d]? = some line ∧ farther = (lines.take d).reverse ∧
      ∀ i l, d < i → i < count → lines[i]? = some l → l ∈ nearer := by
  have htake : lines.take count = farther.reverse ++ line :: nearer.reverse := by
    rw [← List.reverse_reverse (lines.take count), h]
    simp
  have hlen : farther.length < (lines.take count).length := by
    rw [htake]
    simp only [List.length_append, List.length_cons, List.length_reverse]
    omega
  rw [List.length_take] at hlen
  have hget (i : Nat) (hi : i < count) :
      lines[i]? = (farther.reverse ++ line :: nearer.reverse)[i]? := by
    rw [← htake, List.getElem?_take, if_pos hi]
  refine ⟨farther.length, by omega, ?_, ?_, ?_⟩
  · rw [hget _ (by omega), List.getElem?_append_right (by simp)]
    simp
  · have hfront : (lines.take count).take farther.length = farther.reverse := by
      rw [htake]
      exact List.take_left' (List.length_reverse ..)
    rw [List.take_take, Nat.min_eq_left (by omega)] at hfront
    rw [hfront, List.reverse_reverse]
  · intro i l hfi hic hl
    rw [hget i hic, List.getElem?_append_right (by simp; omega)] at hl
    obtain ⟨j, hj⟩ : ∃ j, i - farther.reverse.length = j + 1 :=
      ⟨i - farther.length - 1, by simp; omega⟩
    rw [hj, List.getElem?_cons_succ] at hl
    exact List.mem_reverse.mp (List.mem_of_getElem? hl)

end TestCursor
