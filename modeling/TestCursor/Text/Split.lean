/-!
# Splitting and joining

A text cut at every occurrence of one character, and the pieces put together again.
-/

namespace TestCursor

/-- The pieces of a text between the occurrences of a character. There is always at least one. -/
def splitOn (sep : Char) : List Char → List (List Char)
  | [] => [[]]
  | c :: rest =>
    if c = sep then [] :: splitOn sep rest
    else
      match splitOn sep rest with
      | [] => [[c]]
      | piece :: pieces => (c :: piece) :: pieces

/-- Pieces put together with a text between neighbours. -/
def joinWith (sep : List Char) : List (List Char) → List Char
  | [] => []
  | [piece] => piece
  | piece :: next :: pieces => piece ++ sep ++ joinWith sep (next :: pieces)

theorem splitOn_ne_nil (sep : Char) (text : List Char) : splitOn sep text ≠ [] := by
  cases text with
  | nil => simp [splitOn]
  | cons c rest =>
    simp only [splitOn]
    split
    · simp
    · split <;> simp

/-- Joining the pieces with the character they were cut at gives the text back. -/
theorem joinWith_splitOn (sep : Char) (text : List Char) :
    joinWith [sep] (splitOn sep text) = text := by
  induction text with
  | nil => rfl
  | cons c rest ih =>
    have hne := splitOn_ne_nil sep rest
    cases h : splitOn sep rest with
    | nil => exact absurd h hne
    | cons piece pieces =>
      rw [h] at ih
      by_cases hc : c = sep
      · simp [splitOn, hc, h, joinWith, ih]
      · cases pieces with
        | nil => simp_all [splitOn, joinWith]
        | cons next more => simp_all [splitOn, joinWith]

/-- The pieces of a text between the occurrences of a character, as strings. -/
def splitString (sep : Char) (text : String) : List String :=
  (splitOn sep text.toList).map String.ofList

end TestCursor
