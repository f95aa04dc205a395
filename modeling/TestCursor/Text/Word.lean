import TestCursor.Text.Blank
import TestCursor.Text.WordTable

/-!
# Words

A word is a run of word characters. Names of test methods and test classes are words.
-/

namespace TestCursor

/-- A character that can stand in a name: a letter, a mark, a digit, a connector or a join
control. The first 128 code points are listed, the others are looked up. -/
def isWordChar (c : Char) : Bool :=
  if c.toNat < 128 then c.isAlphanum || c == '_' else inRanges wordRanges c.toNat

/-- The word in front of a text; empty when the text does not begin with one. -/
def leadingWord (text : List Char) : List Char := text.takeWhile isWordChar

/-- What follows the word in front of a text. -/
def afterWord (text : List Char) : List Char := text.dropWhile isWordChar

theorem leadingWord_append_afterWord (text : List Char) :
    leadingWord text ++ afterWord text = text := List.takeWhile_append_dropWhile

theorem isWordChar_of_mem_leadingWord {c : Char} {text : List Char} (h : c ∈ leadingWord text) :
    isWordChar c = true := by
  induction text with
  | nil => simp [leadingWord] at h
  | cons d rest ih =>
    by_cases hd : isWordChar d
    · simp only [leadingWord, List.takeWhile_cons, hd, if_true, List.mem_cons] at h
      rcases h with rfl | h
      · exact hd
      · exact ih h
    · simp [leadingWord, hd] at h

end TestCursor
