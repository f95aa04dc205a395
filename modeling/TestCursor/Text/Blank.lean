/-!
# Blank characters

Which characters count as blank, and how much blank text stands in front of a line. The class is
the Unicode property White_Space.
-/

namespace TestCursor

/-- First and last code points of the blocks of blank characters, in increasing order. -/
def blankRanges : List (Nat × Nat) :=
  [(0x9, 0xD), (0x20, 0x20), (0x85, 0x85), (0xA0, 0xA0), (0x1680, 0x1680), (0x2000, 0x200A),
   (0x2028, 0x2029), (0x202F, 0x202F), (0x205F, 0x205F), (0x3000, 0x3000)]

/-- A code point lies in one of the blocks. -/
def inRanges (ranges : List (Nat × Nat)) (code : Nat) : Bool :=
  ranges.any fun r => r.1 ≤ code && code ≤ r.2

/-- A character with the property White_Space. -/
def isBlank (c : Char) : Bool := inRanges blankRanges c.toNat

/-- The text from its first character that is not blank. -/
def trimStart (text : List Char) : List Char := text.dropWhile isBlank

/-- How many blank characters stand in front of the first one that is not blank. -/
def indent (line : List Char) : Nat := (line.takeWhile isBlank).length

@[simp] theorem trimStart_nil : trimStart [] = [] := rfl

@[simp] theorem indent_nil : indent [] = 0 := rfl

theorem indent_cons (c : Char) (line : List Char) :
    indent (c :: line) = if isBlank c then indent line + 1 else 0 := by
  by_cases h : isBlank c <;> simp [indent, h]

theorem trimStart_cons (c : Char) (line : List Char) :
    trimStart (c :: line) = if isBlank c then trimStart line else c :: line := by
  by_cases h : isBlank c <;> simp [trimStart, h]

end TestCursor
