import TestCursor.Cli.Location
import TestCursor.Proofs.Splitting

/-!
# The grammar of locations

A location is cut at its last colon. What stands behind it is the number of a line if it is a
numeral that fits in a word of 64 bits; otherwise the colon belongs to the file.

1. A text spells a word exactly when it is a numeral whose value is less than 2^64
   (`word?_eq_some_iff`), and the decimal digits of a number are such a text (`word?_toString`).
2. A location is cut at its last colon (`parse_append`). There is no colon in a numeral, so a
   numeral behind a colon stands behind the last one (`parse_line`).
3. The four cases are a relation of its own (`Place.Reads`), and the location comes to what it says
   (`parse_iff_reads`).
-/

namespace TestCursor

namespace Place

/-! ## Numerals -/

/-- Decimal digits, at least one. -/
structure AreDigits (text : List Char) : Prop where
  not_empty : text ≠ []
  digit : ∀ c ∈ text, c.isDigit = true

/-- A numeral and its value: decimal digits, with a plus sign in front or without. -/
inductive IsNumeral : List Char → Nat → Prop
  | unsigned {digits : List Char} (h : AreDigits digits) :
      IsNumeral digits (Nat.ofDigitChars 10 digits 0)
  | signed {digits : List Char} (h : AreDigits digits) :
      IsNumeral ('+' :: digits) (Nat.ofDigitChars 10 digits 0)

section Numerals

variable {text digits : List Char} {value : Nat}

theorem dropPlus_of_areDigits (h : AreDigits digits) : dropPlus digits = digits := by
  unfold dropPlus
  split
  · next rest => exact absurd (h.digit '+' List.mem_cons_self) (by decide)
  · rfl

theorem isNumeral_iff :
    IsNumeral text value ↔ AreDigits (dropPlus text) ∧ numberOf (dropPlus text) = value := by
  constructor
  · intro h
    cases h with
    | unsigned h => rw [dropPlus_of_areDigits h]; exact ⟨h, rfl⟩
    | signed h => exact ⟨h, rfl⟩
  · rintro ⟨hdigits, rfl⟩
    unfold dropPlus at hdigits ⊢
    split at hdigits
    · exact .signed hdigits
    · exact .unsigned hdigits

theorem areDigits_iff : AreDigits text ↔ (text.isEmpty || !text.all Char.isDigit) = false := by
  rw [Bool.or_eq_false_iff, Bool.not_eq_false', List.all_eq_true, List.isEmpty_eq_false_iff]
  exact ⟨fun h => ⟨h.not_empty, h.digit⟩, fun h => ⟨h.1, h.2⟩⟩

/-- A text spells a word exactly when it is a numeral whose value fits. -/
theorem word?_eq_some_iff :
    word? text = some value ↔ IsNumeral text value ∧ value < UInt64.size := by
  rw [isNumeral_iff, areDigits_iff]
  unfold word?
  dsimp only
  constructor
  · intro h
    split at h
    · cases h
    · next hdigits =>
      split at h
      · next hfits =>
        obtain rfl := Option.some.inj h
        exact ⟨⟨Bool.eq_false_iff.mpr hdigits, rfl⟩, hfits⟩
      · cases h
  · rintro ⟨⟨hdigits, rfl⟩, hfits⟩
    rw [hdigits, if_neg Bool.false_ne_true, if_pos hfits]

theorem word?_eq_none_iff :
    word? text = none ↔ ∀ value, IsNumeral text value → UInt64.size ≤ value := by
  constructor
  · intro h value hvalue
    refine Nat.le_of_not_lt fun hfits => ?_
    cases h.symm.trans (word?_eq_some_iff.mpr ⟨hvalue, hfits⟩)
  · intro h
    cases hword : word? text with
    | none => rfl
    | some value =>
      obtain ⟨hvalue, hfits⟩ := word?_eq_some_iff.mp hword
      exact absurd hfits (Nat.not_lt.mpr (h value hvalue))

theorem isNumeral_toString (number : Nat) : IsNumeral (toString number).toList number := by
  have hdigits : (toString number).toList = Nat.toDigits 10 number := Nat.toList_repr
  have hvalue : Nat.ofDigitChars 10 (Nat.toDigits 10 number) 0 = number :=
    Nat.ofDigitChars_toDigits (by omega) (by omega)
  have hnumeral : IsNumeral (Nat.toDigits 10 number) _ :=
    .unsigned ⟨Nat.toDigits_ne_nil,
      fun c hc => Nat.isDigit_of_mem_toDigits (by omega) (by omega) hc⟩
  rwa [hvalue, ← hdigits] at hnumeral

theorem word?_toString {number : Nat} (h : number < UInt64.size) :
    word? (toString number).toList = some number :=
  word?_eq_some_iff.mpr ⟨isNumeral_toString number, h⟩

end Numerals

/-! ## The last colon -/

section Cut

variable {text front back : List Char} {file line argument : String} {number : Nat}

theorem colon_not_mem_of_isNumeral (h : IsNumeral text number) : ':' ∉ text := by
  have hcolon {digits : List Char} (hdigits : AreDigits digits) : ':' ∉ digits :=
    fun hmem => absurd (hdigits.digit ':' hmem) (by decide)
  cases h with
  | unsigned h => exact hcolon h
  | signed h => exact List.not_mem_cons_of_ne_of_not_mem (by decide) (hcolon h)

theorem ne_colon_of_mem_reverse (h : ':' ∉ text) : ∀ c ∈ text.reverse, (c != ':') = true := by
  intro c hc
  rw [bne_iff_ne]
  rintro rfl
  exact h (List.mem_reverse.mp hc)

theorem splitAtLastColon?_append (h : ':' ∉ back) :
    splitAtLastColon? (front ++ ':' :: back) = some (front, back) := by
  have hback := ne_colon_of_mem_reverse h
  have hreverse : (front ++ ':' :: back).reverse = back.reverse ++ ':' :: front.reverse := by simp
  unfold splitAtLastColon?
  rw [hreverse, List.dropWhile_append_of_pos hback, List.takeWhile_append_of_pos hback]
  simp

theorem splitAtLastColon?_eq_none (h : ':' ∉ text) : splitAtLastColon? text = none := by
  have hdrop : text.reverse.dropWhile (· != ':') = [] := by
    rw [← List.append_nil text.reverse, List.dropWhile_append_of_pos (ne_colon_of_mem_reverse h),
      List.dropWhile_nil]
  unfold splitAtLastColon?
  rw [hdrop]

theorem parse_append (h : ':' ∉ line.toList) :
    parse (file ++ ":" ++ line) =
      match word? line.toList with
      | none => .ok ⟨file ++ ":" ++ line, none⟩
      | some 0 => .error (.plain ("Line numbers start at 1: " ++ (file ++ ":" ++ line)))
      | some (index + 1) => .ok ⟨file, some (UInt64.ofNat index)⟩ := by
  have htext : (file ++ ":" ++ line).toList = file.toList ++ ':' :: line.toList := by simp
  unfold parse
  rw [htext, splitAtLastColon?_append h]
  dsimp only
  cases word? line.toList with
  | none => rfl
  | some number =>
    cases number with
    | zero => rfl
    | succ index => rw [String.ofList_toList]

/-- A name with a number behind a colon names that line. Line 0 is refused, in words that repeat
the location as it was given. -/
theorem parse_line (h : word? line.toList = some number) :
    parse (file ++ ":" ++ line) =
      match number with
      | 0 => .error (.plain ("Line numbers start at 1: " ++ (file ++ ":" ++ line)))
      | index + 1 => .ok ⟨file, some (UInt64.ofNat index)⟩ := by
  rw [parse_append (colon_not_mem_of_isNumeral (word?_eq_some_iff.mp h).1)]
  simp only [h]
  cases number with
  | zero => rfl
  | succ index => rfl

end Cut

/-! ## The grammar -/

/-- What a location comes to. The text behind its last colon is the number of a line, or the whole
location is a file. -/
inductive Reads : String → Except Failure Place → Prop
  | line {file number : String} {cursor : Cursor} (hlast : ':' ∉ number.toList)
      (hnumber : IsNumeral number.toList (cursor.toNat + 1))
      (hfits : cursor.toNat + 1 < UInt64.size) :
      Reads (file ++ ":" ++ number) (.ok ⟨file, some cursor⟩)
  | zero {file number : String} (hlast : ':' ∉ number.toList)
      (hnumber : IsNumeral number.toList 0) :
      Reads (file ++ ":" ++ number)
        (.error (.plain ("Line numbers start at 1: " ++ (file ++ ":" ++ number))))
  /-- What stands behind the last colon is no number, or too large a one. -/
  | file {file rest : String} (hlast : ':' ∉ rest.toList)
      (hrest : ∀ value, IsNumeral rest.toList value → UInt64.size ≤ value) :
      Reads (file ++ ":" ++ rest) (.ok ⟨file ++ ":" ++ rest, none⟩)
  | noColon {argument : String} (h : ':' ∉ argument.toList) : Reads argument (.ok ⟨argument, none⟩)

section Grammar

variable {argument : String} {result : Except Failure Place}

theorem cases_lastColon (argument : String) : ':' ∉ argument.toList ∨
    ∃ file rest : String, argument = file ++ ":" ++ rest ∧ ':' ∉ rest.toList := by
  by_cases hcolon : ':' ∈ argument.toList
  · obtain ⟨front, back, htext, hlast⟩ := exists_last_of_mem hcolon
    refine .inr ⟨String.ofList front, String.ofList back, ?_, by rwa [String.toList_ofList]⟩
    rw [← String.toList_inj, htext]
    simp
  · exact .inl hcolon

theorem parse_of_reads (h : Reads argument result) : parse argument = result := by
  cases h with
  | @line file number cursor hlast hnumber hfits =>
    rw [parse_append hlast, word?_eq_some_iff.mpr ⟨hnumber, hfits⟩]
    simp only [UInt64.ofNat_toNat]
  | zero hlast hnumber => rw [parse_append hlast, word?_eq_some_iff.mpr ⟨hnumber, by decide⟩]
  | file hlast hrest => rw [parse_append hlast, word?_eq_none_iff.mpr hrest]
  | noColon h => unfold parse; rw [splitAtLastColon?_eq_none h]

/-- One of the four cases applies to each location. -/
theorem exists_reads (argument : String) : ∃ result, Reads argument result := by
  rcases cases_lastColon argument with hnone | ⟨file, rest, rfl, hlast⟩
  · exact ⟨_, .noColon hnone⟩
  · cases hword : word? rest.toList with
    | none => exact ⟨_, .file hlast (word?_eq_none_iff.mp hword)⟩
    | some number =>
      obtain ⟨hnumber, hfits⟩ := word?_eq_some_iff.mp hword
      cases number with
      | zero => exact ⟨_, .zero hlast hnumber⟩
      | succ index =>
        have hindex : (UInt64.ofNat index).toNat = index :=
          UInt64.toNat_ofNat_of_lt' (Nat.lt_of_succ_lt hfits)
        exact ⟨_, @Reads.line _ _ (UInt64.ofNat index) hlast (by rwa [hindex]) (by rwa [hindex])⟩

end Grammar

/-- A location comes to what the grammar says: each text comes to one file, one line of a file or
one refusal, and to nothing else. So the number of a line behind a colon is found again behind any
file name, whatever colons and digits are in the name. -/
theorem parse_iff_reads :
    (∀ (argument : String) (result : Except Failure Place),
      parse argument = result ↔ Reads argument result) ∧
    ∀ (file : String) (index : Nat), index ≤ UInt64.size - 2 →
      ∃ cursor : Cursor, cursor.toNat = index ∧
        parse (file ++ ":" ++ toString (index + 1)) = .ok ⟨file, some cursor⟩ := by
  refine ⟨fun argument result => ⟨?_, parse_of_reads⟩, fun file index hindex => ?_⟩
  · rintro rfl
    obtain ⟨result, hreads⟩ := exists_reads argument
    rwa [parse_of_reads hreads]
  · have hsize : 2 ≤ UInt64.size := by decide
    have hfits : index + 1 < UInt64.size := by omega
    exact ⟨UInt64.ofNat index, UInt64.toNat_ofNat_of_lt' (Nat.lt_of_succ_lt hfits),
      parse_line (word?_toString hfits)⟩

/-- A name with a drive letter and with numbers behind colons keeps them, and the last line that a
location can name is found. -/
theorem parse_iff_reads_driveLetter :
    18446744073709551614 ≤ UInt64.size - 2 ∧ parse "C:\\work:3:07:18446744073709551615" =
      .ok ⟨"C:\\work:3:07", some 18446744073709551614⟩ := by
  have hfits : 18446744073709551614 ≤ UInt64.size - 2 := by decide
  obtain ⟨cursor, hcursor, hparse⟩ :=
    parse_iff_reads.2 "C:\\work:3:07" 18446744073709551614 hfits
  obtain rfl : cursor = 18446744073709551614 := UInt64.toNat_inj.mp hcursor
  exact ⟨hfits, hparse⟩

end Place

end TestCursor
