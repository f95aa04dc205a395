import TestCursor.Scope.Basic

/-!
# What a line of code reads

The shape of a line that defines a test method and of one that opens a class, said without the
reader: as a text in pieces. `LineKind.of` finds exactly these shapes
(`kind_eq_testDef_iff`, `kind_eq_classDef_iff`), so no line has both.
-/

namespace TestCursor

/-- Every character of the text is blank. -/
def AllBlank (text : List Char) : Prop := ∀ c ∈ text, isBlank c = true

/-- Every character of the text can stand in a word. -/
def AllWord (text : List Char) : Prop := ∀ c ∈ text, isWordChar c = true

/-- The line reads: blanks, `def`, one blank or more, a name, blanks, `(`. The name is `test_`
followed by one word character or more. -/
def DefinesTest (line name : String) : Prop :=
  ∃ lead gap word space rest : List Char,
    line.toList =
        lead ++ (['d', 'e', 'f'] ++ (gap ++ (testMarker ++ word ++ (space ++ '(' :: rest)))) ∧
      AllBlank lead ∧ (gap ≠ [] ∧ AllBlank gap) ∧ (word ≠ [] ∧ AllWord word) ∧ AllBlank space ∧
      name = String.ofList (testMarker ++ word)

/-- The line reads: blanks, `class`, one blank or more, a name. The name is a run of one word
character or more, and no word character follows it. -/
def OpensClass (line name : String) : Prop :=
  ∃ lead gap word rest : List Char,
    line.toList = lead ++ (['c', 'l', 'a', 's', 's'] ++ (gap ++ (word ++ rest))) ∧
      AllBlank lead ∧ (gap ≠ [] ∧ AllBlank gap) ∧ (word ≠ [] ∧ AllWord word) ∧
      (∀ c, rest.head? = some c → isWordChar c = false) ∧ name = String.ofList word

/-- The line neither defines a test method nor opens a class. -/
def SaysNothing (line : String) : Prop :=
  (∀ name, ¬ DefinesTest line name) ∧ ∀ name, ¬ OpensClass line name

/-! ## Blanks -/

theorem trimStart_append {lead : List Char} (h : AllBlank lead) (rest : List Char) :
    trimStart (lead ++ rest) = trimStart rest :=
  List.dropWhile_append_of_pos h

theorem trimStart_eq_self {text : List Char} (h : ∀ c, text.head? = some c → isBlank c = false) :
    trimStart text = text := by
  cases text with
  | nil => rfl
  | cons c rest => rw [trimStart_cons, h c rfl]; rfl

theorem isBlank_of_head_trimStart {text : List Char} {c : Char}
    (h : (trimStart text).head? = some c) : isBlank c = false := by
  have hnot := List.head?_dropWhile_not isBlank text
  rw [show text.dropWhile isBlank = trimStart text from rfl, h] at hnot
  simpa using hnot

theorem exists_lead (text : List Char) : ∃ lead, AllBlank lead ∧ text = lead ++ trimStart text := by
  refine ⟨text.takeWhile isBlank, ?_, List.takeWhile_append_dropWhile.symm⟩
  intro c hc
  exact List.all_eq_true.mp List.all_takeWhile c hc

theorem trimStart_of_allBlank {text : List Char} (h : AllBlank text) : trimStart text = [] := by
  have htrim := trimStart_append h []
  rwa [List.append_nil] at htrim

theorem indent_append {lead : List Char} (h : AllBlank lead) (rest : List Char) :
    indent (lead ++ rest) = lead.length + indent rest := by
  rw [indent, indent, List.takeWhile_append_of_pos h, List.length_append]

theorem indent_eq_zero {text : List Char} (h : ∀ c, text.head? = some c → isBlank c = false) :
    indent text = 0 := by
  cases text with
  | nil => rfl
  | cons c text => rw [indent_cons, h c rfl, if_neg Bool.false_ne_true]

/-- The indentation stands in front of the first character that is not blank. -/
theorem indent_append_of_code {text : List Char} (h : trimStart text ≠ []) (more : List Char) :
    indent (text ++ more) = indent text := by
  induction text with
  | nil => exact absurd rfl h
  | cons c text ih =>
    rw [trimStart_cons] at h
    rw [List.cons_append, indent_cons, indent_cons]
    cases hc : isBlank c with
    | true =>
      rw [if_pos hc] at h
      rw [if_pos rfl, if_pos rfl, ih h]
    | false => rfl

/-- The code points of the blank characters, one by one. -/
def blankCodes : List Nat :=
  [0x9, 0xA, 0xB, 0xC, 0xD, 0x20, 0x85, 0xA0, 0x1680, 0x2000, 0x2001, 0x2002, 0x2003, 0x2004,
   0x2005, 0x2006, 0x2007, 0x2008, 0x2009, 0x200A, 0x2028, 0x2029, 0x202F, 0x205F, 0x3000]

theorem toNat_mem_blankCodes {c : Char} (h : isBlank c = true) : c.toNat ∈ blankCodes := by
  simp only [isBlank, inRanges, blankRanges, List.any_cons, List.any_nil, Bool.or_false,
    Bool.or_eq_true, Bool.and_eq_true, decide_eq_true_eq] at h
  simp only [blankCodes, List.mem_cons, List.not_mem_nil, or_false]
  omega

theorem isWordChar_of_isBlank {c : Char} (h : isBlank c = true) : isWordChar c = false := by
  have key : ∀ code ∈ blankCodes, isWordChar (Char.ofNat code) = false := by decide +kernel
  have hc := key c.toNat (toNat_mem_blankCodes h)
  rwa [Char.ofNat_toNat] at hc

theorem isBlank_of_isWordChar {c : Char} (h : isWordChar c = true) : isBlank c = false := by
  cases hc : isBlank c with
  | false => rfl
  | true => rw [isWordChar_of_isBlank hc] at h; exact absurd h (by simp)

/-! ## Words -/

theorem leadingWord_append {word rest : List Char} (hw : AllWord word)
    (hr : ∀ c, rest.head? = some c → isWordChar c = false) : leadingWord (word ++ rest) = word := by
  unfold leadingWord
  rw [List.takeWhile_append_of_pos hw]
  cases rest with
  | nil => simp
  | cons c rest => simp [hr c rfl]

theorem afterWord_append {word rest : List Char} (hw : AllWord word)
    (hr : ∀ c, rest.head? = some c → isWordChar c = false) : afterWord (word ++ rest) = rest := by
  unfold afterWord
  rw [List.dropWhile_append_of_pos hw]
  cases rest with
  | nil => rfl
  | cons c rest => simp [hr c rfl]

theorem isWordChar_of_head_afterWord {text : List Char} {c : Char}
    (h : (afterWord text).head? = some c) : isWordChar c = false := by
  have hnot := List.head?_dropWhile_not isWordChar text
  rw [show text.dropWhile isWordChar = afterWord text from rfl, h] at hnot
  simpa using hnot

theorem allWord_leadingWord (text : List Char) : AllWord (leadingWord text) :=
  fun _ h => isWordChar_of_mem_leadingWord h

theorem allWord_testMarker : AllWord testMarker :=
  List.all_eq_true.mp (show testMarker.all isWordChar = true by decide)

theorem isTestName_iff {name : List Char} :
    isTestName name = true ↔ ∃ word, word ≠ [] ∧ name = testMarker ++ word := by
  unfold isTestName
  constructor
  · intro h
    split at h
    · next c rest hafter =>
      exact ⟨c :: rest, by simp, after?_eq_some_iff.mp hafter⟩
    · exact absurd h (by simp)
  · rintro ⟨word, hne, rfl⟩
    obtain ⟨c, rest, rfl⟩ := List.exists_cons_of_ne_nil hne
    rw [after?_eq_some_iff.mpr rfl]

/-! ## Keywords -/

/-- What follows a keyword: the line is blanks, the keyword, one blank or more, and the rest from
its first character that is not blank. -/
theorem afterKeyword_eq_some_iff {k : Char} {keyword line rest : List Char}
    (hk : isBlank k = false) :
    afterKeyword (k :: keyword) line = some rest ↔
      ∃ lead gap, line = lead ++ (k :: keyword ++ (gap ++ rest)) ∧ AllBlank lead ∧
        (gap ≠ [] ∧ AllBlank gap) ∧ ∀ c, rest.head? = some c → isBlank c = false := by
  unfold afterKeyword
  constructor
  · intro h
    split at h
    · next c after hafter =>
      split at h
      · next hc =>
        obtain rfl := Option.some.inj h
        obtain ⟨lead, hlead, hline⟩ := exists_lead line
        obtain ⟨gap, hgap, hrest⟩ := exists_lead after
        refine ⟨lead, c :: gap, ?_, hlead, ⟨by simp, ?_⟩, fun d hd => isBlank_of_head_trimStart hd⟩
        · calc line = lead ++ trimStart line := hline
            _ = lead ++ (k :: keyword ++ c :: after) := by rw [after?_eq_some_iff.mp hafter]
            _ = lead ++ (k :: keyword ++ (c :: gap ++ trimStart after)) := by
              rw [show c :: gap ++ trimStart after = c :: (gap ++ trimStart after) from rfl,
                ← hrest]
        · intro d hd
          rcases List.mem_cons.mp hd with rfl | hd
          · exact hc
          · exact hgap d hd
      · exact absurd h (by simp)
    · exact absurd h (by simp)
  · rintro ⟨lead, gap, rfl, hlead, ⟨hne, hgap⟩, hrest⟩
    obtain ⟨c, gap, rfl⟩ := List.exists_cons_of_ne_nil hne
    have hc : isBlank c = true := hgap c (by simp)
    have htail : AllBlank gap := fun d hd => hgap d (by simp [hd])
    rw [trimStart_append hlead, trimStart_eq_self (by simp [hk]), after?_eq_some_iff.mpr rfl]
    simp only [List.cons_append, hc, if_true]
    rw [trimStart_append htail, trimStart_eq_self hrest]

theorem testDefName?_eq_some_iff {line name : List Char} :
    testDefName? line = some name ↔
      ∃ lead gap word space rest : List Char,
        line =
            lead ++ (['d', 'e', 'f'] ++ (gap ++ (testMarker ++ word ++ (space ++ '(' :: rest)))) ∧
          AllBlank lead ∧ (gap ≠ [] ∧ AllBlank gap) ∧ (word ≠ [] ∧ AllWord word) ∧
          AllBlank space ∧ name = testMarker ++ word := by
  unfold testDefName?
  constructor
  · intro h
    split at h
    · exact absurd h (by simp)
    next text htext =>
    split at h
    · next hname =>
      obtain rfl := Option.some.inj h
      obtain ⟨lead, gap, hline, hlead, hgap, -⟩ := (afterKeyword_eq_some_iff (by decide)).mp htext
      rw [Bool.and_eq_true, beq_iff_eq] at hname
      obtain ⟨hname, hparen⟩ := hname
      obtain ⟨word, hne, hword⟩ := isTestName_iff.mp hname
      obtain ⟨space, hspace, hafter⟩ := exists_lead (afterWord text)
      obtain ⟨rest, hrest⟩ := List.head?_eq_some_iff.mp hparen
      have hall : AllWord word := by
        intro c hc
        exact allWord_leadingWord text c (by rw [hword]; simp [hc])
      refine ⟨lead, gap, word, space, rest, ?_, hlead, hgap, ⟨hne, hall⟩, hspace, hword⟩
      rw [hline, ← hrest, ← hafter, ← hword, leadingWord_append_afterWord]
    · exact absurd h (by simp)
  · rintro ⟨lead, gap, word, space, rest, hline, hlead, hgap, ⟨hne, hword⟩, hspace, rfl⟩
    have hname : AllWord (testMarker ++ word) := by
      intro c hc
      rcases List.mem_append.mp hc with hc | hc
      · exact allWord_testMarker c hc
      · exact hword c hc
    have hstop : ∀ c, (space ++ '(' :: rest).head? = some c → isWordChar c = false := by
      intro c hc
      cases space with
      | nil => obtain rfl := Option.some.inj hc; decide
      | cons d space =>
        obtain rfl := Option.some.inj hc
        exact isWordChar_of_isBlank (hspace d (by simp))
    rw [(afterKeyword_eq_some_iff (by decide)).mpr
      ⟨lead, gap, hline, hlead, hgap, fun c hc => by obtain rfl := Option.some.inj hc; decide⟩]
    simp only
    rw [leadingWord_append hname hstop, afterWord_append hname hstop, trimStart_append hspace,
      trimStart_eq_self (by simp; decide), isTestName_iff.mpr ⟨word, hne, rfl⟩]
    rfl

theorem classDefName?_eq_some_iff {line name : List Char} :
    classDefName? line = some name ↔
      ∃ lead gap rest : List Char,
        line = lead ++ (['c', 'l', 'a', 's', 's'] ++ (gap ++ (name ++ rest))) ∧
          AllBlank lead ∧ (gap ≠ [] ∧ AllBlank gap) ∧ (name ≠ [] ∧ AllWord name) ∧
          ∀ c, rest.head? = some c → isWordChar c = false := by
  unfold classDefName?
  constructor
  · intro h
    split at h
    · exact absurd h (by simp)
    next text htext =>
    split at h
    · exact absurd h (by simp)
    next hne =>
    obtain rfl := Option.some.inj h
    obtain ⟨lead, gap, hline, hlead, hgap, -⟩ := (afterKeyword_eq_some_iff (by decide)).mp htext
    refine ⟨lead, gap, afterWord text, ?_, hlead, hgap,
      ⟨by simpa using hne, allWord_leadingWord text⟩,
      fun c hc => isWordChar_of_head_afterWord hc⟩
    rw [hline, leadingWord_append_afterWord]
  · rintro ⟨lead, gap, rest, hline, hlead, hgap, ⟨hne, hword⟩, hstop⟩
    have hhead : ∀ c, (name ++ rest).head? = some c → isBlank c = false := by
      intro c hc
      obtain ⟨d, name, rfl⟩ := List.exists_cons_of_ne_nil hne
      obtain rfl := Option.some.inj hc
      exact isBlank_of_isWordChar (hword d (by simp))
    rw [(afterKeyword_eq_some_iff (by decide)).mpr ⟨lead, gap, hline, hlead, hgap, hhead⟩]
    simp only
    rw [leadingWord_append hword hstop, if_neg (by simpa using hne)]

/-! ## Kinds of lines -/

theorem classDefName?_of_testDefName? {line name : List Char} (h : testDefName? line = some name) :
    classDefName? line = none := by
  obtain ⟨lead, gap, word, space, rest, rfl, hlead, -⟩ := testDefName?_eq_some_iff.mp h
  unfold classDefName? afterKeyword
  rw [trimStart_append hlead, trimStart_eq_self (by simp; decide)]
  rfl

theorem kind_eq_testDef_iff {line name : String} :
    LineKind.of line = .testDef name ↔ DefinesTest line name := by
  have hkind : LineKind.of line = .testDef name ↔
      ∃ chars, testDefName? line.toList = some chars ∧ String.ofList chars = name := by
    unfold LineKind.of
    cases ht : testDefName? line.toList with
    | some chars => simp
    | none => cases hc : classDefName? line.toList <;> simp
  rw [hkind]
  constructor
  · rintro ⟨chars, hchars, rfl⟩
    obtain ⟨lead, gap, word, space, rest, hline, hlead, hgap, hword, hspace, rfl⟩ :=
      testDefName?_eq_some_iff.mp hchars
    exact ⟨lead, gap, word, space, rest, hline, hlead, hgap, hword, hspace, rfl⟩
  · rintro ⟨lead, gap, word, space, rest, hline, hlead, hgap, hword, hspace, rfl⟩
    exact ⟨testMarker ++ word, testDefName?_eq_some_iff.mpr
      ⟨lead, gap, word, space, rest, hline, hlead, hgap, hword, hspace, rfl⟩, rfl⟩

theorem kind_eq_classDef_iff {line name : String} :
    LineKind.of line = .classDef name ↔ OpensClass line name := by
  have hkind : LineKind.of line = .classDef name ↔
      ∃ chars, classDefName? line.toList = some chars ∧ String.ofList chars = name := by
    unfold LineKind.of
    cases ht : testDefName? line.toList with
    | some chars => simp [classDefName?_of_testDefName? ht]
    | none => cases hc : classDefName? line.toList <;> simp
  rw [hkind]
  constructor
  · rintro ⟨chars, hchars, rfl⟩
    obtain ⟨lead, gap, rest, hline, hlead, hgap, hword, hstop⟩ :=
      classDefName?_eq_some_iff.mp hchars
    exact ⟨lead, gap, chars, rest, hline, hlead, hgap, hword, hstop, rfl⟩
  · rintro ⟨lead, gap, word, rest, hline, hlead, hgap, hword, hstop, rfl⟩
    exact ⟨word, classDefName?_eq_some_iff.mpr
      ⟨lead, gap, rest, hline, hlead, hgap, hword, hstop⟩, rfl⟩

theorem kind_eq_other_iff {line : String} : LineKind.of line = .other ↔ SaysNothing line := by
  unfold SaysNothing
  simp only [← kind_eq_testDef_iff, ← kind_eq_classDef_iff]
  cases LineKind.of line <;> simp

theorem DefinesTest.not_opensClass {line a b : String} (ha : DefinesTest line a) :
    ¬ OpensClass line b := by
  rw [← kind_eq_testDef_iff] at ha
  rw [← kind_eq_classDef_iff, ha]
  simp

theorem DefinesTest.name_ne_empty {line name : String} (h : DefinesTest line name) : name ≠ "" := by
  obtain ⟨lead, gap, word, space, rest, -, -, -, -, -, rfl⟩ := h
  simp [testMarker]

theorem saysNothing_of_isCodeless {line : String} (h : isCodeless line = true) :
    SaysNothing line := by
  constructor
  · rintro name ⟨lead, gap, word, space, rest, hline, hlead, -⟩
    rw [isCodeless, hline, trimStart_append hlead, trimStart_eq_self (by simp; decide)] at h
    simp at h
  · rintro name ⟨lead, gap, word, rest, hline, hlead, -⟩
    rw [isCodeless, hline, trimStart_append hlead, trimStart_eq_self (by simp; decide)] at h
    simp at h

theorem OpensClass.isCodeless {line name : String} (h : OpensClass line name) :
    isCodeless line = false := by
  cases hcode : TestCursor.isCodeless line with
  | false => rfl
  | true => exact absurd h ((saysNothing_of_isCodeless hcode).2 name)

theorem DefinesTest.isCodeless {line name : String} (h : DefinesTest line name) :
    isCodeless line = false := by
  cases hcode : TestCursor.isCodeless line with
  | false => rfl
  | true => exact absurd h ((saysNothing_of_isCodeless hcode).1 name)

end TestCursor
