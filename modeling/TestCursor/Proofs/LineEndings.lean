import TestCursor.Proofs.AlikeLines
import TestCursor.Proofs.LineGrammar

/-!
# Line endings and blanks at the end of a line

What a line says ends with a character that is not blank, so blanks behind a line change nothing
that is read from it. A carriage return is blank, and so lines can end with it or without.

1. A shape that ends with a character that is not blank is found in a line with blanks behind it
   exactly where it is found in the line (`exists_rest_of_append`), so the line defines and opens
   the same (`definesTest_iff_of_trailsBlanks`, `opensClass_iff_of_trailsBlanks`).
2. With a carriage return in front of every line feed a text has the same lines, some of them with
   one more carriage return behind them (`ReadsLines.exists_returned`).
3. Neither changes a scope (`scope_ignores_line_endings`).
-/

namespace TestCursor

/-- The other line has blanks behind the line, or is the line. -/
def TrailsBlanks (line other : String) : Prop :=
  ∃ blanks, AllBlank blanks ∧ other.toList = line.toList ++ blanks

/-! ## Blanks behind a line -/

section TrailingBlanks

variable {line other name : String}

theorem exists_rest_of_append {text blanks front rest : List Char} {c : Char}
    (hblanks : AllBlank blanks) (hc : isBlank c = false)
    (h : text ++ blanks = front ++ c :: rest) :
    ∃ kept, rest = kept ++ blanks ∧ text = front ++ c :: kept := by
  have hnot : c ∉ blanks := fun hmem => Bool.false_ne_true (hc.symm.trans (hblanks c hmem))
  rcases List.append_eq_append_iff.mp h with ⟨more, -, hmore⟩ | ⟨more, htext, hmore⟩
  · exact absurd (hmore ▸ List.mem_append_right more List.mem_cons_self) hnot
  · cases more with
    | nil => exact absurd ((List.nil_append blanks ▸ hmore) ▸ List.mem_cons_self) hnot
    | cons d kept =>
      obtain ⟨rfl, hrest⟩ := List.cons.inj hmore
      exact ⟨kept, hrest, htext⟩

theorem definesTest_iff_of_trailsBlanks (h : TrailsBlanks line other) :
    DefinesTest other name ↔ DefinesTest line name := by
  obtain ⟨blanks, hblanks, hother⟩ := h
  constructor
  · rintro ⟨lead, gap, word, space, rest, hshape, hlead, hgap, hword, hspace, hname⟩
    -- The shape ends with the parenthesis, which is not blank.
    have hparen : line.toList ++ blanks =
        (lead ++ (['d', 'e', 'f'] ++ (gap ++ (testMarker ++ word ++ space)))) ++ '(' :: rest := by
      rw [← hother, hshape]
      simp only [List.append_assoc]
    obtain ⟨kept, -, hline⟩ := exists_rest_of_append hblanks (by decide) hparen
    refine ⟨lead, gap, word, space, kept, ?_, hlead, hgap, hword, hspace, hname⟩
    rw [hline]
    simp only [List.append_assoc]
  · rintro ⟨lead, gap, word, space, rest, hshape, hlead, hgap, hword, hspace, hname⟩
    refine ⟨lead, gap, word, space, rest ++ blanks, ?_, hlead, hgap, hword, hspace, hname⟩
    rw [hother, hshape]
    simp only [List.append_assoc, List.cons_append]

theorem opensClass_iff_of_trailsBlanks (h : TrailsBlanks line other) :
    OpensClass other name ↔ OpensClass line name := by
  obtain ⟨blanks, hblanks, hother⟩ := h
  constructor
  · rintro ⟨lead, gap, word, rest, hshape, hlead, hgap, ⟨hne, hword⟩, hstop, hname⟩
    -- The shape ends with the last character of the name, which is not blank.
    obtain ⟨front, c, rfl⟩ := (List.eq_nil_or_concat' word).resolve_left hne
    have hc : isBlank c = false := isBlank_of_isWordChar (hword c (by simp))
    have hlast : line.toList ++ blanks =
        (lead ++ (['c', 'l', 'a', 's', 's'] ++ (gap ++ front))) ++ c :: rest := by
      rw [← hother, hshape]
      simp only [List.append_assoc, List.singleton_append]
    obtain ⟨kept, hrest, hline⟩ := exists_rest_of_append hblanks hc hlast
    refine ⟨lead, gap, front ++ [c], kept, ?_, hlead, hgap, ⟨hne, hword⟩, ?_, hname⟩
    · rw [hline]
      simp only [List.append_assoc, List.singleton_append]
    · intro d hd
      refine hstop d ?_
      rw [hrest, List.head?_append, hd]
      rfl
  · rintro ⟨lead, gap, word, rest, hshape, hlead, hgap, hword, hstop, hname⟩
    refine ⟨lead, gap, word, rest ++ blanks, ?_, hlead, hgap, hword, ?_, hname⟩
    · rw [hother, hshape]
      simp only [List.append_assoc]
    · intro d hd
      rw [List.head?_append] at hd
      cases hrest : rest.head? with
      | none =>
        rw [hrest, Option.none_or] at hd
        exact isWordChar_of_isBlank (hblanks d (List.mem_of_head? hd))
      | some e =>
        rw [hrest, Option.some_or] at hd
        exact hstop d (hrest.trans hd)

theorem indentWidth_of_trailsBlanks (h : TrailsBlanks line other) (hspeaks : speaks line = true) :
    indentWidth other = indentWidth line := by
  obtain ⟨blanks, -, hother⟩ := h
  rw [indentWidth, hother, indent_append_of_code (trimStart_ne_nil_of_speaks hspeaks)]
  rfl

theorem keepsReading_trailsBlanks : KeepsReading TrailsBlanks where
  same_kind := by
    intro line other h
    cases hkind : LineKind.of line with
    | testDef name =>
      have hdefines := kind_eq_testDef_iff.mp hkind
      exact (kind_eq_testDef_iff.mpr ((definesTest_iff_of_trailsBlanks h).mpr hdefines)).symm
    | classDef name =>
      have hopens := kind_eq_classDef_iff.mp hkind
      exact (kind_eq_classDef_iff.mpr ((opensClass_iff_of_trailsBlanks h).mpr hopens)).symm
    | other =>
      obtain ⟨hdefines, hopens⟩ := kind_eq_other_iff.mp hkind
      exact (kind_eq_other_iff.mpr
        ⟨fun name => mt (definesTest_iff_of_trailsBlanks h).mp (hdefines name),
          fun name => mt (opensClass_iff_of_trailsBlanks h).mp (hopens name)⟩).symm
  same_order := by
    intro line other line' other' h h' hspeaks hspeaks'
    rw [indentWidth_of_trailsBlanks h hspeaks, indentWidth_of_trailsBlanks h' hspeaks']

end TrailingBlanks

/-! ## Carriage returns -/

/-- The characters with a carriage return put in front of every line feed. -/
def returned (text : List Char) : List Char :=
  text.flatMap fun c => if c = '\n' then ['\r', '\n'] else [c]

/-- The text with a carriage return put in front of every line feed. -/
def withReturns (text : String) : String := String.ofList (returned text.toList)

section Returns

variable {text written line : List Char} {lines : List (List Char)}

theorem returned_of_no_feed (h : '\n' ∉ text) : returned text = text := by
  induction text with
  | nil => rfl
  | cons c text ih =>
    rw [List.mem_cons, not_or] at h
    rw [returned, List.flatMap_cons, if_neg (Ne.symm h.1), List.singleton_append]
    exact congrArg (c :: ·) (ih h.2)

theorem returned_ended (h : '\n' ∉ written) (rest : List Char) :
    returned (written ++ '\n' :: rest) = written ++ ['\r'] ++ '\n' :: returned rest := by
  have hwritten := returned_of_no_feed h
  unfold returned at hwritten ⊢
  rw [List.flatMap_append, hwritten, List.flatMap_cons, if_pos rfl]
  simp only [List.append_assoc, List.cons_append, List.nil_append]

theorem CutsReturn.trailsBlanks (h : CutsReturn written line) :
    TrailsBlanks (String.ofList line) (String.ofList written) := by
  unfold TrailsBlanks
  simp only [String.toList_ofList]
  cases h with
  | cut => exact ⟨['\r'], List.forall_mem_singleton.mpr (by decide), rfl⟩
  | kept => exact ⟨[], List.forall_mem_nil _, (List.append_nil _).symm⟩

/-- The carriage return that is put in front of a line feed is the one that the ending takes, and
what it took before stays behind the line. -/
theorem ReadsLines.exists_returned (h : ReadsLines text lines) :
    ∃ others, ReadsLines (returned text) others ∧
      List.Forall₂ TrailsBlanks (lines.map String.ofList) (others.map String.ofList) := by
  induction h with
  | nothing => exact ⟨[], .nothing, .nil⟩
  | @unended text hne hfeed =>
    refine ⟨[text], ?_, .cons ⟨[], List.forall_mem_nil _, (List.append_nil _).symm⟩ .nil⟩
    rw [returned_of_no_feed hfeed]
    exact .unended hne hfeed
  | @ended written line rest lines hfeed hcuts _ ih =>
    obtain ⟨others, hothers, htrails⟩ := ih
    refine ⟨written :: others, ?_, .cons hcuts.trailsBlanks htrails⟩
    rw [returned_ended hfeed]
    exact .ended (by simp [hfeed]) (.cut written) hothers

theorem trailsBlanks_textLines (text : String) :
    List.Forall₂ TrailsBlanks (textLines text) (textLines (withReturns text)) := by
  have hlines : ReadsLines text.toList (linesOf text.toList) := readsLines_iff.mpr rfl
  obtain ⟨others, hothers, htrails⟩ := hlines.exists_returned
  rw [textLines, textLines, withReturns, String.toList_ofList, ← readsLines_iff.mp hothers]
  exact htrails

end Returns

/-- Neither the line endings nor blanks at the end of lines change a scope: not a carriage return in
front of every line feed, from whichever cursor, and not blanks behind any of the lines. -/
theorem scope_ignores_line_endings :
    (∀ (text : String) (cursor : Cursor),
      Scope.ofLines (linesToCursor (withReturns text) cursor) =
        Scope.ofLines (linesToCursor text cursor)) ∧
    ∀ lines others : List String, List.Forall₂ TrailsBlanks lines others →
      Scope.ofLines others = Scope.ofLines lines := by
  constructor
  · intro text cursor
    exact (keepsReading_trailsBlanks.scope_eq (trailsBlanks_textLines text) cursor).symm
  · intro lines others h
    exact (keepsReading_trailsBlanks.ofLines_eq h).symm

/-- A method and its class, with a tab and two carriage returns behind the method. -/
theorem scope_ignores_line_endings_tab :
    List.Forall₂ TrailsBlanks ["    def test_sum(self):", "class CartTest:"]
        ["    def test_sum(self):\t\r\r", "class CartTest:"] ∧
      Scope.ofLines ["    def test_sum(self):\t\r\r", "class CartTest:"] =
        Scope.ofLines ["    def test_sum(self):", "class CartTest:"] := by
  have htrails : List.Forall₂ TrailsBlanks ["    def test_sum(self):", "class CartTest:"]
      ["    def test_sum(self):\t\r\r", "class CartTest:"] := by
    refine .cons ⟨['\t', '\r', '\r'], List.all_eq_true.mp (by decide), rfl⟩ ?_
    exact .cons ⟨[], List.forall_mem_nil _, rfl⟩ .nil
  exact ⟨htrails, scope_ignores_line_endings.2 _ _ htrails⟩

end TestCursor
