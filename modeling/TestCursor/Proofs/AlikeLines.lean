import Mathlib.Data.List.Forall2
import TestCursor.Proofs.CursorLines
import TestCursor.Proofs.ScopeAround

/-!
# Lines that read alike

Two lists of lines have the same scope when they correspond line by line in a way that keeps what
each line says and how the indentations of lines that say something compare.

1. The scan takes the same steps over both lists. Above a test method it holds one indentation for
   each list, and both compare with corresponding class lines in the same way (`above_congr`); with
   that the scopes agree (`KeepsReading.ofLines_eq`), also from one cursor in two texts
   (`KeepsReading.scope_eq`).
2. What a line says is said by its text behind the indentation (`kind_congr`), so only the order of
   indentations counts (`KeepsIndentOrder.keepsReading`, `scope_by_order_of_indents`).
-/

namespace TestCursor

/-- Corresponding lines say the same, and the indentations of lines that say something compare as
those of the lines they correspond to. -/
structure KeepsReading (R : String → String → Prop) : Prop where
  same_kind {line other : String} (h : R line other) : LineKind.of line = LineKind.of other
  same_order {line other line' other' : String} (h : R line other) (h' : R line' other')
    (hspeaks : speaks line = true) (hspeaks' : speaks line' = true) :
    indentWidth line < indentWidth line' ↔ indentWidth other < indentWidth other'

/-- Corresponding lines differ in their indentation only, and the indentations of lines that are not
blank compare as those of the lines they correspond to. -/
structure KeepsIndentOrder (R : String → String → Prop) : Prop where
  same_text {line other : String} (h : R line other) :
    trimStart line.toList = trimStart other.toList
  same_order {line other line' other' : String} (h : R line other) (h' : R line' other')
    (hcode : trimStart line.toList ≠ []) (hcode' : trimStart line'.toList ≠ []) :
    indentWidth line < indentWidth line' ↔ indentWidth other < indentWidth other'

section Scan

variable {R : String → String → Prop} {lines others : List String}

/-- Above a test method the scan holds its indentation, one for each list. The two compare with
corresponding class lines in the same way, so the same class is found. -/
theorem above_congr (hR : KeepsReading R) (h : List.Forall₂ R lines others) {method : String}
    {width width' : Nat}
    (hwidth : ∀ line other, R line other → speaks line = true →
      (indentWidth line < width ↔ indentWidth other < width')) :
    Scope.above method width lines = Scope.above method width' others := by
  induction h with
  | nil => rfl
  | @cons line other lines others hline _ ih =>
    have hsame := hR.same_kind hline
    by_cases hless : ∃ name, OpensClass line name ∧ indentWidth line < width
    · obtain ⟨name, hopens, hless⟩ := hless
      have hopens' : OpensClass other name :=
        kind_eq_classDef_iff.mp (hsame ▸ kind_eq_classDef_iff.mpr hopens)
      have hless' := (hwidth line other hline hopens.speaks).mp hless
      rw [above_cons_of_opensClass hopens hless, above_cons_of_opensClass hopens' hless']
    · have hskip (name : String) (hkind : LineKind.of line = .classDef name) :
          ¬indentWidth line < width := fun hlt =>
        hless ⟨name, kind_eq_classDef_iff.mp hkind, hlt⟩
      have hskip' (name : String) (hkind : LineKind.of other = .classDef name) :
          ¬indentWidth other < width' := by
        have hopens : OpensClass line name := kind_eq_classDef_iff.mp (hsame.trans hkind)
        rw [← hwidth line other hline hopens.speaks]
        exact hskip name (hsame.trans hkind)
      rw [above_cons_of_other fun name hkind => Nat.not_lt.mp (hskip name hkind),
        above_cons_of_other fun name hkind => Nat.not_lt.mp (hskip' name hkind), ih]

/-- Lists of corresponding lines have the same scope. The induction is on the scan, which reads a
line of one kind in both lists. -/
theorem KeepsReading.ofLines_eq (hR : KeepsReading R) (h : List.Forall₂ R lines others) :
    Scope.ofLines lines = Scope.ofLines others := by
  induction h with
  | nil => rfl
  | @cons line other lines others hline hlines ih =>
    have hsame := hR.same_kind hline
    cases hkind : LineKind.of line with
    | testDef name =>
      have hdefines := kind_eq_testDef_iff.mp hkind
      rw [ofLines_cons_of_definesTest hdefines,
        ofLines_cons_of_definesTest (kind_eq_testDef_iff.mp (hsame ▸ hkind))]
      exact above_congr hR hlines fun line' other' h' hspeaks =>
        hR.same_order h' hline hspeaks hdefines.speaks
    | classDef name =>
      rw [ofLines_cons_of_opensClass (kind_eq_classDef_iff.mp hkind),
        ofLines_cons_of_opensClass (kind_eq_classDef_iff.mp (hsame ▸ hkind))]
    | other =>
      rw [ofLines_cons_of_saysNothing (kind_eq_other_iff.mp hkind),
        ofLines_cons_of_saysNothing (kind_eq_other_iff.mp (hsame ▸ hkind)), ih]

/-- Texts of corresponding lines have the same scope at every cursor. -/
theorem KeepsReading.scope_eq (hR : KeepsReading R) {text changed : String}
    (h : List.Forall₂ R (textLines text) (textLines changed)) (cursor : Cursor) :
    Scope.ofLines (linesToCursor text cursor) = Scope.ofLines (linesToCursor changed cursor) := by
  rw [linesToCursor_eq, linesToCursor_eq]
  exact hR.ofLines_eq (List.forall₂_reverse_iff.mpr (List.forall₂_take _ h))

end Scan

/-! ## Indentation -/

section Indentation

variable {R : String → String → Prop} {line other : String}

/-- What a line says is said by its text behind the indentation. -/
theorem kind_congr (h : trimStart line.toList = trimStart other.toList) :
    LineKind.of line = LineKind.of other := by
  have hkeyword (keyword : List Char) :
      afterKeyword keyword line.toList = afterKeyword keyword other.toList := by
    rw [afterKeyword, afterKeyword, h]
  rw [LineKind.of, LineKind.of, testDefName?, testDefName?, classDefName?, classDefName?,
    hkeyword, hkeyword]

theorem trimStart_ne_nil_of_speaks (h : speaks line = true) : trimStart line.toList ≠ [] := by
  intro hblank
  have hcodeless : isCodeless line = true := by rw [isCodeless, hblank]
  rw [speaks_eq_false_iff.mpr (saysNothing_of_isCodeless hcodeless)] at h
  exact Bool.false_ne_true h

theorem KeepsIndentOrder.keepsReading (hR : KeepsIndentOrder R) : KeepsReading R where
  same_kind h := kind_congr (hR.same_text h)
  same_order h h' hspeaks hspeaks' :=
    hR.same_order h h' (trimStart_ne_nil_of_speaks hspeaks) (trimStart_ne_nil_of_speaks hspeaks')

theorem allBlank_replicate {c : Char} (h : isBlank c = true) (count : Nat) :
    AllBlank (List.replicate count c) :=
  fun _ hc => (List.mem_replicate.mp hc).2 ▸ h

end Indentation

/-- Two lists of as many lines that differ in their indentations only: corresponding lines have the
same text, and the lines that are not blank are ordered alike by their indentations. -/
structure IndentedAlike (lines others : List String) : Prop where
  same_length : lines.length = others.length
  same_text : ∀ p ∈ lines.zip others, trimStart p.1.toList = trimStart p.2.toList
  same_order : ∀ p ∈ lines.zip others, ∀ q ∈ lines.zip others,
    trimStart p.1.toList ≠ [] → trimStart q.1.toList ≠ [] →
      (indentWidth p.1 < indentWidth q.1 ↔ indentWidth p.2 < indentWidth q.2)

section Corresponding

variable {lines others : List String}

theorem IndentedAlike.keepsIndentOrder (h : IndentedAlike lines others) :
    KeepsIndentOrder fun line other => (line, other) ∈ lines.zip others where
  same_text hline := h.same_text _ hline
  same_order hline hline' := h.same_order _ hline _ hline'

theorem IndentedAlike.forall₂ (h : IndentedAlike lines others) :
    List.Forall₂ (fun line other => (line, other) ∈ lines.zip others) lines others :=
  List.forall₂_iff_zip.mpr ⟨h.same_length, id⟩

end Corresponding

/-- The line with one tab for each level of indentation in place of `width` spaces. A blank line can
become any other. -/
inductive TabsForSpaces (width : Nat) (line other : String) : Prop
  | code (level : Nat) (text : List Char)
      (spaces : line.toList = List.replicate (level * width) ' ' ++ text)
      (tabs : other.toList = List.replicate level '\t' ++ text)
      (begins : ∀ c, text.head? = some c → isBlank c = false)
  | blank (h : AllBlank line.toList) (h' : AllBlank other.toList)

section Reindentation

variable {line other : String}

theorem keepsIndentOrder_append {lead : String} (h : AllBlank lead.toList) :
    KeepsIndentOrder fun line other => other = lead ++ line where
  same_text := by
    rintro line - rfl
    rw [String.toList_append, trimStart_append h]
  same_order := by
    rintro line - line' - rfl rfl - -
    rw [indentWidth, indentWidth, indentWidth, indentWidth, String.toList_append,
      String.toList_append, indent_append h, indent_append h]
    omega

theorem TabsForSpaces.indentWidth_eq {width : Nat} (h : TabsForSpaces width line other)
    (hcode : trimStart line.toList ≠ []) :
    ∃ level, indentWidth line = level * width ∧ indentWidth other = level := by
  cases h with
  | code level text spaces tabs begins =>
    have hlevel (c : Char) (hc : isBlank c = true) (count : Nat) :
        indent (List.replicate count c ++ text) = count := by
      rw [indent_append (allBlank_replicate hc count), indent_eq_zero begins,
        List.length_replicate, Nat.add_zero]
    refine ⟨level, ?_, ?_⟩
    · rw [indentWidth, spaces, hlevel ' ' (by decide)]
    · rw [indentWidth, tabs, hlevel '\t' (by decide)]
  | blank h _ => exact absurd (trimStart_of_allBlank h) hcode

theorem keepsIndentOrder_tabsForSpaces {width : Nat} (hwidth : 0 < width) :
    KeepsIndentOrder (TabsForSpaces width) where
  same_text := by
    intro line other h
    cases h with
    | code level text spaces tabs begins =>
      rw [spaces, tabs, trimStart_append (allBlank_replicate (by decide) _),
        trimStart_append (allBlank_replicate (by decide) _)]
    | blank h h' => rw [trimStart_of_allBlank h, trimStart_of_allBlank h']
  same_order := by
    intro line other line' other' h h' hcode hcode'
    obtain ⟨level, hline, hother⟩ := h.indentWidth_eq hcode
    obtain ⟨level', hline', hother'⟩ := h'.indentWidth_eq hcode'
    rw [hline, hline', hother, hother']
    exact Nat.mul_lt_mul_right hwidth

end Reindentation

/-- Only the order of indentations counts: lists of lines with the same texts, indented in the same
order, have the same scope, and so have texts with such lines at every cursor. In particular all
lines can be shifted by one blank text, and each level of spaces can become a tab. -/
theorem scope_by_order_of_indents :
    (∀ lines others : List String, IndentedAlike lines others →
      Scope.ofLines lines = Scope.ofLines others) ∧
    (∀ text changed : String, IndentedAlike (textLines text) (textLines changed) →
      ∀ cursor, Scope.ofLines (linesToCursor text cursor) =
        Scope.ofLines (linesToCursor changed cursor)) ∧
    (∀ lead : String, AllBlank lead.toList →
      (∀ lines : List String, Scope.ofLines lines = Scope.ofLines (lines.map (lead ++ ·))) ∧
      ∀ text shifted : String, textLines shifted = (textLines text).map (lead ++ ·) →
        ∀ cursor, Scope.ofLines (linesToCursor text cursor) =
          Scope.ofLines (linesToCursor shifted cursor)) ∧
    ∀ width, 0 < width →
      (∀ lines tabbed : List String, List.Forall₂ (TabsForSpaces width) lines tabbed →
        Scope.ofLines lines = Scope.ofLines tabbed) ∧
      ∀ text tabbed : String,
        List.Forall₂ (TabsForSpaces width) (textLines text) (textLines tabbed) →
          ∀ cursor, Scope.ofLines (linesToCursor text cursor) =
            Scope.ofLines (linesToCursor tabbed cursor) := by
  refine ⟨?_, ?_, fun lead hlead => ?_, fun width hwidth => ?_⟩
  · intro lines others h
    exact h.keepsIndentOrder.keepsReading.ofLines_eq h.forall₂
  · intro text changed h
    exact h.keepsIndentOrder.keepsReading.scope_eq h.forall₂
  · have hR := (keepsIndentOrder_append hlead).keepsReading
    have hshift (lines : List String) :
        List.Forall₂ (fun line other => other = lead ++ line) lines (lines.map (lead ++ ·)) := by
      rw [List.forall₂_map_right_iff, List.forall₂_same]
      exact fun _ _ => rfl
    refine ⟨fun lines => hR.ofLines_eq (hshift lines), fun text shifted h => hR.scope_eq ?_⟩
    rw [h]
    exact hshift (textLines text)
  · have hR := (keepsIndentOrder_tabsForSpaces hwidth).keepsReading
    exact ⟨fun lines tabbed h => hR.ofLines_eq h, fun text tabbed h => hR.scope_eq h⟩

/-- A test method in a class, indented by spaces. -/
def spacedText : String := "class Cart:\n\n    def test_sum():\n"

/-- The same lines, indented by tabs. -/
def tabbedText : String := "class Cart:\n  \n\tdef test_sum():\n"

/-- The same lines, all of them shifted. -/
def shiftedText : String := "\t class Cart:\n\t \n\t     def test_sum():\n"

theorem scope_by_order_of_indents_cart :
    (IndentedAlike (textLines spacedText) (textLines tabbedText) ∧
      Scope.ofLines (textLines spacedText) = Scope.ofLines (textLines tabbedText) ∧
      Scope.ofLines (linesToCursor spacedText 2) = Scope.ofLines (linesToCursor tabbedText 2)) ∧
    (AllBlank "\t ".toList ∧
      textLines shiftedText = (textLines spacedText).map ("\t " ++ ·) ∧
      Scope.ofLines (linesToCursor spacedText 2) = Scope.ofLines (linesToCursor shiftedText 2)) ∧
    (0 < 4 ∧ List.Forall₂ (TabsForSpaces 4) (textLines spacedText) (textLines tabbedText) ∧
      Scope.ofLines (linesToCursor spacedText 2) = Scope.ofLines (linesToCursor tabbedText 2)) := by
  obtain ⟨hlists, htexts, hshift, htabs⟩ := scope_by_order_of_indents
  have hspaced : textLines spacedText = ["class Cart:", "", "    def test_sum():"] := by
    decide +kernel
  have htabbed : textLines tabbedText = ["class Cart:", "  ", "\tdef test_sum():"] := by
    decide +kernel
  have hshifted : textLines shiftedText = (textLines spacedText).map ("\t " ++ ·) := by
    rw [hspaced]
    decide +kernel
  have halike : IndentedAlike (textLines spacedText) (textLines tabbedText) := by
    rw [hspaced, htabbed]
    exact ⟨rfl, by decide +kernel, by decide +kernel⟩
  have hlead : AllBlank "\t ".toList := List.all_eq_true.mp (by decide)
  have htabs' : List.Forall₂ (TabsForSpaces 4) (textLines spacedText) (textLines tabbedText) := by
    rw [hspaced, htabbed]
    refine .cons (.code 0 "class Cart:".toList rfl rfl (by simp; decide)) ?_
    refine .cons (.blank (List.forall_mem_nil _) (List.all_eq_true.mp (by decide))) ?_
    exact .cons (.code 1 "def test_sum():".toList rfl rfl (by simp; decide)) .nil
  exact ⟨⟨halike, hlists _ _ halike, htexts _ _ halike 2⟩,
    ⟨hlead, hshifted, (hshift _ hlead).2 _ _ hshifted 2⟩,
    by decide, htabs', (htabs 4 (by decide)).2 _ _ htabs' 2⟩

end TestCursor
