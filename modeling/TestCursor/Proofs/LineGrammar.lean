import Mathlib.Data.String.Basic
import TestCursor.Proofs.CursorLines
import TestCursor.Session

/-!
# The lines of a text

A text is read as lines by its line feeds alone. Which lines it has is said here without the reader,
and with it what a cursor takes in.

1. Every text has lines in exactly one way, and the reader finds them (`readsLines_iff`).
2. A line that is ended does not depend on what follows it (`take_linesOf_append`), and a text has
   no more lines than characters (`ReadsLines.length_le`).
3. So a cursor takes in the first lines up to its own, also where its count stops, and what stands
   below changes nothing that is found from it (`text_below_cursor_is_not_read`).
-/

namespace TestCursor

/-- A line as it is written in front of its line feed, and as it is read: one carriage return at its
end belongs to the ending. -/
inductive CutsReturn : List Char → List Char → Prop
  | cut (line : List Char) : CutsReturn (line ++ ['\r']) line
  | kept {line : List Char} (h : line.getLast? ≠ some '\r') : CutsReturn line line

/-- The lines of a text, without their endings. What follows the last line feed is a line unless it
is empty, and is read as it is written. -/
inductive ReadsLines : List Char → List (List Char) → Prop
  | nothing : ReadsLines [] []
  | unended {text : List Char} (not_empty : text ≠ []) (no_feed : '\n' ∉ text) :
      ReadsLines text [text]
  | ended {written line rest : List Char} {lines : List (List Char)} (no_feed : '\n' ∉ written)
      (cuts : CutsReturn written line) (more : ReadsLines rest lines) :
      ReadsLines (written ++ '\n' :: rest) (line :: lines)

section Lines

variable {text written line rest front : List Char} {lines : List (List Char)}

theorem cutsReturn_iff : CutsReturn written line ↔ (dropReturn written.reverse).reverse = line := by
  constructor
  · rintro (_ | h)
    · simp [dropReturn]
    · unfold dropReturn
      split
      · next rest hreverse =>
        rw [← List.head?_reverse, hreverse] at h
        exact absurd rfl h
      · exact List.reverse_reverse written
  · rintro rfl
    unfold dropReturn
    split
    · next rest hreverse =>
      rw [← List.reverse_reverse written, hreverse, List.reverse_cons]
      exact .cut rest.reverse
    · next hnot =>
      rw [List.reverse_reverse]
      refine .kept fun hlast => ?_
      rw [← List.head?_reverse] at hlast
      obtain ⟨rest, hreverse⟩ := List.head?_eq_some_iff.mp hlast
      exact hnot rest hreverse

/-- What was read before the text belongs to the first line. The induction is on the reader, whose
three cases are the three ways to read lines. -/
theorem readsLines_linesFrom (read text : List Char) (hread : '\n' ∉ read) :
    ReadsLines (read.reverse ++ text) (linesFrom read text) := by
  fun_induction linesFrom read text with
  | case1 read hempty =>
    obtain rfl := List.isEmpty_iff.mp hempty
    exact .nothing
  | case2 read hne =>
    rw [List.append_nil]
    exact .unended (by simpa using hne) (by simpa using hread)
  | case3 read rest ih =>
    have hcuts : CutsReturn read.reverse (dropReturn read).reverse :=
      cutsReturn_iff.mpr (by rw [List.reverse_reverse])
    exact .ended (by simpa using hread) hcuts (ih List.not_mem_nil)
  | case4 read c rest hc ih =>
    rw [List.append_cons, ← List.reverse_cons]
    exact ih (by simpa [List.mem_cons, hread] using fun heq => hc heq.symm)

theorem linesFrom_append (h : '\n' ∉ written) (read rest : List Char) :
    linesFrom read (written ++ rest) = linesFrom (written.reverse ++ read) rest := by
  induction written generalizing read with
  | nil => rfl
  | cons c written ih =>
    rw [List.mem_cons, not_or] at h
    rw [List.cons_append, linesFrom, ih h.2, List.reverse_cons, List.append_assoc]
    · rfl
    · exact fun heq => h.1 heq.symm

theorem linesOf_ended (h : '\n' ∉ written) (rest : List Char) :
    linesOf (written ++ '\n' :: rest) = (dropReturn written.reverse).reverse :: linesOf rest := by
  rw [linesOf, linesFrom_append h, List.append_nil]
  rfl

theorem linesOf_unended (hne : text ≠ []) (h : '\n' ∉ text) : linesOf text = [text] := by
  have hlines := linesFrom_append h [] []
  rw [List.append_nil, List.append_nil] at hlines
  rw [linesOf, hlines, linesFrom, if_neg (by simpa using hne), List.reverse_reverse]

/-- A text has lines in exactly one way, and the reader finds them. -/
theorem readsLines_iff : ReadsLines text lines ↔ lines = linesOf text := by
  constructor
  · intro h
    induction h with
    | nothing => rfl
    | unended hne hfeed => exact (linesOf_unended hne hfeed).symm
    | ended hfeed hcuts _ ih => rw [linesOf_ended hfeed, cutsReturn_iff.mp hcuts, ih]
  · rintro rfl
    exact readsLines_linesFrom [] text List.not_mem_nil

theorem ReadsLines.length_le (h : ReadsLines text lines) : lines.length ≤ text.length := by
  induction h with
  | nothing => exact Nat.le_refl 0
  | unended hne _ => exact List.length_pos_iff.mpr hne
  | ended _ _ _ ih =>
    rw [List.length_append, List.length_cons, List.length_cons]
    omega

/-- As many lines as a text has line feeds are the same whatever follows the text. -/
theorem take_linesOf_append {count : Nat} (h : count ≤ front.count '\n') (back : List Char) :
    (linesOf (front ++ back)).take count = (linesOf front).take count := by
  induction count generalizing front with
  | zero => rfl
  | succ count ih =>
    obtain ⟨written, rest, rfl, hfeed⟩ :=
      List.eq_append_cons_of_mem (List.count_pos_iff.mp (Nat.lt_of_lt_of_le (Nat.succ_pos _) h))
    have hrest : count ≤ rest.count '\n' := by
      rw [List.count_append, List.count_eq_zero.mpr hfeed, List.count_cons_self] at h
      omega
    rw [List.append_assoc, List.cons_append, linesOf_ended hfeed, linesOf_ended hfeed,
      List.take_succ_cons, List.take_succ_cons, ih hrest]

end Lines

/-! ## What a cursor takes in -/

section Cursor

variable {cursor : Cursor}

theorem length_le_utf8ByteSize (text : String) : text.toList.length ≤ text.utf8ByteSize := by
  rw [← String.utf8Len_toList]
  induction text.toList with
  | nil => exact Nat.le_refl 0
  | cons c chars ih =>
    have hsize := c.utf8Size_pos
    rw [List.length_cons, String.utf8Len_cons]
    omega

theorem Cursor.min_count {total : Nat} (h : total < UInt64.size) :
    min cursor.count total = min (cursor.toNat + 1) total := by
  have hlast : Cursor.last.toNat = UInt64.size - 1 := rfl
  unfold count
  omega

theorem reverse_linesToCursor {text : String} (h : text.utf8ByteSize < UInt64.size) :
    (linesToCursor text cursor).reverse =
      (textLines text).take (min (cursor.toNat + 1) (textLines text).length) := by
  have hlength : (textLines text).length ≤ text.toList.length := by
    rw [textLines, List.length_map]
    exact (readsLines_iff.mpr rfl).length_le
  have hbytes := length_le_utf8ByteSize text
  rw [linesToCursor_eq, List.reverse_reverse, List.take_eq_take_min, Cursor.min_count (by omega)]

theorem linesToCursor_append {front : String}
    (h : cursor.toNat + 1 ≤ front.toList.count '\n') (back : String) :
    linesToCursor (front ++ back) cursor = linesToCursor front cursor := by
  have hcount : cursor.count ≤ front.toList.count '\n' := by
    unfold Cursor.count
    omega
  rw [linesToCursor, linesToCursor, String.toList_append, take_linesOf_append hcount]

end Cursor

/-- A cursor takes in exactly the first lines of a text down to its own, or all of them when it
stands below the last one. When the text above the end of its line is the same, so are the lines it
takes in, and every test is resolved, analyzed and run from there as before. -/
theorem text_below_cursor_is_not_read :
    (∀ (text : String) (cursor : Cursor), text.utf8ByteSize < UInt64.size →
      ∃ lines, (∀ others, ReadsLines text.toList others ↔ others = lines) ∧
        (linesToCursor text cursor).reverse =
          (lines.map String.ofList).take (min (cursor.toNat + 1) lines.length)) ∧
    ∀ (front : String) (cursor : Cursor), cursor.toNat + 1 ≤ front.toList.count '\n' →
      ∀ back other : String,
        linesToCursor (front ++ back) cursor = linesToCursor (front ++ other) cursor ∧
        ∀ (file root : String) (settings : Settings) (target : Target),
          let source : Source := Document.toSource ⟨file, root, some cursor, front ++ back⟩
          let changed : Source := Document.toSource ⟨file, root, some cursor, front ++ other⟩
          settings.resolve target source = settings.resolve target changed ∧
            settings.analyze source = settings.analyze changed ∧
            ∀ {σ : Type} (terminal : Terminal σ) (session : Session σ),
              session.run terminal settings target source =
                session.run terminal settings target changed := by
  refine ⟨fun text cursor hsize => ⟨linesOf text.toList, fun _ => readsLines_iff, ?_⟩, ?_⟩
  · rw [reverse_linesToCursor hsize, textLines, List.length_map]
  · intro front cursor hfeeds back other
    have hlines : linesToCursor (front ++ back) cursor = linesToCursor (front ++ other) cursor := by
      rw [linesToCursor_append hfeeds, linesToCursor_append hfeeds]
    refine ⟨hlines, fun file root settings target => ?_⟩
    intro source changed
    have hsource : source = changed := by
      show Document.toSource _ = Document.toSource _
      rw [Document.toSource, Document.toSource, Document.lines, Document.lines]
      exact congrArg (Source.mk _ <| .ok ·) hlines
    rw [hsource]
    exact ⟨rfl, rfl, fun _ _ => rfl⟩

/-- A document with a class on its first line, where the cursor stands, and a text below it. -/
def cartAbove (below : String) : Source :=
  Document.toSource ⟨"/shop/test_cart.py", "/shop", some 0, "class CartTest:\n" ++ below⟩

theorem text_below_cursor_is_not_read_cart :
    ("class CartTest:\r\n    pass".utf8ByteSize < UInt64.size ∧
      (linesToCursor "class CartTest:\r\n    pass" Cursor.last).reverse =
        ["class CartTest:", "    pass"]) ∧
    ((0 : Cursor).toNat + 1 ≤ "class CartTest:\n".toList.count '\n' ∧
      linesToCursor ("class CartTest:\n" ++ "class CakeTest:") 0 =
        linesToCursor ("class CartTest:\n" ++ "") 0 ∧
      ∀ settings : Settings,
        settings.resolve .testClass (cartAbove "class CakeTest:") =
          settings.resolve .testClass (cartAbove "")) := by
  obtain ⟨hreach, hbelow⟩ := text_below_cursor_is_not_read
  have hsize : "class CartTest:\r\n    pass".utf8ByteSize < UInt64.size := by decide
  obtain ⟨lines, hlines, hcursor⟩ := hreach _ Cursor.last hsize
  have hread : lines = ["class CartTest:".toList, "    pass".toList] :=
    ((hlines _).mp (readsLines_iff.mpr (by decide +kernel))).symm
  have hfeeds : (0 : Cursor).toNat + 1 ≤ "class CartTest:\n".toList.count '\n' := by decide
  obtain ⟨hsame, hruns⟩ := hbelow _ 0 hfeeds "class CakeTest:" ""
  refine ⟨⟨hsize, ?_⟩, hfeeds, hsame, fun settings => (hruns _ _ settings .testClass).1⟩
  rw [hcursor, hread]
  rfl

end TestCursor
