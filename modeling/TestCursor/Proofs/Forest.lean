import TestCursor.Proofs.ScopeAround

/-!
# Files made of blocks

A file as a forest: each block is a header line and the blocks of its body, printed one after the
other, and blank lines and comments may stand anywhere between. In an aligned forest the blocks of
one body share one indentation, which is greater than that of their header. A block is named by
the line of its header, and the blocks around a line are those whose body it stands in.

Two facts carry the theorems about scopes: whatever stands in a body is indented deeper than the
header (`Aligned.lt_of_encloses`), and a block that is closed before a later line was closed by a
block that is not deeper (`Aligned.exists_closing`).
-/

namespace TestCursor

/-- Blocks that follow one another, with the lines between them. -/
inductive Forest
  | nil
  /-- A blank line or a comment, then the rest. -/
  | remark (line : String) (rest : Forest)
  /-- A block, then the rest. -/
  | block (header : String) (body rest : Forest)

namespace Forest

/-- The printed lines. -/
def lines : Forest → List String
  | nil => []
  | remark line rest => line :: rest.lines
  | block header body rest => header :: (body.lines ++ rest.lines)

/-- The blocks are indented by `width`, and the blocks of each body deeper than their header. -/
def Aligned : Forest → Nat → Prop
  | nil, _ => True
  | remark line rest, width => isCodeless line = true ∧ rest.Aligned width
  | block header body rest, width =>
    indentWidth header = width ∧ (∃ deeper, width < deeper ∧ body.Aligned deeper) ∧
      rest.Aligned width

/-- The header and the body of the block that begins on a line. -/
def blockAt? : Forest → Nat → Option (String × Forest)
  | nil, _ => none
  | remark _ _, 0 => none
  | remark _ rest, i + 1 => rest.blockAt? i
  | block header body _, 0 => some (header, body)
  | block _ body rest, i + 1 =>
    if i < body.lines.length then body.blockAt? i else rest.blockAt? (i - body.lines.length)

/-- Line `i` stands in the block that begins on line `k`: it is the header or a line of the
body. -/
def Covers (forest : Forest) (k i : Nat) : Prop :=
  ∃ header body, forest.blockAt? k = some (header, body) ∧ k ≤ i ∧ i ≤ k + body.lines.length

/-- Line `i` stands in the body of the block that begins on line `k`. -/
def Encloses (forest : Forest) (k i : Nat) : Prop := k < i ∧ forest.Covers k i

/-- The block that begins on line `k` is the innermost one around line `i`. -/
def IsParent (forest : Forest) (k i : Nat) : Prop :=
  forest.Encloses k i ∧ ∀ j, k < j → ¬ forest.Encloses j i

@[simp] theorem lines_nil : nil.lines = [] := rfl

@[simp] theorem lines_remark (line : String) (rest : Forest) :
    (remark line rest).lines = line :: rest.lines := rfl

@[simp] theorem lines_block (header : String) (body rest : Forest) :
    (block header body rest).lines = header :: (body.lines ++ rest.lines) := rfl

@[simp] theorem blockAt?_nil (i : Nat) : nil.blockAt? i = none := rfl

@[simp] theorem blockAt?_remark_zero (line : String) (rest : Forest) :
    (remark line rest).blockAt? 0 = none := rfl

@[simp] theorem blockAt?_remark_succ (line : String) (rest : Forest) (i : Nat) :
    (remark line rest).blockAt? (i + 1) = rest.blockAt? i := rfl

@[simp] theorem blockAt?_block_zero (header : String) (body rest : Forest) :
    (block header body rest).blockAt? 0 = some (header, body) := rfl

theorem blockAt?_block_of_lt {header : String} {body rest : Forest} {i : Nat}
    (h : i < body.lines.length) : (block header body rest).blockAt? (i + 1) = body.blockAt? i :=
  if_pos h

theorem blockAt?_block_of_le {header : String} {body rest : Forest} {i : Nat}
    (h : body.lines.length ≤ i) :
    (block header body rest).blockAt? (i + 1) = rest.blockAt? (i - body.lines.length) :=
  if_neg (by omega)

instance (forest : Forest) (k i : Nat) : Decidable (forest.Covers k i) :=
  match h : forest.blockAt? k with
  | none => isFalse (by rintro ⟨_, _, hat, _⟩; exact absurd (h.symm.trans hat) (by simp))
  | some (header, body) =>
    decidable_of_iff (k ≤ i ∧ i ≤ k + body.lines.length)
      ⟨fun hle => ⟨header, body, h, hle⟩, by
        rintro ⟨_, _, hat, hle⟩
        obtain ⟨rfl, rfl⟩ := Prod.mk.inj (Option.some.inj (h.symm.trans hat))
        exact hle⟩

instance (forest : Forest) (k i : Nat) : Decidable (forest.Encloses k i) :=
  inferInstanceAs (Decidable (k < i ∧ forest.Covers k i))

instance (forest : Forest) (k i : Nat) : Decidable (forest.IsParent k i) :=
  decidable_of_iff (forest.Encloses k i ∧ ∀ j, j < i → k < j → ¬ forest.Encloses j i)
    ⟨fun h => ⟨h.1, fun j hj henc => h.2 j henc.1 hj henc⟩, fun h => ⟨h.1, fun j _ => h.2 j⟩⟩

/-- The indentation of the first block. -/
def firstWidth? : Forest → Option Nat
  | nil => none
  | remark _ rest => rest.firstWidth?
  | block header _ _ => some (indentWidth header)

theorem Aligned.firstWidth?_eq {forest : Forest} {width first : Nat} (h : forest.Aligned width)
    (hf : forest.firstWidth? = some first) : first = width := by
  induction forest with
  | nil => exact absurd hf (by simp [firstWidth?])
  | remark line rest ih => exact ih h.2 hf
  | block header body rest => exact (Option.some.inj hf).symm.trans h.1

theorem Aligned.of_firstWidth?_eq_none {forest : Forest} {width : Nat} (h : forest.Aligned width)
    (hf : forest.firstWidth? = none) (other : Nat) : forest.Aligned other := by
  induction forest with
  | nil => trivial
  | remark line rest ih => exact ⟨h.1, ih h.2 hf⟩
  | block header body rest => exact absurd hf (by simp [firstWidth?])

/-- The first block of a body tells the indentation of the others. -/
theorem exists_aligned_iff {forest : Forest} {width : Nat} :
    (∃ deeper, width < deeper ∧ forest.Aligned deeper) ↔
      width < forest.firstWidth?.getD (width + 1) ∧
        forest.Aligned (forest.firstWidth?.getD (width + 1)) := by
  constructor
  · rintro ⟨deeper, hdeeper, h⟩
    cases hf : forest.firstWidth? with
    | none => exact ⟨Nat.lt_succ_self width, h.of_firstWidth?_eq_none hf (width + 1)⟩
    | some first =>
      obtain rfl := h.firstWidth?_eq hf
      exact ⟨hdeeper, h⟩
  · rintro ⟨hlt, h⟩
    exact ⟨_, hlt, h⟩

instance decidableAligned : (forest : Forest) → (width : Nat) → Decidable (forest.Aligned width)
  | nil, _ => isTrue trivial
  | remark line rest, width =>
    have := rest.decidableAligned width
    inferInstanceAs (Decidable (isCodeless line = true ∧ rest.Aligned width))
  | block header body rest, width =>
    have := body.decidableAligned (body.firstWidth?.getD (width + 1))
    have := rest.decidableAligned width
    decidable_of_iff (indentWidth header = width ∧ (width < body.firstWidth?.getD (width + 1) ∧
      body.Aligned (body.firstWidth?.getD (width + 1))) ∧ rest.Aligned width)
      (by rw [← exists_aligned_iff]; rfl)

/-! ## Blocks and lines -/

variable {forest : Forest} {header : String} {body : Forest} {i k w : Nat}

/-- A line is the header of one block only. -/
theorem blockAt?_unique {other : String} {inner : Forest}
    (h : forest.blockAt? k = some (header, body)) (h' : forest.blockAt? k = some (other, inner)) :
    header = other ∧ body = inner :=
  Prod.mk.inj (Option.some.inj (h.symm.trans h'))

theorem blockAt?_remark_cases {line : String} {rest : Forest} {x : String × Forest}
    (h : (remark line rest).blockAt? i = some x) : ∃ j, i = j + 1 ∧ rest.blockAt? j = some x := by
  cases i with
  | zero => exact absurd h (by simp)
  | succ i => exact ⟨i, rfl, h⟩

/-- A block among some blocks is the first one, stands in the body of the first one, or stands
behind it. -/
theorem blockAt?_block_cases {first : String} {inner rest : Forest} {x : String × Forest}
    (h : (block first inner rest).blockAt? i = some x) :
    (i = 0 ∧ x = (first, inner)) ∨
      (∃ j, i = j + 1 ∧ j < inner.lines.length ∧ inner.blockAt? j = some x) ∨
      ∃ j, i = j + inner.lines.length + 1 ∧ rest.blockAt? j = some x := by
  cases i with
  | zero =>
    rw [blockAt?_block_zero] at h
    exact .inl ⟨rfl, (Option.some.inj h).symm⟩
  | succ i =>
    by_cases hi : i < inner.lines.length
    · rw [blockAt?_block_of_lt hi] at h
      exact .inr (.inl ⟨i, rfl, hi, h⟩)
    · rw [blockAt?_block_of_le (by omega)] at h
      exact .inr (.inr ⟨i - inner.lines.length, by omega, h⟩)

theorem blockAt?_block_add (first : String) (inner rest : Forest) (i : Nat) :
    (block first inner rest).blockAt? (i + inner.lines.length + 1) = rest.blockAt? i := by
  rw [blockAt?_block_of_le (by omega), Nat.add_sub_cancel]

theorem getElem?_lines_block_add (first : String) (inner rest : Forest) (i : Nat) :
    (block first inner rest).lines[i + inner.lines.length + 1]? = rest.lines[i]? := by
  rw [lines_block, List.getElem?_cons_succ, List.getElem?_append_right (by omega),
    Nat.add_sub_cancel]

theorem getElem?_lines_block_of_lt {first : String} {inner rest : Forest}
    (h : i < inner.lines.length) :
    (block first inner rest).lines[i + 1]? = inner.lines[i]? := by
  rw [lines_block, List.getElem?_cons_succ, List.getElem?_append_left h]

theorem lines_of_blockAt? (h : forest.blockAt? k = some (header, body)) :
    forest.lines[k]? = some header ∧ k + body.lines.length < forest.lines.length := by
  induction forest generalizing k with
  | nil => exact absurd h (by simp)
  | remark line rest ih =>
    obtain ⟨k, rfl, h⟩ := blockAt?_remark_cases h
    obtain ⟨hline, hlen⟩ := ih h
    exact ⟨hline, by rw [lines_remark, List.length_cons]; omega⟩
  | block first inner rest ihinner ihrest =>
    rcases blockAt?_block_cases h with ⟨rfl, hx⟩ | ⟨j, rfl, hj, hx⟩ | ⟨j, rfl, hx⟩
    · obtain ⟨rfl, rfl⟩ := Prod.mk.inj hx
      exact ⟨rfl, by simp only [lines_block, List.length_cons, List.length_append]; omega⟩
    · obtain ⟨hline, hlen⟩ := ihinner hx
      refine ⟨by rw [getElem?_lines_block_of_lt hj, hline], ?_⟩
      simp only [lines_block, List.length_cons, List.length_append]
      omega
    · obtain ⟨hline, hlen⟩ := ihrest hx
      refine ⟨by rw [getElem?_lines_block_add, hline], ?_⟩
      simp only [lines_block, List.length_cons, List.length_append]
      omega

theorem blockAt?_body (h : forest.blockAt? k = some (header, body)) {j : Nat}
    (hj : j < body.lines.length) : forest.blockAt? (k + 1 + j) = body.blockAt? j := by
  induction forest generalizing k with
  | nil => exact absurd h (by simp)
  | remark line rest ih =>
    obtain ⟨k, rfl, h⟩ := blockAt?_remark_cases h
    rw [show k + 1 + 1 + j = (k + 1 + j) + 1 by omega, blockAt?_remark_succ]
    exact ih h
  | block first inner rest ihinner ihrest =>
    rcases blockAt?_block_cases h with ⟨rfl, hx⟩ | ⟨m, rfl, hm, hx⟩ | ⟨m, rfl, hx⟩
    · obtain ⟨rfl, rfl⟩ := Prod.mk.inj hx
      rw [show 0 + 1 + j = j + 1 by omega, blockAt?_block_of_lt hj]
    · have hlen := (lines_of_blockAt? hx).2
      rw [show m + 1 + 1 + j = (m + 1 + j) + 1 by omega, blockAt?_block_of_lt (by omega)]
      exact ihinner hx
    · rw [show m + inner.lines.length + 1 + 1 + j = (m + 1 + j) + inner.lines.length + 1 by omega,
        blockAt?_block_add]
      exact ihrest hx

theorem lt_length_of_blockAt? (h : forest.blockAt? k = some (header, body)) :
    k < forest.lines.length := by
  have := (lines_of_blockAt? h).2
  omega

theorem Covers.of_body (h : forest.blockAt? k = some (header, body)) {j i : Nat}
    (hj : body.Covers j i) : forest.Covers (k + 1 + j) (k + 1 + i) := by
  obtain ⟨inner, deep, hat, hlt, hle⟩ := hj
  exact ⟨inner, deep, by rw [blockAt?_body h (lt_length_of_blockAt? hat), hat], by omega, by omega⟩

theorem Covers.of_remark (h : forest.Covers k i) (line : String) :
    (remark line forest).Covers (k + 1) (i + 1) := by
  obtain ⟨header, body, hat, hlt, hle⟩ := h
  exact ⟨header, body, hat, by omega, by omega⟩

theorem Covers.of_inner (h : forest.Covers k i) (first : String) (rest : Forest) :
    (block first forest rest).Covers (k + 1) (i + 1) := by
  obtain ⟨header, body, hat, hlt, hle⟩ := h
  exact ⟨header, body, by rw [blockAt?_block_of_lt (lt_length_of_blockAt? hat), hat], by omega,
    by omega⟩

theorem Covers.of_rest (h : forest.Covers k i) (first : String) (inner : Forest) :
    (block first inner forest).Covers (k + inner.lines.length + 1)
      (i + inner.lines.length + 1) := by
  obtain ⟨header, body, hat, hlt, hle⟩ := h
  exact ⟨header, body, by rw [blockAt?_block_add, hat], by omega, by omega⟩

/-! ## Indentation -/

theorem Aligned.deeper_body (ha : forest.Aligned w) (h : forest.blockAt? k = some (header, body)) :
    w ≤ indentWidth header ∧ ∃ deeper, indentWidth header < deeper ∧ body.Aligned deeper := by
  induction forest generalizing k w with
  | nil => exact absurd h (by simp)
  | remark line rest ih =>
    obtain ⟨k, rfl, h⟩ := blockAt?_remark_cases h
    exact ih ha.2 h
  | block first inner rest ihinner ihrest =>
    obtain ⟨hfirst, ⟨deeper, hdeeper, hinner⟩, hrest⟩ := ha
    rcases blockAt?_block_cases h with ⟨rfl, hx⟩ | ⟨m, rfl, hm, hx⟩ | ⟨m, rfl, hx⟩
    · obtain ⟨rfl, rfl⟩ := Prod.mk.inj hx
      exact ⟨by omega, deeper, by omega, hinner⟩
    · obtain ⟨hle, hbody⟩ := ihinner hinner hx
      exact ⟨by omega, hbody⟩
    · exact ihrest hrest hx

theorem Aligned.exists_blockAt? (ha : forest.Aligned w) {line : String}
    (h : forest.lines[k]? = some line) (hcode : isCodeless line = false) :
    ∃ body, forest.blockAt? k = some (line, body) := by
  induction forest generalizing k w with
  | nil => exact absurd h (by simp)
  | remark comment rest ih =>
    cases k with
    | zero =>
      obtain rfl : comment = line := by simpa using h
      exact absurd ha.1 (by simp [hcode])
    | succ k => exact ih ha.2 h
  | block first inner rest ihinner ihrest =>
    obtain ⟨-, ⟨deeper, -, hinner⟩, hrest⟩ := ha
    cases k with
    | zero =>
      obtain rfl : first = line := by simpa using h
      exact ⟨inner, rfl⟩
    | succ k =>
      by_cases hk : k < inner.lines.length
      · rw [getElem?_lines_block_of_lt hk] at h
        rw [blockAt?_block_of_lt hk]
        exact ihinner hinner h
      · obtain ⟨m, rfl⟩ : ∃ m, k = m + inner.lines.length := ⟨k - inner.lines.length, by omega⟩
        rw [getElem?_lines_block_add] at h
        rw [blockAt?_block_add]
        exact ihrest hrest h

/-- What stands in the body of a block is indented deeper than its header. -/
theorem Aligned.lt_of_encloses (ha : forest.Aligned w)
    (hk : forest.blockAt? k = some (header, body)) {line : String} {inner : Forest}
    (hi : forest.blockAt? i = some (line, inner)) (henc : forest.Encloses k i) :
    indentWidth header < indentWidth line := by
  obtain ⟨hlt, _, _, hk', -, hle⟩ := henc
  obtain ⟨rfl, rfl⟩ := blockAt?_unique hk hk'
  obtain ⟨-, deeper, hdeeper, hbody⟩ := ha.deeper_body hk
  obtain ⟨j, rfl⟩ : ∃ j, i = k + 1 + j := ⟨i - (k + 1), by omega⟩
  rw [blockAt?_body hk (by omega)] at hi
  have := (hbody.deeper_body hi).1
  omega

/-- Every block stands in a block of the outermost row. -/
theorem Aligned.exists_root (ha : forest.Aligned w) {line : String} {inner : Forest}
    (h : forest.blockAt? i = some (line, inner)) :
    ∃ t header body, forest.blockAt? t = some (header, body) ∧ indentWidth header = w ∧
      forest.Covers t i := by
  induction forest generalizing i with
  | nil => exact absurd h (by simp)
  | remark comment rest ih =>
    obtain ⟨i, rfl, h⟩ := blockAt?_remark_cases h
    obtain ⟨t, header, body, hat, hw, hcov⟩ := ih ha.2 h
    exact ⟨t + 1, header, body, hat, hw, hcov.of_remark comment⟩
  | block first row rest ihrow ihrest =>
    obtain ⟨hfirst, -, hrest⟩ := ha
    rcases blockAt?_block_cases h with ⟨rfl, -⟩ | ⟨j, rfl, hj, -⟩ | ⟨j, rfl, hx⟩
    · exact ⟨0, first, row, rfl, hfirst, first, row, rfl, by omega, by omega⟩
    · exact ⟨0, first, row, rfl, hfirst, first, row, rfl, by omega, by omega⟩
    · obtain ⟨t, header, body, hat, hw, hcov⟩ := ihrest hrest hx
      exact ⟨t + row.lines.length + 1, header, body, by rw [blockAt?_block_add, hat], hw,
        hcov.of_rest first row⟩

/-- A block that does not reach down to a later one was closed before it: by a block that begins
below, covers the later one and is not deeper. -/
theorem Aligned.exists_closing (ha : forest.Aligned w)
    (hk : forest.blockAt? k = some (header, body)) {line : String} {inner : Forest}
    (hi : forest.blockAt? i = some (line, inner)) (hlt : k < i) (hnot : ¬ forest.Covers k i) :
    ∃ t closing opened, k < t ∧ forest.blockAt? t = some (closing, opened) ∧
      forest.Covers t i ∧ indentWidth closing ≤ indentWidth header := by
  have hheader := (ha.deeper_body hk).1
  induction forest generalizing k i w with
  | nil => exact absurd hk (by simp)
  | remark comment rest ih =>
    obtain ⟨k, rfl, hk⟩ := blockAt?_remark_cases hk
    obtain ⟨i, rfl, hi⟩ := blockAt?_remark_cases hi
    obtain ⟨t, closing, opened, hkt, hat, hcov, hle⟩ :=
      ih ha.2 hk hi (by omega) (fun hcov => hnot (hcov.of_remark comment)) hheader
    exact ⟨t + 1, closing, opened, by omega, hat, hcov.of_remark comment, hle⟩
  | block first row rest ihrow ihrest =>
    obtain ⟨hfirst, ⟨deeper, hdeeper, hrow⟩, hrest⟩ := ha
    rcases blockAt?_block_cases hi with ⟨rfl, -⟩ | ⟨j, rfl, hj, hij⟩ | ⟨j, rfl, hij⟩
    · omega
    · -- the later block stands in the first one, so the earlier one does too
      rcases blockAt?_block_cases hk with ⟨rfl, -⟩ | ⟨m, rfl, -, hkm⟩ | ⟨m, rfl, -⟩
      · exact absurd ⟨first, row, rfl, by omega, by omega⟩ hnot
      · obtain ⟨t, closing, opened, hmt, hat, hcov, hle⟩ :=
          ihrow hrow hkm hij (by omega) (fun hcov => hnot (hcov.of_inner first rest))
            (hrow.deeper_body hkm).1
        exact ⟨t + 1, closing, opened, by omega,
          by rw [blockAt?_block_of_lt (lt_length_of_blockAt? hat), hat],
          hcov.of_inner first rest, hle⟩
      · omega
    · rcases Nat.lt_or_ge row.lines.length k with hrow' | hrow'
      · -- both stand behind the first block
        obtain ⟨m, rfl⟩ : ∃ m, k = m + row.lines.length + 1 :=
          ⟨k - (row.lines.length + 1), by omega⟩
        rw [blockAt?_block_add] at hk
        obtain ⟨t, closing, opened, hmt, hat, hcov, hle⟩ :=
          ihrest hrest hk hij (by omega) (fun hcov => hnot (hcov.of_rest first row)) hheader
        exact ⟨t + row.lines.length + 1, closing, opened, by omega,
          by rw [blockAt?_block_add, hat], hcov.of_rest first row, hle⟩
      · -- the first block was closed by the row
        obtain ⟨t, closing, opened, hat, hw, hcov⟩ := hrest.exists_root hij
        exact ⟨t + row.lines.length + 1, closing, opened, by omega,
          by rw [blockAt?_block_add, hat], hcov.of_rest first row, by omega⟩

/-- The blocks of one body begin at the same indentation, and nothing in the body is indented
less. -/
theorem Aligned.le_of_isParent (ha : forest.Aligned w) {p : Nat} (hp : forest.IsParent p i)
    {line : String} {inner : Forest} (hi : forest.blockAt? i = some (line, inner))
    (hk : forest.blockAt? k = some (header, body)) (henc : forest.Encloses p k) :
    indentWidth line ≤ indentWidth header := by
  obtain ⟨⟨hpi, parent, members, hat, -, hle⟩, hinnermost⟩ := hp
  obtain ⟨hpk, _, _, hat', -, hle'⟩ := henc
  obtain ⟨rfl, rfl⟩ := blockAt?_unique hat hat'
  obtain ⟨-, deeper, hdeeper, hmembers⟩ := ha.deeper_body hat
  obtain ⟨j, rfl⟩ : ∃ j, i = p + 1 + j := ⟨i - (p + 1), by omega⟩
  obtain ⟨m, rfl⟩ : ∃ m, k = p + 1 + m := ⟨k - (p + 1), by omega⟩
  rw [blockAt?_body hat (by omega)] at hi hk
  obtain ⟨t, root, row, hroot, hwidth, hcov⟩ := hmembers.exists_root hi
  have htj : t = j := by
    have hnot := hinnermost (p + 1 + t) (by omega)
    have ⟨_, _, _, htj, _⟩ := hcov
    by_cases h : t = j
    · exact h
    · exact absurd ⟨by omega, hcov.of_body hat⟩ hnot
  subst htj
  obtain ⟨rfl, rfl⟩ := blockAt?_unique hroot hi
  have := (hmembers.deeper_body hk).1
  omega

/-- Every line with code in the body of a block is indented deeper than the header. -/
theorem Aligned.lt_of_code (ha : forest.Aligned w)
    (hk : forest.blockAt? k = some (header, body)) (henc : forest.Encloses k i) {line : String}
    (hi : forest.lines[i]? = some line) (hcode : isCodeless line = false) :
    indentWidth header < indentWidth line := by
  obtain ⟨inner, hblock⟩ := ha.exists_blockAt? hi hcode
  exact ha.lt_of_encloses hk hblock henc

/-- A block above a deeper one is around it exactly when the blocks around that one that begin
between the two are deeper too. -/
theorem Aligned.encloses_iff (ha : forest.Aligned w)
    (hk : forest.blockAt? k = some (header, body)) {line : String} {inner : Forest}
    (hi : forest.blockAt? i = some (line, inner)) (hlt : k < i)
    (hless : indentWidth header < indentWidth line) :
    forest.Encloses k i ↔ ∀ t opening opened, k < t → forest.blockAt? t = some (opening, opened) →
      forest.Encloses t i → indentWidth header < indentWidth opening := by
  constructor
  · rintro ⟨-, head, row, hat, -, hle⟩ t opening opened hkt ht hti
    have := hti.1
    exact ha.lt_of_encloses hk ht ⟨hkt, head, row, hat, by omega, by omega⟩
  · intro hdeep
    refine ⟨hlt, Classical.byContradiction fun hnot => ?_⟩
    obtain ⟨t, closing, opened, hkt, ht, hcov, hle⟩ := ha.exists_closing hk hi hlt hnot
    have hti : t < i := by
      have ⟨_, _, _, hti, _⟩ := hcov
      rcases Nat.lt_or_eq_of_le hti with h | rfl
      · exact h
      · obtain ⟨rfl, rfl⟩ := blockAt?_unique ht hi
        omega
    have := hdeep t closing opened hkt ht ⟨hti, hcov⟩
    omega

end Forest

end TestCursor
