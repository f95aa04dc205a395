import Mathlib.Data.Nat.Find
import TestCursor.Proofs.CursorLines
import TestCursor.Proofs.Forest

/-!
# Scopes in files made of blocks

Which method and class a cursor finds in a file whose lines are those of an aligned forest. The
scan goes by indentation alone, so three things have to be told apart.

1. A test method right in a class is found with that class, from its header and from each line of
   its body down to the next line that says something (`scope_of_method_in_class`).
2. A class found beside a test method need not be around it: a block that is no class can close
   the class and hold the method (`class_beside_method_encloses_iff`).
3. A class opened in the body of a test method hides the method from the lines below it, also
   when it is closed (`scope_in_method_body`).
-/

namespace TestCursor

/-! ## What the scan picks, by line numbers -/

/-- From the first `count` lines the scan takes the test method that `line` defines, on line `d`,
and the class that `outer` opens, on line `k`. -/
structure Picked (lines : List String) (count d k : Nat) (line outer : String) (scope : Scope) :
    Prop where
  lt_count : d < count
  method_at : lines[d]? = some line
  defines : DefinesTest line scope.method
  silent : ∀ i l, d < i → i < count → lines[i]? = some l → SaysNothing l
  lt_method : k < d
  class_at : lines[k]? = some outer
  opens : OpensClass outer scope.testClass
  less : indentWidth outer < indentWidth line
  skipped : ∀ i l name, k < i → i < d → lines[i]? = some l → OpensClass l name →
    indentWidth line ≤ indentWidth l

section Picked

variable {lines : List String} {count d k : Nat} {line outer : String} {scope : Scope}

theorem Picked.ofLines_eq (h : Picked lines count d k line outer scope) :
    Scope.ofLines (lines.take count).reverse = scope := by
  have hsilent : Silent ((lines.take count).drop (d + 1)).reverse := by
    intro l hl
    obtain ⟨i, hdi, hic, hat⟩ := exists_getElem?_of_mem_drop (List.mem_reverse.mp hl)
    exact h.silent i l hdi hic hat
  have hskipped : NoClassBelow (indentWidth line) ((lines.take d).drop (k + 1)).reverse := by
    intro l hl name hname
    obtain ⟨i, hki, hid, hat⟩ := exists_getElem?_of_mem_drop (List.mem_reverse.mp hl)
    exact h.skipped i l name hki hid hat hname
  have hclass : NearestClass (indentWidth line) (lines.take d).reverse scope.testClass :=
    .found (reverse_take_eq h.class_at h.lt_method) hskipped h.opens h.less
  exact (ScopeAround.inMethod (reverse_take_eq h.method_at h.lt_count) hsilent h.defines
    hclass).eq_ofLines

theorem exists_picked (hm : (Scope.ofLines (lines.take count).reverse).method ≠ "")
    (hc : (Scope.ofLines (lines.take count).reverse).testClass ≠ "") :
    ∃ d k line outer,
      Picked lines count d k line outer (Scope.ofLines (lines.take count).reverse) := by
  obtain ⟨nearer, line, between, outer, farther, hlines, hsilent, hdef, hskipped, hopens, hless⟩ :=
    exists_lines_of_method_of_class hm hc
  obtain ⟨d, hdc, hmethod, habove, hunder⟩ := exists_of_reverse_take_eq hlines
  obtain ⟨k, hkd, hclass, -, hmid⟩ := exists_of_reverse_take_eq habove.symm
  exact ⟨d, k, line, outer, {
    lt_count := hdc
    method_at := hmethod
    defines := hdef
    silent := fun i l hdi hic hat => hsilent l (hunder i l hdi hic hat)
    lt_method := hkd
    class_at := hclass
    opens := hopens
    less := hless
    skipped := fun i l name hki hid hat => hskipped l (hmid i l hki hid hat) name }⟩

/-- A class line with no line under it that says anything is found alone. -/
theorem ofLines_of_opensClass {name : String} (h : lines[k]? = some outer) (hk : k < count)
    (hopens : OpensClass outer name)
    (hsilent : ∀ i l, k < i → i < count → lines[i]? = some l → SaysNothing l) :
    Scope.ofLines (lines.take count).reverse = ⟨"", name⟩ := by
  refine (ScopeAround.inClass (reverse_take_eq h hk) ?_ hopens).eq_ofLines
  intro l hl
  obtain ⟨i, hki, hic, hat⟩ := exists_getElem?_of_mem_drop (List.mem_reverse.mp hl)
  exact hsilent i l hki hic hat

end Picked

/-! ## Test methods right in a class -/

section Method

variable {file : Forest} {w : Nat} {text : String} {p d c : Nat} {outer line : String}
  {members body : Forest} {testClass method : String}

/-- The scan from a line under a test method right in a class, down to which nothing more is
said, picks the two. -/
theorem picked_of_isParent (ha : file.Aligned w) (hp : file.IsParent p d)
    (hclass : file.blockAt? p = some (outer, members)) (hopens : OpensClass outer testClass)
    (hmethod : file.blockAt? d = some (line, body)) (hdef : DefinesTest line method) (hdc : d ≤ c)
    (hsilent : ∀ i l, d < i → i ≤ c → file.lines[i]? = some l → SaysNothing l) :
    Picked file.lines (c + 1) d p line outer ⟨method, testClass⟩ where
  lt_count := by omega
  method_at := (Forest.lines_of_blockAt? hmethod).1
  defines := hdef
  silent := fun i l hdi hic => hsilent i l hdi (by omega)
  lt_method := hp.1.1
  class_at := (Forest.lines_of_blockAt? hclass).1
  opens := hopens
  less := ha.lt_of_encloses hclass hmethod hp.1
  skipped := by
    intro i l name hpi hid hat hname
    obtain ⟨inner, hblock⟩ := ha.exists_blockAt? hat hname.isCodeless
    obtain ⟨header, deep, hat', -, hle⟩ := hp.1.2
    exact ha.le_of_isParent hp hmethod hblock ⟨hpi, header, deep, hat', by omega, by omega⟩

/-- The scope of a test method right in a class is the method and the class, seen from its header
and from each line of its body down to which no other line says anything. -/
theorem scope_of_method_in_class (ha : file.Aligned w) (htext : textLines text = file.lines)
    (hp : file.IsParent p d) (hclass : file.blockAt? p = some (outer, members))
    (hopens : OpensClass outer testClass) (hmethod : file.blockAt? d = some (line, body))
    (hdef : DefinesTest line method) {cursor : Cursor}
    (hcursor : cursor.StandsOn file.lines.length c) (hdc : d ≤ c)
    (hsilent : ∀ i l, d < i → i ≤ c → file.lines[i]? = some l → SaysNothing l) :
    Scope.ofLines (linesToCursor text cursor) = ⟨method, testClass⟩ := by
  rw [linesToCursor_of_standsOn (by rwa [htext]), htext]
  exact (picked_of_isParent ha hp hclass hopens hmethod hdef hdc hsilent).ofLines_eq

/-- A class with a class and a method of its own, then a comment and a test method. -/
def memberFile : Forest :=
  .block "class Cart:"
    (.block " class Item:" (.block "  pass" .nil .nil)
      (.block " def fill():" (.block "  class Box:" .nil .nil)
        (.remark "# sums"
          (.block " def test_sum():" (.block "  pass" .nil (.remark "" .nil)) .nil))))
    .nil

/-- The text of that file. -/
def memberText : String :=
  "class Cart:\n class Item:\n  pass\n def fill():\n  class Box:\n# sums\n" ++
    " def test_sum():\n  pass\n\n"

/-- The classes of other members stand nearer to the test method than its own class. -/
theorem scope_of_method_in_cart :
    (memberFile.Aligned 0 ∧ textLines memberText = memberFile.lines ∧ memberFile.IsParent 0 6 ∧
      OpensClass "class Cart:" "Cart" ∧ DefinesTest " def test_sum():" "test_sum" ∧
      Cursor.StandsOn 8 memberFile.lines.length 8 ∧
      ∀ i l, 6 < i → i ≤ 8 → memberFile.lines[i]? = some l → SaysNothing l) ∧
      Scope.ofLines (linesToCursor memberText 8) = ⟨"test_sum", "Cart"⟩ := by
  have ha : memberFile.Aligned 0 := by decide
  have htext : textLines memberText = memberFile.lines := by decide +kernel
  have hp : memberFile.IsParent 0 6 := by decide
  have hopens : OpensClass "class Cart:" "Cart" := kind_eq_classDef_iff.mp (by decide)
  have hdef : DefinesTest " def test_sum():" "test_sum" := kind_eq_testDef_iff.mp (by decide)
  have hcursor : Cursor.StandsOn 8 memberFile.lines.length 8 := by decide
  have hsilent : ∀ i l, 6 < i → i ≤ 8 → memberFile.lines[i]? = some l → SaysNothing l := by
    intro i l hlt hle hat
    obtain rfl | rfl : i = 7 ∨ i = 8 := by omega
    all_goals
      obtain rfl := Option.some.inj hat
      exact kind_eq_other_iff.mp (by decide)
  exact ⟨⟨ha, htext, hp, hopens, hdef, hcursor, hsilent⟩,
    scope_of_method_in_class ha htext hp rfl hopens rfl hdef hcursor (by decide) hsilent⟩

end Method

/-! ## Classes beside a test method -/

section Beside

variable {file : Forest} {w count d k t : Nat} {line outer header : String}
  {body members inner : Forest} {scope : Scope}

/-- No class is around the method and begins below the class that the scan picks. -/
theorem Picked.not_opensClass (h : Picked file.lines count d k line outer scope)
    (ha : file.Aligned w) (hmethod : file.blockAt? d = some (line, body)) (hkt : k < t)
    (hat : file.blockAt? t = some (header, inner)) (henc : file.Encloses t d) (name : String) :
    ¬ OpensClass header name := by
  intro hname
  have hdeeper := ha.lt_of_encloses hat hmethod henc
  have := h.skipped t header name hkt henc.1 (Forest.lines_of_blockAt? hat).1 hname
  omega

theorem Picked.eq_of_isParent (h : Picked file.lines count d k line outer scope)
    (ha : file.Aligned w) (hmethod : file.blockAt? d = some (line, body))
    (hclass : file.blockAt? k = some (outer, members)) (hp : file.IsParent t d)
    (hat : file.blockAt? t = some (header, inner)) {name : String}
    (hname : OpensClass header name) : t = k := by
  have hkd := h.lt_method
  have hless := h.less
  rcases Nat.lt_trichotomy t k with htk | rfl | hkt
  · obtain ⟨_, head, row, hat', -, hle⟩ := hp.1
    have := ha.le_of_isParent hp hmethod hclass ⟨htk, head, row, hat', by omega, by omega⟩
    omega
  · rfl
  · exact absurd hname (h.not_opensClass ha hmethod hkt hat hp.1 name)

/-- How the class that the scan picks, on line `k`, lies to the test method, on line `d`. -/
structure BesideMethod (file : Forest) (count d k : Nat) (line outer : String) (scope : Scope) :
    Prop extends Picked file.lines count d k line outer scope where
  method_block : ∃ body, file.blockAt? d = some (line, body)
  class_block : ∃ members, file.blockAt? k = some (outer, members)
  /-- The class is around the method unless a block around the method closed it. -/
  encloses_iff : file.Encloses k d ↔ ∀ t header inner, k < t →
    file.blockAt? t = some (header, inner) → file.Encloses t d →
      indentWidth outer < indentWidth header
  /-- A class around the method is indented less than every line with code between the two. -/
  deeper : file.Encloses k d → ∀ i l, k < i → i < d → file.lines[i]? = some l →
    isCodeless l = false → indentWidth outer < indentWidth l
  /-- The blocks around the method that begin below the class are no classes. -/
  no_class : ∀ t header inner name, k < t → file.blockAt? t = some (header, inner) →
    file.Encloses t d → ¬ OpensClass header name
  /-- A class that has the method right in it is this one. -/
  eq_parent : ∀ t header inner name, file.IsParent t d →
    file.blockAt? t = some (header, inner) → OpensClass header name → t = k

/-- The class found beside a test method is the nearest one above it that is indented less. It is
around the method, and then every line with code between the two is indented deeper than it,
exactly when each block around the method that begins below the class is deeper than the class.
Such a block is never a class, and a class that has the method right in it is the one found. -/
theorem class_beside_method_encloses_iff {text : String} {cursor : Cursor}
    (ha : file.Aligned w) (htext : textLines text = file.lines)
    (hm : (Scope.ofLines (linesToCursor text cursor)).method ≠ "")
    (hc : (Scope.ofLines (linesToCursor text cursor)).testClass ≠ "") :
    ∃ d k line outer, BesideMethod file cursor.count d k line outer
      (Scope.ofLines (linesToCursor text cursor)) := by
  rw [linesToCursor_eq, htext] at hm hc ⊢
  obtain ⟨d, k, line, outer, h⟩ := exists_picked hm hc
  obtain ⟨body, hmethod⟩ := ha.exists_blockAt? h.method_at h.defines.isCodeless
  obtain ⟨members, hclass⟩ := ha.exists_blockAt? h.class_at h.opens.isCodeless
  refine ⟨d, k, line, outer, h, ⟨body, hmethod⟩, ⟨members, hclass⟩,
    ha.encloses_iff hclass hmethod h.lt_method h.less, ?_, ?_, ?_⟩
  · rintro ⟨-, head, row, hat, -, hle⟩ i l hki hid hl hcode
    exact ha.lt_of_code hclass ⟨hki, head, row, hat, by omega, by omega⟩ hl hcode
  · intro t header inner name hkt hat henc
    exact h.not_opensClass ha hmethod hkt hat henc name
  · intro t header inner name hp hat hname
    exact h.eq_of_isParent ha hmethod hclass hp hat hname

/-- A test method under a condition, below a class that is closed. -/
def conditionalFile : Forest :=
  .block "class Cart:" (.block "    pass" .nil .nil)
    (.block "if DEBUG:" (.block "    def test_sum():" (.block "        pass" .nil .nil) .nil) .nil)

/-- The text of that file. -/
def conditionalText : String :=
  "class Cart:\n    pass\nif DEBUG:\n    def test_sum():\n        pass\n"

theorem aligned_conditionalFile : conditionalFile.Aligned 0 := by decide

theorem textLines_conditionalText : textLines conditionalText = conditionalFile.lines := by
  decide +kernel

theorem scope_conditionalText :
    Scope.ofLines (linesToCursor conditionalText 4) = ⟨"test_sum", "Cart"⟩ := by
  decide +kernel

/-- A class beside a test method is found in the file of the closed class too. -/
theorem class_beside_conditional_method :
    conditionalFile.Aligned 0 ∧ textLines conditionalText = conditionalFile.lines ∧
      (Scope.ofLines (linesToCursor conditionalText 4)).method ≠ "" ∧
      (Scope.ofLines (linesToCursor conditionalText 4)).testClass ≠ "" ∧
      ∃ d k line outer, BesideMethod conditionalFile (Cursor.count 4) d k line outer
        (Scope.ofLines (linesToCursor conditionalText 4)) := by
  have hm : (Scope.ofLines (linesToCursor conditionalText 4)).method ≠ "" := by
    rw [scope_conditionalText]; decide
  have hc : (Scope.ofLines (linesToCursor conditionalText 4)).testClass ≠ "" := by
    rw [scope_conditionalText]; decide
  exact ⟨aligned_conditionalFile, textLines_conditionalText, hm, hc,
    class_beside_method_encloses_iff aligned_conditionalFile textLines_conditionalText hm hc⟩

/-- The class found beside a test method is not always around it: below a closed class, a
condition can hold the method. No choice of lines with the two names helps. -/
theorem closed_class_beside_method :
    ¬ ∀ (file : Forest) (w : Nat) (text : String) (cursor : Cursor),
      file.Aligned w → textLines text = file.lines →
      (Scope.ofLines (linesToCursor text cursor)).method ≠ "" →
      (Scope.ofLines (linesToCursor text cursor)).testClass ≠ "" →
      ∃ d k line outer body members, file.blockAt? d = some (line, body) ∧
        DefinesTest line (Scope.ofLines (linesToCursor text cursor)).method ∧
        file.blockAt? k = some (outer, members) ∧
        OpensClass outer (Scope.ofLines (linesToCursor text cursor)).testClass ∧
        file.Encloses k d := by
  intro h
  obtain ⟨d, k, line, outer, body, members, hmethod, hdef, hclass, hopens, -, _, _, hat, -, hle⟩ :=
    h conditionalFile 0 conditionalText 4 aligned_conditionalFile textLines_conditionalText
      (by rw [scope_conditionalText]; decide) (by rw [scope_conditionalText]; decide)
  rw [scope_conditionalText, ← kind_eq_testDef_iff] at hdef
  rw [scope_conditionalText, ← kind_eq_classDef_iff] at hopens
  have hd : d = 3 := by
    have hall : ∀ i < 5, conditionalFile.lines[i]?.map LineKind.of = some (.testDef "test_sum") →
        i = 3 := by decide +kernel
    exact hall d (Forest.lt_length_of_blockAt? hmethod)
      (by rw [(Forest.lines_of_blockAt? hmethod).1, Option.map_some, hdef])
  have hk : k = 0 := by
    have hall : ∀ i < 5, conditionalFile.lines[i]?.map LineKind.of = some (.classDef "Cart") →
        i = 0 := by decide +kernel
    exact hall k (Forest.lt_length_of_blockAt? hclass)
      (by rw [(Forest.lines_of_blockAt? hclass).1, Option.map_some, hopens])
  subst hd hk
  obtain ⟨rfl, rfl⟩ := Prod.mk.inj (Option.some.inj hat)
  exact absurd hle (by decide)

end Beside

/-! ## Classes in the body of a test method -/

open Classical in
theorem exists_last_opensClass {lines : List String} {d c i : Nat} {line name : String}
    (hdi : d < i) (hic : i ≤ c) (hat : lines[i]? = some line) (hname : OpensClass line name) :
    ∃ k l n, d < k ∧ k ≤ c ∧ lines[k]? = some l ∧ OpensClass l n ∧
      ∀ j l' n', k < j → j ≤ c → lines[j]? = some l' → ¬ OpensClass l' n' := by
  obtain ⟨hdk, l, n, hl, hn⟩ := Nat.findGreatest_spec
    (P := fun k => d < k ∧ ∃ l n, lines[k]? = some l ∧ OpensClass l n) hic
    ⟨hdi, line, name, hat, hname⟩
  refine ⟨_, l, n, hdk, Nat.findGreatest_le c, hl, hn, ?_⟩
  intro j l' n' hkj hjc hl' hn'
  exact Nat.findGreatest_is_greatest hkj hjc ⟨by omega, l', n', hl', hn'⟩

section Body

variable {file : Forest} {w : Nat} {text : String} {p d c : Nat} {outer line : String}
  {members body : Forest} {testClass method : String}

/-- Seen from its header, a test method right in a class has the scope of the two. Seen from a
line of its body, with no other test method between, it has that scope exactly when no class is
opened between; otherwise the nearest such class is the scope, without a method, whether or not
its block reaches down to the line. -/
theorem scope_in_method_body (ha : file.Aligned w) (htext : textLines text = file.lines)
    (hp : file.IsParent p d) (hclass : file.blockAt? p = some (outer, members))
    (hopens : OpensClass outer testClass) (hmethod : file.blockAt? d = some (line, body))
    (hdef : DefinesTest line method) {onHeader inBody : Cursor}
    (hheader : onHeader.StandsOn file.lines.length d)
    (hbody : inBody.StandsOn file.lines.length c) (hdc : d ≤ c)
    (hno : ∀ i l name, d < i → i ≤ c → file.lines[i]? = some l → ¬ DefinesTest l name) :
    Scope.ofLines (linesToCursor text onHeader) = ⟨method, testClass⟩ ∧
      (Scope.ofLines (linesToCursor text inBody) = ⟨method, testClass⟩ ↔
        ∀ i l name, d < i → i ≤ c → file.lines[i]? = some l → ¬ OpensClass l name) ∧
      ∀ k l name, d < k → k ≤ c → file.lines[k]? = some l → OpensClass l name →
        (∀ i l' name', k < i → i ≤ c → file.lines[i]? = some l' → ¬ OpensClass l' name') →
          Scope.ofLines (linesToCursor text inBody) = ⟨"", name⟩ := by
  rw [linesToCursor_of_standsOn (by rwa [htext]), linesToCursor_of_standsOn (by rwa [htext]),
    htext]
  have hlast (k : Nat) (l name : String) (hdk : d < k) (hkc : k ≤ c)
      (hat : file.lines[k]? = some l) (hname : OpensClass l name)
      (hunder : ∀ i l' name', k < i → i ≤ c → file.lines[i]? = some l' → ¬ OpensClass l' name') :
      Scope.ofLines (file.lines.take (c + 1)).reverse = ⟨"", name⟩ := by
    refine ofLines_of_opensClass hat (by omega) hname fun i l' hki hic hat' => ⟨?_, ?_⟩
    · exact fun n => hno i l' n (by omega) (by omega) hat'
    · exact fun n => hunder i l' n hki (by omega) hat'
  refine ⟨?_, ⟨?_, ?_⟩, hlast⟩
  · exact (picked_of_isParent ha hp hclass hopens hmethod hdef (Nat.le_refl d)
      fun i l hdi hid => absurd hdi (by omega)).ofLines_eq
  · intro hscope i l name hdi hic hat hname
    obtain ⟨k, l', n, hdk, hkc, hat', hn, hunder⟩ := exists_last_opensClass hdi hic hat hname
    rw [hlast k l' n hdk hkc hat' hn hunder, Scope.mk.injEq] at hscope
    exact hdef.name_ne_empty hscope.1.symm
  · intro hnone
    exact (picked_of_isParent ha hp hclass hopens hmethod hdef hdc fun i l hdi hic hat =>
      ⟨fun n => hno i l n hdi hic hat, fun n => hnone i l n hdi hic hat⟩).ofLines_eq

/-- A test method right in a class, with a class in its body and a statement below that class. -/
def helperFile : Forest :=
  .block "class Cart:"
    (.block "    def test_sum(self):"
      (.block "        class Item:" (.block "            pass" .nil .nil)
        (.block "        self.fail()" .nil .nil)) .nil) .nil

/-- The text of that file. -/
def helperText : String :=
  "class Cart:\n    def test_sum(self):\n        class Item:\n            pass\n" ++
    "        self.fail()\n"

theorem aligned_helperFile : helperFile.Aligned 0 := by decide

theorem textLines_helperText : textLines helperText = helperFile.lines := by decide +kernel

theorem isParent_helperFile : helperFile.IsParent 0 1 := by decide

/-- The third line opens a class, and the lines below it say nothing. -/
theorem lines_helperFile {i : Nat} {l : String} (hi : 1 < i)
    (hat : helperFile.lines[i]? = some l) : (i = 2 ∧ OpensClass l "Item") ∨ SaysNothing l := by
  have hlen : i < 5 := (List.getElem?_eq_some_iff.mp hat).1
  obtain rfl | rfl | rfl : i = 2 ∨ i = 3 ∨ i = 4 := by omega
  all_goals obtain rfl := Option.some.inj hat
  · exact .inl ⟨rfl, kind_eq_classDef_iff.mp (by decide)⟩
  · exact .inr (kind_eq_other_iff.mp (by decide))
  · exact .inr (kind_eq_other_iff.mp (by decide))

theorem not_definesTest_helperFile {i : Nat} {l name : String} (hi : 1 < i)
    (hat : helperFile.lines[i]? = some l) : ¬ DefinesTest l name := by
  rcases lines_helperFile hi hat with ⟨-, hopens⟩ | hquiet
  · exact fun hdef => hdef.not_opensClass hopens
  · exact hquiet.1 name

theorem opensClass_cart : OpensClass "class Cart:" "Cart" := kind_eq_classDef_iff.mp (by decide)

theorem definesTest_sum : DefinesTest "    def test_sum(self):" "test_sum" :=
  kind_eq_testDef_iff.mp (by decide)

/-- The class in the body hides the test method from the statement below. -/
theorem scope_below_helper_class :
    (helperFile.Aligned 0 ∧ textLines helperText = helperFile.lines ∧ helperFile.IsParent 0 1 ∧
      OpensClass "class Cart:" "Cart" ∧ DefinesTest "    def test_sum(self):" "test_sum" ∧
      Cursor.StandsOn 1 helperFile.lines.length 1 ∧ Cursor.StandsOn 4 helperFile.lines.length 4 ∧
      ∀ i l name, 1 < i → i ≤ 4 → helperFile.lines[i]? = some l → ¬ DefinesTest l name) ∧
      Scope.ofLines (linesToCursor helperText 1) = ⟨"test_sum", "Cart"⟩ ∧
      (Scope.ofLines (linesToCursor helperText 4) = ⟨"test_sum", "Cart"⟩ ↔
        ∀ i l name, 1 < i → i ≤ 4 → helperFile.lines[i]? = some l → ¬ OpensClass l name) ∧
      Scope.ofLines (linesToCursor helperText 4) = ⟨"", "Item"⟩ := by
  have hno : ∀ i l name, 1 < i → i ≤ 4 → helperFile.lines[i]? = some l → ¬ DefinesTest l name :=
    fun i l name hi _ hat => not_definesTest_helperFile hi hat
  have hheader : Cursor.StandsOn 1 helperFile.lines.length 1 := by decide
  have hbody : Cursor.StandsOn 4 helperFile.lines.length 4 := by decide
  obtain ⟨hfirst, hiff, hlast⟩ := scope_in_method_body aligned_helperFile textLines_helperText
    isParent_helperFile rfl opensClass_cart rfl definesTest_sum hheader hbody (by decide) hno
  refine ⟨⟨aligned_helperFile, textLines_helperText, isParent_helperFile, opensClass_cart,
    definesTest_sum, hheader, hbody, hno⟩, hfirst, hiff, ?_⟩
  refine hlast 2 _ "Item" (by decide) (by decide) rfl (kind_eq_classDef_iff.mp (by decide)) ?_
  intro i l name hi _ hat
  rcases lines_helperFile (by omega) hat with ⟨rfl, -⟩ | hquiet
  · omega
  · exact hquiet.2 name

/-- A class that is closed in the body of a test method takes the place of the method for the
lines below it. -/
theorem helper_class_hides_method :
    ¬ ∀ (file : Forest) (w : Nat) (text : String) (p d c : Nat) (outer line : String)
      (members body : Forest) (testClass method : String) (onHeader inBody : Cursor),
      file.Aligned w → textLines text = file.lines → file.IsParent p d →
      file.blockAt? p = some (outer, members) → OpensClass outer testClass →
      file.blockAt? d = some (line, body) → DefinesTest line method →
      (∀ i l name, d < i → i ≤ d + body.lines.length → file.lines[i]? = some l →
        ¬ DefinesTest l name) →
      d < c → c ≤ d + body.lines.length →
      (∀ k header inner name, d < k → file.blockAt? k = some (header, inner) →
        OpensClass header name → ¬ file.Covers k c) →
      onHeader.StandsOn file.lines.length d → inBody.StandsOn file.lines.length c →
      Scope.ofLines (linesToCursor text inBody) = Scope.ofLines (linesToCursor text onHeader) ∧
        Scope.ofLines (linesToCursor text inBody) = ⟨method, testClass⟩ := by
  intro h
  have hcov : ∀ k header inner name, 1 < k → helperFile.blockAt? k = some (header, inner) →
      OpensClass header name → ¬ helperFile.Covers k 4 := by
    intro k header inner name hk hat hopens
    rcases lines_helperFile hk (Forest.lines_of_blockAt? hat).1 with ⟨rfl, -⟩ | hquiet
    · decide
    · exact absurd hopens (hquiet.2 name)
  have hscope := (h helperFile 0 helperText 0 1 4 _ _ _ _ "Cart" "test_sum" 1 4 aligned_helperFile
    textLines_helperText isParent_helperFile rfl opensClass_cart rfl definesTest_sum
    (fun i l name hi _ hat => not_definesTest_helperFile hi hat) (by decide) (by decide) hcov
    (by decide) (by decide)).2
  exact absurd hscope (by decide +kernel)

end Body

end TestCursor
