import TestCursor.Proofs.LineReading

/-!
# The scope, read off the lines

`ScopeAround lines scope` says which scope encloses a cursor without running over the lines: the
nearest line that defines a test method or opens a class decides, and for a test method the
nearest class line above it that is indented less. The scan finds exactly this scope
(`ScopeAround.eq_ofLines`, `scopeAround_ofLines`), and a line that says nothing can stand anywhere
without a change (`ofLines_filter_speaks`).
-/

namespace TestCursor

/-- No line among them defines a test method or opens a class. -/
def Silent (lines : List String) : Prop := ∀ line ∈ lines, SaysNothing line

/-- No line among them opens a class with an indentation below `width`. -/
def NoClassBelow (width : Nat) (lines : List String) : Prop :=
  ∀ line ∈ lines, ∀ name, OpensClass line name → width ≤ indentWidth line

/-- The name of the nearest class line that is indented less than `width`; the empty name when
there is no such line. -/
inductive NearestClass (width : Nat) (lines : List String) : String → Prop
  | found {between : List String} {line : String} {farther : List String} {name : String}
      (split : lines = between ++ line :: farther) (skipped : NoClassBelow width between)
      (opens : OpensClass line name) (less : indentWidth line < width) :
      NearestClass width lines name
  | missing (skipped : NoClassBelow width lines) : NearestClass width lines ""

/-- The scope around a cursor, from the lines above it, nearest first. -/
inductive ScopeAround (lines : List String) : Scope → Prop
  /-- No line says anything. -/
  | outside (silent : Silent lines) : ScopeAround lines ⟨"", ""⟩
  /-- The nearest line that says something opens a class. -/
  | inClass {nearer : List String} {line : String} {farther : List String} {name : String}
      (split : lines = nearer ++ line :: farther) (silent : Silent nearer)
      (opens : OpensClass line name) : ScopeAround lines ⟨"", name⟩
  /-- The nearest line that says something defines a test method. -/
  | inMethod {nearer : List String} {line : String} {farther : List String}
      {method testClass : String}
      (split : lines = nearer ++ line :: farther) (silent : Silent nearer)
      (defines : DefinesTest line method)
      (nearest : NearestClass (indentWidth line) farther testClass) :
      ScopeAround lines ⟨method, testClass⟩

/-! ## The scan above a test method -/

theorem kind_of_isCodeless {line : String} (h : isCodeless line = true) :
    LineKind.of line = .other :=
  kind_eq_other_iff.mpr (saysNothing_of_isCodeless h)

theorem above_cons_of_other {method line : String} {width : Nat}
    (h : ∀ name, LineKind.of line = .classDef name → width ≤ indentWidth line)
    (rest : List String) :
    Scope.above method width (line :: rest) = Scope.above method width rest := by
  rw [Scope.above]
  split
  · rfl
  · split
    · next name hkind =>
      have := h name hkind
      rw [if_neg (by omega)]
    · rfl

theorem above_cons_of_opensClass {method line name : String} {width : Nat}
    (h : OpensClass line name) (hw : indentWidth line < width) (rest : List String) :
    Scope.above method width (line :: rest) = ⟨method, name⟩ := by
  have hkind := kind_eq_classDef_iff.mpr h
  have hcode : ¬ isCodeless line = true := by
    intro hcode
    rw [kind_of_isCodeless hcode] at hkind
    exact absurd hkind (by simp)
  rw [Scope.above, if_neg hcode, hkind]
  exact if_pos hw

theorem above_append_of_noClassBelow {method : String} {width : Nat} {between : List String}
    (h : NoClassBelow width between) (rest : List String) :
    Scope.above method width (between ++ rest) = Scope.above method width rest := by
  induction between with
  | nil => rfl
  | cons line between ih =>
    rw [List.cons_append, above_cons_of_other
      (fun name hkind => h line (by simp) name (kind_eq_classDef_iff.mp hkind))]
    exact ih fun l hl => h l (by simp [hl])

theorem NearestClass.above_eq {method : String} {width : Nat} {lines : List String}
    {name : String} (h : NearestClass width lines name) :
    Scope.above method width lines = ⟨method, name⟩ := by
  cases h with
  | found split skipped opens less =>
    rw [split, above_append_of_noClassBelow skipped, above_cons_of_opensClass opens less]
  | missing skipped =>
    have h : Scope.above method width (lines ++ []) = Scope.above method width [] :=
      above_append_of_noClassBelow skipped []
    rwa [List.append_nil] at h

theorem NearestClass.cons {width : Nat} {line : String} {lines : List String} {name : String}
    (hline : ∀ n, OpensClass line n → width ≤ indentWidth line)
    (h : NearestClass width lines name) : NearestClass width (line :: lines) name := by
  cases h with
  | found split skipped opens less =>
    exact .found (by rw [split, List.cons_append]) (List.forall_mem_cons.mpr ⟨hline, skipped⟩)
      opens less
  | missing skipped => exact .missing (List.forall_mem_cons.mpr ⟨hline, skipped⟩)

theorem exists_nearestClass (width : Nat) (lines : List String) :
    ∃ name, NearestClass width lines name := by
  induction lines with
  | nil => exact ⟨"", .missing (List.forall_mem_nil _)⟩
  | cons line lines ih =>
    obtain ⟨name, hname⟩ := ih
    by_cases hline : ∃ n, OpensClass line n ∧ indentWidth line < width
    · obtain ⟨n, hn, hw⟩ := hline
      exact ⟨n, .found (List.nil_append _).symm (List.forall_mem_nil _) hn hw⟩
    · refine ⟨name, hname.cons fun n hn => ?_⟩
      have : ¬ indentWidth line < width := fun hw => hline ⟨n, hn, hw⟩
      omega

/-! ## The scan from the cursor -/

/-- Each line is read for its kind alone: the check for blank lines and comments changes
nothing, because such a line says nothing. -/
theorem ofLines_cons (line : String) (rest : List String) :
    Scope.ofLines (line :: rest) =
      match LineKind.of line with
      | .testDef name => Scope.above name (indentWidth line) rest
      | .classDef name => ⟨"", name⟩
      | .other => Scope.ofLines rest := by
  rw [Scope.ofLines]
  split
  · next hcode => rw [kind_of_isCodeless hcode]
  · rfl

theorem ofLines_cons_of_saysNothing {line : String} (h : SaysNothing line) (rest : List String) :
    Scope.ofLines (line :: rest) = Scope.ofLines rest := by
  rw [ofLines_cons, kind_eq_other_iff.mpr h]

theorem ofLines_cons_of_opensClass {line name : String} (h : OpensClass line name)
    (rest : List String) : Scope.ofLines (line :: rest) = ⟨"", name⟩ := by
  rw [ofLines_cons, kind_eq_classDef_iff.mpr h]

theorem ofLines_cons_of_definesTest {line name : String} (h : DefinesTest line name)
    (rest : List String) :
    Scope.ofLines (line :: rest) = Scope.above name (indentWidth line) rest := by
  rw [ofLines_cons, kind_eq_testDef_iff.mpr h]

theorem ofLines_append_of_silent {nearer : List String} (h : Silent nearer)
    (rest : List String) : Scope.ofLines (nearer ++ rest) = Scope.ofLines rest := by
  induction nearer with
  | nil => rfl
  | cons line nearer ih =>
    rw [List.cons_append, ofLines_cons_of_saysNothing (h line (by simp))]
    exact ih fun l hl => h l (by simp [hl])

/-- The scan finds the scope. -/
theorem ScopeAround.eq_ofLines {lines : List String} {scope : Scope} (h : ScopeAround lines scope) :
    Scope.ofLines lines = scope := by
  cases h with
  | outside silent =>
    have := ofLines_append_of_silent silent []
    rwa [List.append_nil] at this
  | inClass split silent opens =>
    rw [split, ofLines_append_of_silent silent, ofLines_cons_of_opensClass opens]
  | inMethod split silent defines nearest =>
    rw [split, ofLines_append_of_silent silent, ofLines_cons_of_definesTest defines,
      nearest.above_eq]

theorem ScopeAround.cons {line : String} {lines : List String} {scope : Scope}
    (hline : SaysNothing line) (h : ScopeAround lines scope) :
    ScopeAround (line :: lines) scope := by
  have hcons {nearer : List String} (hn : Silent nearer) : Silent (line :: nearer) :=
    List.forall_mem_cons.mpr ⟨hline, hn⟩
  cases h with
  | outside silent => exact .outside (hcons silent)
  | inClass split silent opens =>
    exact .inClass (by rw [split, List.cons_append]) (hcons silent) opens
  | inMethod split silent defines nearest =>
    exact .inMethod (by rw [split, List.cons_append]) (hcons silent) defines nearest

/-- What the scan finds is the scope. -/
theorem scopeAround_ofLines (lines : List String) : ScopeAround lines (Scope.ofLines lines) := by
  induction lines with
  | nil => exact .outside (List.forall_mem_nil _)
  | cons line lines ih =>
    have hnone : Silent [] := List.forall_mem_nil _
    cases hkind : LineKind.of line with
    | testDef name =>
      have hline := kind_eq_testDef_iff.mp hkind
      obtain ⟨testClass, hclass⟩ := exists_nearestClass (indentWidth line) lines
      rw [ofLines_cons_of_definesTest hline, hclass.above_eq]
      exact .inMethod (List.nil_append _).symm hnone hline hclass
    | classDef name =>
      have hline := kind_eq_classDef_iff.mp hkind
      rw [ofLines_cons_of_opensClass hline]
      exact .inClass (List.nil_append _).symm hnone hline
    | other =>
      have hline := kind_eq_other_iff.mp hkind
      rw [ofLines_cons_of_saysNothing hline]
      exact ih.cons hline

/-- A class found beside a test method stands above it and is indented less, and no class line
between the two is. -/
theorem exists_lines_of_method_of_class {lines : List String}
    (hm : (Scope.ofLines lines).method ≠ "") (hc : (Scope.ofLines lines).testClass ≠ "") :
    ∃ nearer line between outer farther, lines = nearer ++ line :: (between ++ outer :: farther) ∧
      Silent nearer ∧ DefinesTest line (Scope.ofLines lines).method ∧
      NoClassBelow (indentWidth line) between ∧
      OpensClass outer (Scope.ofLines lines).testClass ∧ indentWidth outer < indentWidth line := by
  have h := scopeAround_ofLines lines
  generalize Scope.ofLines lines = scope at h hm hc
  cases h with
  | outside silent => exact absurd rfl hm
  | inClass split silent opens => exact absurd rfl hm
  | inMethod split silent defines nearest =>
    cases nearest with
    | missing skipped => exact absurd rfl hc
    | found hsplit skipped opens less =>
      exact ⟨_, _, _, _, _, by rw [split, hsplit], silent, defines, skipped, opens, less⟩

/-! ## Lines that say nothing -/

/-- The line defines a test method or opens a class. -/
def speaks (line : String) : Bool := LineKind.of line != .other

theorem speaks_eq_false_iff {line : String} : speaks line = false ↔ SaysNothing line := by
  rw [← kind_eq_other_iff]
  simp [speaks]

theorem OpensClass.speaks {line name : String} (h : OpensClass line name) :
    speaks line = true := by
  rw [TestCursor.speaks, kind_eq_classDef_iff.mpr h]
  rfl

theorem DefinesTest.speaks {line name : String} (h : DefinesTest line name) :
    speaks line = true := by
  rw [TestCursor.speaks, kind_eq_testDef_iff.mpr h]
  rfl

theorem above_filter_speaks (method : String) (width : Nat) (lines : List String) :
    Scope.above method width (lines.filter speaks) = Scope.above method width lines := by
  induction lines with
  | nil => rfl
  | cons line lines ih =>
    cases hs : speaks line with
    | false =>
      have hkind := kind_eq_other_iff.mpr (speaks_eq_false_iff.mp hs)
      rw [List.filter_cons_of_neg (by simp [hs]), ih, above_cons_of_other (by simp [hkind])]
    | true =>
      rw [List.filter_cons_of_pos hs]
      simp only [Scope.above, ih]

theorem ofLines_filter_speaks (lines : List String) :
    Scope.ofLines (lines.filter speaks) = Scope.ofLines lines := by
  induction lines with
  | nil => rfl
  | cons line lines ih =>
    cases hs : speaks line with
    | false =>
      rw [List.filter_cons_of_neg (by simp [hs]), ih,
        ofLines_cons_of_saysNothing (speaks_eq_false_iff.mp hs)]
    | true =>
      rw [List.filter_cons_of_pos hs]
      simp only [ofLines_cons, above_filter_speaks, ih]

theorem filter_speaks_of_silent {lines : List String} (h : Silent lines) :
    lines.filter speaks = [] := by
  rw [List.filter_eq_nil_iff]
  intro line hline
  simp [speaks_eq_false_iff.mpr (h line hline)]

/-- The scope around a cursor is the declared one, whichever lines stand above it. Lines that say
nothing can be put in or left out anywhere, and a class named beside a test method is opened above
it with less indentation. -/
theorem ofLines_iff_scopeAround (lines : List String) :
    (∀ scope, Scope.ofLines lines = scope ↔ ScopeAround lines scope) ∧
      (∀ before extra after, lines = before ++ extra ++ after → Silent extra →
        Scope.ofLines lines = Scope.ofLines (before ++ after)) ∧
      ((Scope.ofLines lines).method ≠ "" → (Scope.ofLines lines).testClass ≠ "" →
        ∃ nearer line between outer farther,
          lines = nearer ++ line :: (between ++ outer :: farther) ∧
          DefinesTest line (Scope.ofLines lines).method ∧
          OpensClass outer (Scope.ofLines lines).testClass ∧
          indentWidth outer < indentWidth line) := by
  refine ⟨fun scope => ⟨?_, ScopeAround.eq_ofLines⟩, ?_, ?_⟩
  · rintro rfl
    exact scopeAround_ofLines lines
  · rintro before extra after rfl hextra
    rw [← ofLines_filter_speaks, ← ofLines_filter_speaks (before ++ after), List.filter_append,
      List.filter_append, List.filter_append, filter_speaks_of_silent hextra, List.append_nil]
  · intro hm hc
    obtain ⟨nearer, line, between, outer, farther, hlines, -, hdef, -, hopens, hless⟩ :=
      exists_lines_of_method_of_class hm hc
    exact ⟨nearer, line, between, outer, farther, hlines, hdef, hopens, hless⟩

/-- A commented class between a method and its class changes nothing, and the class found stands
above the method with less indentation. -/
theorem scope_of_method_below_comment :
    (Silent ["    # class Draft:", ""] ∧
      Scope.ofLines ["    def test_total(self):", "    # class Draft:", "", "class CartTest:"] =
        Scope.ofLines ["    def test_total(self):", "class CartTest:"]) ∧
    ("test_total" ≠ "" ∧ "CartTest" ≠ "" ∧ ∃ line outer, DefinesTest line "test_total" ∧
      OpensClass outer "CartTest" ∧ indentWidth outer < indentWidth line) := by
  have hsilent : Silent ["    # class Draft:", ""] := by
    intro line hline
    apply saysNothing_of_isCodeless
    revert line
    decide
  have hscope : Scope.ofLines ["    def test_total(self):", "    # class Draft:", "",
      "class CartTest:"] = ⟨"test_total", "CartTest"⟩ := by decide
  refine ⟨⟨hsilent, (ofLines_iff_scopeAround _).2.1 ["    def test_total(self):"] _
    ["class CartTest:"] rfl hsilent⟩, by decide, by decide, ?_⟩
  obtain ⟨nearer, line, between, outer, farther, -, hdef, hopens, hless⟩ :=
    (ofLines_iff_scopeAround _).2.2 (by rw [hscope]; decide) (by rw [hscope]; decide)
  rw [hscope] at hdef hopens
  exact ⟨line, outer, hdef, hopens, hless⟩

end TestCursor
