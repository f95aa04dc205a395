import TestCursor.Proofs.ScopeAround
import TestCursor.TestPath

/-!
# A test path names one test

The path of a method is put together from a module path, which can be any text, and two names. It
can be taken apart again, because the names that the scan finds are made of word characters.

1. A text is cut at the last occurrence of a character exactly when the character is not in the
   part behind (`splitAtLast?_eq_some_iff`).
2. Neither a dot nor a colon is a word character, so neither is in a name that the scan finds
   (`allWord_ofLines`).
3. So a path gives back its parts (`readClass?_classPath`, `readMethod?_methodPath`), and two
   paths are the same only when their parts are (`testPath_reads_back`).
-/

namespace TestCursor

/-! ## The last occurrence of a character -/

/-- What stands in front of the last occurrence of a character, and what stands behind it. -/
def splitAtLast? (sep : Char) : List Char → Option (List Char × List Char)
  | [] => none
  | c :: rest =>
    match splitAtLast? sep rest with
    | some (front, behind) => some (c :: front, behind)
    | none => if c = sep then some ([], rest) else none

theorem splitAtLast?_eq_none {sep : Char} {text : List Char} (h : sep ∉ text) :
    splitAtLast? sep text = none := by
  induction text with
  | nil => rfl
  | cons c rest ih =>
    obtain ⟨hc, hrest⟩ := not_or.mp (mt List.mem_cons.mpr h)
    rw [splitAtLast?, ih hrest]
    exact if_neg (Ne.symm hc)

theorem splitAtLast?_append {sep : Char} {behind : List Char} (h : sep ∉ behind)
    (front : List Char) : splitAtLast? sep (front ++ sep :: behind) = some (front, behind) := by
  induction front with
  | nil =>
    rw [List.nil_append, splitAtLast?, splitAtLast?_eq_none h]
    exact if_pos rfl
  | cons c front ih => rw [List.cons_append, splitAtLast?, ih]

theorem splitAtLast?_eq_some_iff {sep : Char} {text front behind : List Char} :
    splitAtLast? sep text = some (front, behind) ↔
      text = front ++ sep :: behind ∧ sep ∉ behind := by
  constructor
  · intro h
    by_cases hmem : sep ∈ text
    · -- Cut at the last occurrence, the text has only one way to be read.
      obtain ⟨rest, back, hback, hrest⟩ := List.eq_append_cons_of_mem (List.mem_reverse.mpr hmem)
      have htext : text = back.reverse ++ sep :: rest.reverse := by
        rw [← List.reverse_reverse text, hback]
        simp
      have hlast : sep ∉ rest.reverse := mt List.mem_reverse.mp hrest
      rw [htext, splitAtLast?_append hlast, Option.some.injEq, Prod.mk.injEq] at h
      obtain ⟨rfl, rfl⟩ := h
      exact ⟨htext, hlast⟩
    · rw [splitAtLast?_eq_none hmem] at h
      cases h
  · rintro ⟨rfl, hlast⟩
    exact splitAtLast?_append hlast front

/-! ## Names -/

theorem DefinesTest.allWord {line name : String} (h : DefinesTest line name) :
    AllWord name.toList := by
  obtain ⟨lead, gap, word, space, rest, -, -, -, ⟨-, hword⟩, -, rfl⟩ := h
  rw [String.toList_ofList]
  exact fun c hc => (List.mem_append.mp hc).elim (allWord_testMarker c) (hword c)

theorem OpensClass.allWord {line name : String} (h : OpensClass line name) :
    AllWord name.toList := by
  obtain ⟨lead, gap, word, rest, -, -, -, ⟨-, hword⟩, -, rfl⟩ := h
  rwa [String.toList_ofList]

theorem allWord_empty : AllWord "".toList := fun _ h => absurd h List.not_mem_nil

theorem NearestClass.allWord {width : Nat} {lines : List String} {name : String}
    (h : NearestClass width lines name) : AllWord name.toList := by
  cases h with
  | found split skipped opens less => exact opens.allWord
  | missing skipped => exact allWord_empty

/-- The names that the scan finds are made of word characters. -/
theorem allWord_ofLines (lines : List String) :
    AllWord (Scope.ofLines lines).method.toList ∧
      AllWord (Scope.ofLines lines).testClass.toList := by
  have hscope := scopeAround_ofLines lines
  generalize Scope.ofLines lines = scope at hscope
  cases hscope with
  | outside silent => exact ⟨allWord_empty, allWord_empty⟩
  | inClass split silent opens => exact ⟨allWord_empty, opens.allWord⟩
  | inMethod split silent defines nearest => exact ⟨defines.allWord, nearest.allWord⟩

/-- The character between a module and a class. -/
def separatorChar (nose : Bool) : Char := if nose then ':' else '.'

theorem toList_moduleSeparator (nose : Bool) :
    (moduleSeparator nose).toList = [separatorChar nose] := by
  cases nose <;> rfl

theorem AllWord.dot_not_mem {text : List Char} (h : AllWord text) : '.' ∉ text :=
  fun hmem => absurd (h _ hmem) (by decide)

theorem AllWord.separatorChar_not_mem {text : List Char} (h : AllWord text) (nose : Bool) :
    separatorChar nose ∉ text := by
  intro hmem
  have hword := h _ hmem
  revert hword
  cases nose <;> decide

/-! ## Reading a path -/

/-- The module and the class that a path names: the class is what follows the last separator. -/
def readClass? (nose : Bool) (path : String) : Option (String × String) :=
  (splitAtLast? (separatorChar nose) path.toList).map fun (front, behind) =>
    (String.ofList front, String.ofList behind)

/-- The module, the class and the method that a path names: the method is what follows the last
dot, and what stands in front of it names the module and the class. -/
def readMethod? (nose : Bool) (path : String) : Option (String × String × String) :=
  (splitAtLast? '.' path.toList).bind fun (front, method) =>
    (readClass? nose (String.ofList front)).map fun (modulePath, testClass) =>
      (modulePath, testClass, String.ofList method)

theorem readClass?_classPath {testClass : String} (hclass : AllWord testClass.toList)
    (nose : Bool) (modulePath : String) :
    readClass? nose (classPath nose modulePath testClass) = some (modulePath, testClass) := by
  have hsplit : splitAtLast? (separatorChar nose) (classPath nose modulePath testClass).toList =
      some (modulePath.toList, testClass.toList) := by
    refine splitAtLast?_eq_some_iff.mpr ⟨?_, hclass.separatorChar_not_mem nose⟩
    rw [classPath, String.toList_append, String.toList_append, toList_moduleSeparator,
      List.append_assoc]
    rfl
  rw [readClass?, hsplit]
  simp only [Option.map_some, String.ofList_toList]

theorem readMethod?_methodPath {testClass method : String} (hclass : AllWord testClass.toList)
    (hmethod : AllWord method.toList) (nose : Bool) (modulePath : String) :
    readMethod? nose (methodPath nose modulePath testClass method) =
      some (modulePath, testClass, method) := by
  have hsplit : splitAtLast? '.' (methodPath nose modulePath testClass method).toList =
      some ((classPath nose modulePath testClass).toList, method.toList) := by
    refine splitAtLast?_eq_some_iff.mpr ⟨?_, hmethod.dot_not_mem⟩
    rw [methodPath, String.toList_append, String.toList_append, List.append_assoc]
    rfl
  rw [readMethod?, hsplit]
  simp only [Option.bind_some, String.ofList_toList, readClass?_classPath hclass, Option.map_some]

example : readMethod? true "shop.v1:old:Cart.test_sum" =
    some ("shop.v1:old", "Cart", "test_sum") := by decide +kernel

/-- The path of a method found by the scan gives back its module, class and method, and that of a
class its module and class, whatever the module path is and even when a name is missing. So two
methods have one path only when they are the same, and so have two classes. -/
theorem testPath_reads_back (nose : Bool) (module₁ module₂ : String)
    (lines₁ lines₂ : List String) :
    let scope₁ : Scope := Scope.ofLines lines₁
    let scope₂ : Scope := Scope.ofLines lines₂
    readMethod? nose (methodPath nose module₁ scope₁.testClass scope₁.method) =
        some (module₁, scope₁.testClass, scope₁.method) ∧
      readClass? nose (classPath nose module₁ scope₁.testClass) =
        some (module₁, scope₁.testClass) ∧
      (methodPath nose module₁ scope₁.testClass scope₁.method =
          methodPath nose module₂ scope₂.testClass scope₂.method ↔
        module₁ = module₂ ∧ scope₁.testClass = scope₂.testClass ∧
          scope₁.method = scope₂.method) ∧
      (classPath nose module₁ scope₁.testClass = classPath nose module₂ scope₂.testClass ↔
        module₁ = module₂ ∧ scope₁.testClass = scope₂.testClass) := by
  intro scope₁ scope₂
  obtain ⟨hmethod₁, hclass₁⟩ := allWord_ofLines lines₁
  obtain ⟨hmethod₂, hclass₂⟩ := allWord_ofLines lines₂
  have hread₁ := readMethod?_methodPath hclass₁ hmethod₁ nose module₁
  have hread₁' := readClass?_classPath hclass₁ nose module₁
  refine ⟨hread₁, hread₁', ⟨fun hpath => ?_, ?_⟩, ⟨fun hpath => ?_, ?_⟩⟩
  · have hsame := Option.some.inj <| hread₁.symm.trans
      ((congrArg (readMethod? nose) hpath).trans
        (readMethod?_methodPath hclass₂ hmethod₂ nose module₂))
    simpa only [Prod.mk.injEq] using hsame
  · rintro ⟨rfl, hclass, hmethod⟩
    rw [hclass, hmethod]
  · have hsame := Option.some.inj <| hread₁'.symm.trans
      ((congrArg (readClass? nose) hpath).trans (readClass?_classPath hclass₂ nose module₂))
    simpa only [Prod.mk.injEq] using hsame
  · rintro ⟨rfl, hclass⟩
    rw [hclass]

end TestCursor
