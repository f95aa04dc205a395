import Mathlib.Data.List.Nodup
import Mathlib.Tactic.SplitIfs
import TestCursor.Json.Printer
import TestCursor.Proofs.JsonReading

/-!
# Printed JSON is read back

The reader gives back every value that was printed, strings of any characters included. Numbers
are left out: this library prints none.

1. What is printed for a text is a string of the grammar (`spellsString_quoted`).
2. What is printed for a value spells it (`spells_printAt`), by induction on the value.
3. So a printed value is read back (`parse?_print`), and a record of printed members has their
   values (`record?_ofMembers`).
-/

namespace TestCursor

namespace Json

/-! ## Strings -/

theorem isHexDigit_lowerHexDigit {value : Nat} (h : value < 16) :
    IsHexDigit (lowerHexDigit value) value := by
  left
  revert value
  decide

theorem spellsCode_escapeChar (c : Char) : SpellsCode (escapeChar c) c.toNat := by
  unfold escapeChar
  split_ifs with h1 h2 h3 h4 h5 h6 h7 h8
  · subst h1; exact .short (by decide)
  · subst h2; exact .short (by decide)
  · subst h3; exact .short (by decide)
  · subst h4; exact .short (by decide)
  · subst h5; exact .short (by decide)
  · subst h6; exact .short (by decide)
  · subst h7; exact .short (by decide)
  · have hzero : IsHexDigit '0' 0 := .inl rfl
    have hcode : 4096 * 0 + 256 * 0 + 16 * (c.toNat / 16) + c.toNat % 16 = c.toNat := by omega
    have hspelled := SpellsCode.fourDigits hzero hzero
      (isHexDigit_lowerHexDigit (by omega : c.toNat / 16 < 16))
      (isHexDigit_lowerHexDigit (by omega : c.toNat % 16 < 16))
    rwa [hcode] at hspelled
  · exact .plain h1 h2 (by omega)

theorem spellsCodes_escaped (text : List Char) :
    SpellsCodes (text.flatMap escapeChar) (text.map Char.toNat) := by
  induction text with
  | nil => exact .nil
  | cons c text ih => exact .cons (spellsCode_escapeChar c) ih

theorem standFor_map_toNat (text : List Char) : StandFor (text.map Char.toNat) text := by
  induction text with
  | nil => exact .nil
  | cons c text ih => exact .single c ih

theorem spellsString_quoted (text : String) : SpellsString (quoted text) (some text) := by
  have hspelled := SpellsString.text (spellsCodes_escaped text.toList)
    (standFor_map_toNat text.toList)
  rwa [String.ofList_toList] at hspelled

/-! ## Values -/

theorem areBlanks_newLine (level : Nat) : AreBlanks (newLine level) := by
  intro c hc
  rcases List.mem_cons.mp hc with rfl | hc
  · decide
  · rw [List.eq_of_mem_replicate hc]
    decide

theorem areBlanks_nil : AreBlanks [] := by decide

theorem areBlanks_space : AreBlanks [' '] := by decide

mutual

/-- A value without numbers, in which every string and every key has a text. -/
def IsPlain : Json → Prop
  | .null | .bool _ => True
  | .number _ => False
  | .string text => text.isSome
  | .array elements => ArePlain elements
  | .object members => ArePlainMembers members

/-- Elements that are plain. -/
def ArePlain : List Json → Prop
  | [] => True
  | element :: rest => IsPlain element ∧ ArePlain rest

/-- Members that are plain. -/
def ArePlainMembers : List (Option String × Json) → Prop
  | [] => True
  | (key, value) :: rest => key.isSome ∧ IsPlain value ∧ ArePlainMembers rest

end

mutual

theorem spells_printAt (level : Nat) : ∀ value, IsPlain value → Spells (printAt level value) value
  | .null, _ => .null
  | .bool true, _ => .isTrue
  | .bool false, _ => .isFalse
  | .number _, h => h.elim
  | .string none, h => absurd h (by simp [IsPlain])
  | .string (some text), _ => .string (spellsString_quoted text)
  | .array [], _ => .emptyArray areBlanks_nil
  | .array (first :: elements), h => by
    have helements := spells_printElements (level + 1) (spells_printAt (level + 1) first h.1)
      (areBlanks_newLine level) elements h.2
    have htext : printAt level (.array (first :: elements)) =
        '[' :: ((newLine (level + 1) ++ (printAt (level + 1) first ++
          (printElements (level + 1) elements ++ newLine level))) ++ [']']) := by
      simp only [printAt, List.cons_append, List.append_assoc]
    rw [htext]
    exact .array helements
  | .object [], _ => .emptyObject areBlanks_nil
  | .object ((none, value) :: members), h => absurd h.1 (by simp)
  | .object ((some key, value) :: members), h => by
    have hmembers := spells_printMembers (level + 1) key (spells_printAt (level + 1) value h.2.1)
      (areBlanks_newLine level) members h.2.2
    have htext : printAt level (.object ((some key, value) :: members)) =
        '{' :: ((newLine (level + 1) ++ (quoted key ++ (':' :: ' ' :: (printAt (level + 1) value ++
          (printMembers (level + 1) members ++ newLine level))))) ++ ['}']) := by
      simp only [printAt, Option.getD_some, List.cons_append, List.append_assoc,
        List.nil_append]
    rw [htext]
    exact .object hmembers

/-- What is printed for the elements behind a first one goes on the elements. The blanks at the
end belong to the last of them. -/
theorem spells_printElements (level : Nat) {text closing : List Char} {value : Json}
    (hvalue : Spells text value) (hclosing : AreBlanks closing) :
    ∀ elements, ArePlain elements →
      SpellsElements (newLine level ++ (text ++ (printElements level elements ++ closing)))
        (value :: elements)
  | [], _ => .last (.mk (areBlanks_newLine level) hvalue hclosing)
  | element :: elements, h => by
    have hothers := spells_printElements level (spells_printAt level element h.1) hclosing
      elements h.2
    have htext : newLine level ++ (text ++ (printElements level (element :: elements) ++ closing)) =
        (newLine level ++ (text ++ [])) ++ ',' :: (newLine level ++ (printAt level element ++
          (printElements level elements ++ closing))) := by
      simp only [printElements, List.cons_append, List.append_assoc, List.append_nil]
    rw [htext]
    exact .more (.mk (areBlanks_newLine level) hvalue areBlanks_nil) hothers

theorem spells_printMembers (level : Nat) (key : String) {text closing : List Char} {value : Json}
    (hvalue : Spells text value) (hclosing : AreBlanks closing) :
    ∀ members, ArePlainMembers members →
      SpellsMembers (newLine level ++ (quoted key ++ (':' :: ' ' :: (text ++
        (printMembers level members ++ closing))))) ((some key, value) :: members)
  | [], _ => .last (.mk (areBlanks_newLine level) (spellsString_quoted key) areBlanks_nil
      (.mk areBlanks_space hvalue hclosing))
  | (none, _) :: _, h => absurd h.1 (by simp)
  | (some next, other) :: members, h => by
    have hothers := spells_printMembers level next (spells_printAt level other h.2.1) hclosing
      members h.2.2
    have htext : newLine level ++ (quoted key ++ (':' :: ' ' :: (text ++
          (printMembers level ((some next, other) :: members) ++ closing)))) =
        (newLine level ++ (quoted key ++ ([] ++ ':' :: ([' '] ++ (text ++ []))))) ++
          ',' :: (newLine level ++ (quoted next ++ (':' :: ' ' :: (printAt level other ++
            (printMembers level members ++ closing))))) := by
      simp only [printMembers, Option.getD_some, List.cons_append, List.append_assoc,
        List.nil_append, List.append_nil]
    rw [htext]
    exact .more (.mk (areBlanks_newLine level) (spellsString_quoted key) areBlanks_nil
      (.mk areBlanks_space hvalue areBlanks_nil)) hothers

end

theorem spellsText_print {value : Json} (h : IsPlain value) :
    SpellsText value.print.toList value := by
  have htext : value.print.toList = [] ++ (printAt 0 value ++ []) := by simp [print]
  rw [htext]
  exact .mk areBlanks_nil (spells_printAt 0 value h) areBlanks_nil

theorem parse?_print {value : Json} (h : IsPlain value) : parse? value.print = some value :=
  parse?_of_spellsText (spellsText_print h)

/-! ## Records -/

section Records

variable {name : String} {value : Json} {members : List (Option String × Json)}

theorem mem_of_member? (h : member? name members = some value) : (some name, value) ∈ members := by
  induction members with
  | nil => cases h
  | cons member members ih =>
    obtain ⟨key, first⟩ := member
    rw [member?] at h
    split_ifs at h with hkey
    · obtain rfl := Option.some.inj h
      rw [hkey]
      exact List.mem_cons_self
    · exact List.mem_cons_of_mem _ (ih h)

theorem member?_of_mem (honce : keyCount name members ≤ 1) (h : (some name, value) ∈ members) :
    member? name members = some value := by
  induction members with
  | nil => exact absurd h List.not_mem_nil
  | cons member members ih =>
    obtain ⟨key, first⟩ := member
    rw [member?]
    rw [keyCount, List.countP_cons] at honce
    rcases List.mem_cons.mp h with heq | hothers
    · obtain ⟨rfl, rfl⟩ := Prod.mk.inj heq
      exact if_pos rfl
    · have hothersCount : 0 < members.countP fun member => member.1 = some name :=
        List.countP_pos_iff.mpr ⟨_, hothers, by simp⟩
      have hkey : ¬key = some name := by
        intro hkey
        simp only [hkey, decide_true, if_true] at honce
        omega
      rw [if_neg hkey]
      exact ih (by rw [keyCount]; omega) hothers

/-- An object is a record when all its keys have texts and no field occurs twice. -/
theorem record?_object {names : List String} (htexts : ∀ member ∈ members, member.1.isSome = true)
    (honce : ∀ name ∈ names, keyCount name members ≤ 1) :
    (Json.object members).record? names = some (names.map fun name => member? name members) := by
  rw [record?, if_neg, if_neg]
  · simpa using honce
  · simp only [List.any_eq_true, not_exists, not_and]
    intro member hmember hnone
    rw [Option.isNone_iff_eq_none] at hnone
    exact absurd (htexts member hmember) (by simp [hnone])

end Records

section OfMembers

variable {α : Type} {name : α → String} {value : α → Json}

theorem keyCount_members_le (fields : List α) (h : (fields.map name).Nodup) (key : String) :
    keyCount key (fields.map fun field => (some (name field), value field)) ≤ 1 := by
  have hcount : keyCount key (fields.map fun field => (some (name field), value field)) =
      (fields.map name).count key := by
    rw [keyCount, List.count, List.countP_map, List.countP_map]
    congr 1
    funext field
    simp only [Function.comp_apply, Option.some.injEq]
    exact (beq_eq_decide _ _).symm
  rw [hcount]
  exact List.nodup_iff_count_le_one.mp h key

variable (name value) in
theorem record?_ofMembers (fields : List α) (h : (fields.map name).Nodup) :
    (ofMembers (fields.map fun field => (name field, value field))).record? (fields.map name) =
      some (fields.map fun field => some (value field)) := by
  have hmembers : ofMembers (fields.map fun field => (name field, value field)) =
      .object (fields.map fun field => (some (name field), value field)) := by
    rw [ofMembers, List.map_map]
    rfl
  have honce (key : String) := @keyCount_members_le _ name value fields h key
  rw [hmembers, record?_object (by simp) fun key _ => honce key, List.map_map]
  congr 1
  exact List.map_congr_left fun field hfield =>
    member?_of_mem (honce _) (List.mem_map_of_mem hfield)

end OfMembers

end Json

end TestCursor
