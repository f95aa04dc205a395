import Mathlib.Data.List.TakeWhile
import TestCursor.Json.Reader

/-!
# Texts that spell JSON values

The grammar of JSON, rule by rule: which text spells which value. Its numbers and strings are read
as one token each.

1. A number is read up to a character that cannot go on it (`number?_append`), and so is one token
   in front of such a character (`token?_number`).
2. The characters and escapes of a string stand for codes (`stringCodes_append`), and the codes
   for characters, two halves of a pair for one (`charsOfCodes?_of_standFor`). So a string is one
   token, whatever follows (`token?_string`).
-/

namespace TestCursor

/-! ## Runs of characters -/

section Runs

variable {p : Char → Bool} {run rest : List Char}

/-- A run of characters is taken up to the first that does not belong to it. -/
theorem takeWhile_run (hrun : ∀ c ∈ run, p c = true)
    (hrest : ∀ c, rest.head? = some c → p c = false) : (run ++ rest).takeWhile p = run := by
  rw [List.takeWhile_append_of_pos hrun]
  cases rest with
  | nil => exact List.append_nil run
  | cons c rest => rw [List.takeWhile_cons_of_neg (by simp [hrest c rfl]), List.append_nil]

theorem dropWhile_run (hrun : ∀ c ∈ run, p c = true)
    (hrest : ∀ c, rest.head? = some c → p c = false) : (run ++ rest).dropWhile p = rest := by
  rw [List.dropWhile_append_of_pos hrun]
  cases rest with
  | nil => rfl
  | cons c rest => exact List.dropWhile_cons_of_neg (by simp [hrest c rfl])

end Runs

namespace Json

/-! ## The grammar -/

/-- Blanks between tokens: spaces, tabs, line feeds and carriage returns. -/
def AreBlanks (text : List Char) : Prop := ∀ c ∈ text, c ∈ [' ', '\t', '\n', '\r']

/-- Decimal digits, at least one. -/
def AreDigits (text : List Char) : Prop := text ≠ [] ∧ ∀ c ∈ text, c.isDigit = true

instance (text : List Char) : Decidable (AreBlanks text) :=
  List.decidableBAll (fun c => c ∈ [' ', '\t', '\n', '\r']) text

instance (text : List Char) : Decidable (AreDigits text) :=
  @instDecidableAnd _ _ inferInstance (List.decidableBAll (fun c => c.isDigit = true) text)

/-- The whole part of a number: `0`, or digits of which the first is not `0`. -/
inductive IsWhole : List Char → Prop
  | zero : IsWhole ['0']
  | digits {first : Char} {others : List Char} (hfirst : first ≠ '0')
      (h : AreDigits (first :: others)) : IsWhole (first :: others)

/-- The fraction of a number, which can be missing. -/
inductive IsFraction : List Char → Prop
  | missing : IsFraction []
  | digits {text : List Char} (h : AreDigits text) : IsFraction ('.' :: text)

/-- The exponent of a number, which can be missing. -/
inductive IsExponent : List Char → Prop
  | missing : IsExponent []
  | digits {mark : Char} {sign text : List Char} (hmark : mark ∈ ['e', 'E'])
      (hsign : sign ∈ [[], ['+'], ['-']]) (h : AreDigits text) :
      IsExponent (mark :: (sign ++ text))

/-- A number, as it is spelled. -/
inductive IsNumber : List Char → Prop
  | mk {sign whole fraction exponent : List Char} (hsign : sign ∈ [[], ['-']])
      (hwhole : IsWhole whole) (hfraction : IsFraction fraction)
      (hexponent : IsExponent exponent) : IsNumber (sign ++ (whole ++ fraction ++ exponent))

/-- A hexadecimal digit, in either case, and its value. -/
def IsHexDigit (c : Char) (value : Nat) : Prop :=
  "0123456789abcdef".toList[value]? = some c ∨ "0123456789ABCDEF".toList[value]? = some c

/-- The escapes of one character, with the characters they stand for. -/
def shortEscapes : List (Char × Char) :=
  [('"', '"'), ('\\', '\\'), ('/', '/'), ('b', '\x08'), ('f', '\x0c'), ('n', '\n'), ('r', '\r'),
   ('t', '\t')]

/-- A character or an escape of a string, and the code it stands for. -/
inductive SpellsCode : List Char → Nat → Prop
  | plain {c : Char} (hquote : c ≠ '"') (hslash : c ≠ '\\') (hwide : 32 ≤ c.toNat) :
      SpellsCode [c] c.toNat
  | short {e c : Char} (h : (e, c) ∈ shortEscapes) : SpellsCode ['\\', e] c.toNat
  | fourDigits {a b c d : Char} {i j k l : Nat} (ha : IsHexDigit a i) (hb : IsHexDigit b j)
      (hc : IsHexDigit c k) (hd : IsHexDigit d l) :
      SpellsCode ['\\', 'u', a, b, c, d] (4096 * i + 256 * j + 16 * k + l)

/-- What stands between the quotes of a string, and its codes. -/
inductive SpellsCodes : List Char → List Nat → Prop
  | nil : SpellsCodes [] []
  | cons {front rest : List Char} {code : Nat} {codes : List Nat} (first : SpellsCode front code)
      (others : SpellsCodes rest codes) : SpellsCodes (front ++ rest) (code :: codes)

/-- The characters that codes stand for. A character has its own code, or two: the first and the
second half of a surrogate pair. A half alone stands for nothing. -/
inductive StandFor : List Nat → List Char → Prop
  | nil : StandFor [] []
  | single (c : Char) {codes : List Nat} {text : List Char} (others : StandFor codes text) :
      StandFor (c.toNat :: codes) (c :: text)
  | pair {high low : Nat} {c : Char} {codes : List Nat} {text : List Char}
      (hhigh : 0xD800 ≤ high ∧ high ≤ 0xDBFF) (hlow : 0xDC00 ≤ low ∧ low ≤ 0xDFFF)
      (hc : c.toNat = 0x10000 + (high - 0xD800) * 0x400 + (low - 0xDC00))
      (others : StandFor codes text) : StandFor (high :: low :: codes) (c :: text)

/-- A string in its quotes, and its text. There is none when it holds half of a pair alone. -/
inductive SpellsString : List Char → Option String → Prop
  | text {body text : List Char} {codes : List Nat} (hbody : SpellsCodes body codes)
      (htext : StandFor codes text) :
      SpellsString ('"' :: (body ++ ['"'])) (some (String.ofList text))
  | half {body : List Char} {codes : List Nat} (hbody : SpellsCodes body codes)
      (hnone : ∀ text, ¬StandFor codes text) : SpellsString ('"' :: (body ++ ['"'])) none

mutual

/-- A text that spells a value. -/
inductive Spells : List Char → Json → Prop
  | null : Spells ['n', 'u', 'l', 'l'] .null
  | isTrue : Spells ['t', 'r', 'u', 'e'] (.bool true)
  | isFalse : Spells ['f', 'a', 'l', 's', 'e'] (.bool false)
  | number {text : List Char} (h : IsNumber text) : Spells text (.number (String.ofList text))
  | string {text : List Char} {content : Option String} (h : SpellsString text content) :
      Spells text (.string content)
  | emptyArray {blanks : List Char} (hblanks : AreBlanks blanks) :
      Spells ('[' :: (blanks ++ [']'])) (.array [])
  | array {text : List Char} {elements : List Json} (h : SpellsElements text elements) :
      Spells ('[' :: (text ++ [']'])) (.array elements)
  | emptyObject {blanks : List Char} (hblanks : AreBlanks blanks) :
      Spells ('{' :: (blanks ++ ['}'])) (.object [])
  | object {text : List Char} {members : List (Option String × Json)}
      (h : SpellsMembers text members) : Spells ('{' :: (text ++ ['}'])) (.object members)

/-- A value with blanks around it. -/
inductive SpellsText : List Char → Json → Prop
  | mk {before text behind : List Char} {value : Json} (hbefore : AreBlanks before)
      (h : Spells text value) (hbehind : AreBlanks behind) :
      SpellsText (before ++ (text ++ behind)) value

/-- Elements of an array, at least one, with commas between them. -/
inductive SpellsElements : List Char → List Json → Prop
  | last {text : List Char} {value : Json} (h : SpellsText text value) :
      SpellsElements text [value]
  | more {text rest : List Char} {value : Json} {values : List Json} (h : SpellsText text value)
      (others : SpellsElements rest values) :
      SpellsElements (text ++ ',' :: rest) (value :: values)

/-- A member of an object: a key, a colon, a value. -/
inductive SpellsMember : List Char → Option String × Json → Prop
  | mk {before key behind text : List Char} {name : Option String} {value : Json}
      (hbefore : AreBlanks before) (hkey : SpellsString key name) (hbehind : AreBlanks behind)
      (h : SpellsText text value) :
      SpellsMember (before ++ (key ++ (behind ++ ':' :: text))) (name, value)

/-- Members of an object, at least one, with commas between them. -/
inductive SpellsMembers : List Char → List (Option String × Json) → Prop
  | last {text : List Char} {member : Option String × Json} (h : SpellsMember text member) :
      SpellsMembers text [member]
  | more {text rest : List Char} {member : Option String × Json}
      {members : List (Option String × Json)} (h : SpellsMember text member)
      (others : SpellsMembers rest members) :
      SpellsMembers (text ++ ',' :: rest) (member :: members)

end

/-! ## Numbers -/

section Numbers

variable {rest : List Char}

/-- No digit follows. -/
def NoDigit (rest : List Char) : Prop := ∀ c, rest.head? = some c → c.isDigit = false

/-- What follows cannot go on a number. -/
def NoNumber (rest : List Char) : Prop :=
  ∀ c, rest.head? = some c → c.isDigit = false ∧ c ∉ ['.', 'e', 'E']

theorem digits?_append {digits : List Char} (h : AreDigits digits) (hrest : NoDigit rest) :
    digits? (digits ++ rest) = some (digits, rest) := by
  rw [digits?, takeWhile_run h.2 hrest, dropWhile_run h.2 hrest]
  exact if_neg (by simpa using h.1)

theorem wholePart?_append {whole : List Char} (h : IsWhole whole) (hrest : NoDigit rest) :
    wholePart? (whole ++ rest) = some (whole, rest) := by
  cases h with
  | zero => rfl
  | @digits first others hfirst h =>
    rw [wholePart?.eq_def]
    split
    · next hzero => exact absurd (List.cons.inj hzero).1 hfirst
    · exact digits?_append h hrest

theorem fraction?_append {fraction : List Char} (h : IsFraction fraction)
    (hrest : NoDigit rest) (hdot : rest.head? ≠ some '.') :
    fraction? (fraction ++ rest) = some (fraction, rest) := by
  cases h with
  | missing =>
    rw [List.nil_append, fraction?.eq_def]
    split
    · exact absurd rfl hdot
    · rfl
  | digits h =>
    rw [List.cons_append, fraction?, digits?_append h hrest]
    rfl

theorem exponentSign_append {sign digits : List Char} (hsign : sign ∈ [[], ['+'], ['-']])
    (h : AreDigits digits) (rest : List Char) :
    exponentSign (sign ++ (digits ++ rest)) = (sign, digits ++ rest) := by
  obtain ⟨first, others, rfl⟩ := List.exists_cons_of_ne_nil h.1
  have hfirst : first.isDigit = true := h.2 first List.mem_cons_self
  simp only [List.mem_cons, List.not_mem_nil, or_false] at hsign
  rcases hsign with rfl | rfl | rfl
  · rw [List.nil_append, exponentSign.eq_def]
    split
    · next hplus => exact absurd ((List.cons.inj hplus).1 ▸ hfirst) (by decide)
    · next hminus => exact absurd ((List.cons.inj hminus).1 ▸ hfirst) (by decide)
    · rfl
  · rfl
  · rfl

theorem exponent?_append {exponent : List Char} (h : IsExponent exponent)
    (hrest : NoNumber rest) : exponent? (exponent ++ rest) = some (exponent, rest) := by
  cases h with
  | missing =>
    cases rest with
    | nil => rfl
    | cons c rest =>
      have hc := (hrest c rfl).2
      simp only [List.mem_cons, List.not_mem_nil, or_false, not_or] at hc
      rw [List.nil_append, exponent?, if_neg (by simp [hc])]
  | @digits mark sign text hmark hsign h =>
    have hmark : (mark == 'e' || mark == 'E') = true := by simpa using hmark
    rw [List.cons_append, List.append_assoc, exponent?, if_pos hmark]
    simp only [exponentSign_append hsign h, digits?_append h fun c hc => (hrest c hc).1]
    rfl

theorem head_exponent {exponent : List Char} (h : IsExponent exponent) (hrest : NoNumber rest)
    {c : Char} (hc : (exponent ++ rest).head? = some c) : c.isDigit = false ∧ c ≠ '.' := by
  cases h with
  | missing =>
    obtain ⟨hdigit, hmark⟩ := hrest c hc
    exact ⟨hdigit, fun hdot => hmark (by simp [hdot])⟩
  | digits hmark =>
    obtain rfl := Option.some.inj hc
    simp only [List.mem_cons, List.not_mem_nil, or_false] at hmark
    rcases hmark with rfl | rfl <;> decide

/-- A number is read up to a character that cannot go on it. -/
theorem number?_append {text : List Char} (h : IsNumber text) (hrest : NoNumber rest) :
    number? (text ++ rest) = some (text, rest) := by
  obtain ⟨hsign, hwhole, hfraction, hexponent⟩ := h
  next sign whole fraction exponent =>
  have hhead {c : Char} : (exponent ++ rest).head? = some c → c.isDigit = false ∧ c ≠ '.' :=
    head_exponent hexponent hrest
  have hnoDigit : NoDigit (fraction ++ (exponent ++ rest)) := by
    intro c hc
    cases hfraction with
    | missing => exact (hhead hc).1
    | digits h =>
      obtain rfl := Option.some.inj hc
      rfl
  have hunsigned : unsigned? (whole ++ (fraction ++ (exponent ++ rest))) =
      some (whole ++ fraction ++ exponent, rest) := by
    rw [unsigned?, wholePart?_append hwhole hnoDigit]
    simp only [fraction?_append hfraction (fun c hc => (hhead hc).1)
      (fun hdot => (hhead hdot).2 rfl), exponent?_append hexponent hrest, Option.map_some]
  have htext : whole ++ fraction ++ exponent ++ rest =
      whole ++ (fraction ++ (exponent ++ rest)) := by
    simp only [List.append_assoc]
  simp only [List.mem_cons, List.not_mem_nil, or_false] at hsign
  rcases hsign with rfl | rfl
  · rw [List.nil_append, htext, number?.eq_def]
    split
    · next hminus =>
      cases hwhole with
      | zero => exact absurd (List.cons.inj hminus).1 (by decide)
      | digits _ h =>
        have hfirst := h.2 _ List.mem_cons_self
        rw [(List.cons.inj hminus).1] at hfirst
        exact absurd hfirst (by decide)
    · exact hunsigned
  · rw [List.append_assoc, htext, List.singleton_append, number?, hunsigned]
    rfl

theorem exists_head_of_isNumber {text : List Char} (h : IsNumber text) :
    ∃ c others, text = c :: others ∧ (c = '-' ∨ c.isDigit = true) := by
  obtain ⟨hsign, hwhole, -, -⟩ := h
  simp only [List.mem_cons, List.not_mem_nil, or_false] at hsign
  rcases hsign with rfl | rfl
  · cases hwhole with
    | zero => exact ⟨_, _, rfl, .inr rfl⟩
    | digits _ h => exact ⟨_, _, rfl, .inr (h.2 _ List.mem_cons_self)⟩
  · exact ⟨_, _, rfl, .inl rfl⟩

theorem token?_number {text : List Char} (h : IsNumber text) (hrest : NoNumber rest) :
    token? (text ++ rest) = some (.number (String.ofList text), rest) := by
  have hnumber := number?_append h hrest
  obtain ⟨c, others, rfl, hc⟩ := exists_head_of_isNumber h
  rw [List.cons_append] at hnumber ⊢
  have hword : wordToken? (c :: (others ++ rest)) = none := by
    have hn : 'n' ≠ c := by rintro rfl; exact absurd hc (by decide)
    have ht : 't' ≠ c := by rintro rfl; exact absurd hc (by decide)
    have hf : 'f' ≠ c := by rintro rfl; exact absurd hc (by decide)
    simp [wordToken?, after?, hn, ht, hf]
  rw [token?.eq_def]
  split
  case h_8 =>
    rw [hword, hnumber]
    rfl
  all_goals
    next heq =>
      obtain ⟨rfl, -⟩ := List.cons.inj heq
      exact absurd hc (by decide)

end Numbers

/-! ## Strings -/

theorem hexDigit?_of_isHexDigit {c : Char} {value : Nat} (h : IsHexDigit c value) :
    hexDigit? c = some value ∧ value < 16 := by
  have hlower : ∀ value < 16, hexDigit? ("0123456789abcdef".toList.getD value ' ') =
      some value := by decide
  have hupper : ∀ value < 16, hexDigit? ("0123456789ABCDEF".toList.getD value ' ') =
      some value := by decide
  rcases h with h | h
  · have hvalue : value < 16 := (List.getElem?_eq_some_iff.mp h).1
    have hdigit := hlower value hvalue
    rw [List.getD_eq_getElem?_getD, h] at hdigit
    exact ⟨hdigit, hvalue⟩
  · have hvalue : value < 16 := (List.getElem?_eq_some_iff.mp h).1
    have hdigit := hupper value hvalue
    rw [List.getD_eq_getElem?_getD, h] at hdigit
    exact ⟨hdigit, hvalue⟩

theorem SpellsCode.lt {front : List Char} {code : Nat} (h : SpellsCode front code) :
    code < 0x110000 := by
  have hchar (c : Char) : c.toNat < 0x110000 := by
    have hvalid : c.toNat < 0xD800 ∨ 0xDFFF < c.toNat ∧ c.toNat < 0x110000 := c.valid
    omega
  cases h with
  | @plain c => exact hchar c
  | @short e c => exact hchar c
  | fourDigits ha hb hc hd =>
    have hi := (hexDigit?_of_isHexDigit ha).2
    have hj := (hexDigit?_of_isHexDigit hb).2
    have hk := (hexDigit?_of_isHexDigit hc).2
    have hl := (hexDigit?_of_isHexDigit hd).2
    omega

theorem SpellsCodes.lt {body : List Char} {codes : List Nat} (h : SpellsCodes body codes) :
    ∀ code ∈ codes, code < 0x110000 := by
  induction h with
  | nil => exact List.forall_mem_nil _
  | cons first _ ih => exact List.forall_mem_cons.mpr ⟨first.lt, ih⟩

theorem shortEscape?_of_mem {e c : Char} (h : (e, c) ∈ shortEscapes) :
    shortEscape? e = some c ∧ e ≠ 'u' := by
  revert h
  simp only [shortEscapes, List.mem_cons, Prod.mk.injEq, List.not_mem_nil, or_false]
  rintro (⟨rfl, rfl⟩ | ⟨rfl, rfl⟩ | ⟨rfl, rfl⟩ | ⟨rfl, rfl⟩ | ⟨rfl, rfl⟩ | ⟨rfl, rfl⟩ |
    ⟨rfl, rfl⟩ | ⟨rfl, rfl⟩) <;> decide

/-- The reader takes a character or an escape as the code it stands for. -/
theorem stringCodes_append {front : List Char} {code : Nat} (h : SpellsCode front code)
    (rest : List Char) :
    stringCodes (front ++ rest) =
      (stringCodes rest).map fun (codes, after) => (code :: codes, after) := by
  cases h with
  | @plain c hquote hslash hwide =>
    rw [List.singleton_append, stringCodes.eq_def]
    split
    · next h => exact absurd h (by simp)
    · next h => exact absurd (List.cons.inj h).1 hquote
    · next h => exact absurd (List.cons.inj h).1 hslash
    · next h => exact absurd (List.cons.inj h).1 hslash
    · next h =>
      obtain ⟨rfl, rfl⟩ := List.cons.inj h
      rw [if_neg (by simp [hwide, hslash])]
      cases stringCodes rest <;> rfl
  | @short e c h =>
    obtain ⟨hescape, hu⟩ := shortEscape?_of_mem h
    rw [List.cons_append, List.singleton_append, stringCodes.eq_def]
    split
    · next h => exact absurd h (by simp)
    · next h => exact absurd (List.cons.inj h).1 (by decide)
    · next h => exact absurd (List.cons.inj (List.cons.inj h).2).1 hu
    · next h =>
      obtain ⟨rfl, rfl⟩ := List.cons.inj (List.cons.inj h).2
      rw [hescape]
      cases stringCodes rest <;> rfl
    · next hnone h =>
      obtain ⟨hslash, htail⟩ := List.cons.inj h
      exact (hnone e rest hslash.symm htail.symm).elim
  | @fourDigits a b c d i j k l ha hb hc hd =>
    have hnumber : hexNumber? [a, b, c, d] = some (4096 * i + 256 * j + 16 * k + l) := by
      simp only [hexNumber?, List.foldlM_cons, List.foldlM_nil, (hexDigit?_of_isHexDigit ha).1,
        (hexDigit?_of_isHexDigit hb).1, (hexDigit?_of_isHexDigit hc).1,
        (hexDigit?_of_isHexDigit hd).1, Option.map_some, Option.bind_eq_bind, Option.bind_some,
        Option.pure_def, Option.some.injEq]
      omega
    have htext : ['\\', 'u', a, b, c, d] ++ rest = '\\' :: 'u' :: a :: b :: c :: d :: rest := rfl
    rw [htext, stringCodes, hnumber]
    cases stringCodes rest <;> rfl

theorem stringCodes_body {body : List Char} {codes : List Nat} (h : SpellsCodes body codes)
    (rest : List Char) : stringCodes (body ++ '"' :: rest) = some (codes, rest) := by
  induction h with
  | nil => rfl
  | cons first _ ih =>
    rw [List.append_assoc, stringCodes_append first, ih]
    rfl

theorem isHalf_toNat (c : Char) : (isHighHalf c.toNat || isLowHalf c.toNat) = false := by
  have hvalid : c.toNat < 0xD800 ∨ 0xDFFF < c.toNat ∧ c.toNat < 0x110000 := c.valid
  simp only [isHighHalf, isLowHalf, Bool.or_eq_false_iff, Bool.and_eq_false_iff,
    decide_eq_false_iff_not]
  omega

theorem charsOfCodes?_cons_toNat (c : Char) (codes : List Nat) :
    charsOfCodes? (c.toNat :: codes) = (charsOfCodes? codes).map (c :: ·) := by
  cases codes with
  | nil => simp [charsOfCodes?, isHalf_toNat]
  | cons next codes =>
    have hhigh : isHighHalf c.toNat = false := (Bool.or_eq_false_iff.mp (isHalf_toNat c)).1
    rw [charsOfCodes?, if_neg (by simp [hhigh]), isHalf_toNat, if_neg Bool.false_ne_true,
      Char.ofNat_toNat]

theorem charsOfCodes?_of_standFor {codes : List Nat} {text : List Char}
    (h : StandFor codes text) : charsOfCodes? codes = some text := by
  induction h with
  | nil => rfl
  | single c _ ih => rw [charsOfCodes?_cons_toNat, ih, Option.map_some]
  | @pair high low c codes text hhigh hlow hc _ ih =>
    have hhalves : (isHighHalf high && isLowHalf low) = true := by
      simp [isHighHalf, isLowHalf, hhigh, hlow]
    rw [charsOfCodes?, if_pos hhalves, ih, Option.map_some, ← hc, Char.ofNat_toNat]

theorem exists_toNat_eq {code : Nat} (hsmall : code < 0x110000)
    (hhalf : (isHighHalf code || isLowHalf code) = false) : ∃ c : Char, c.toNat = code := by
  have hvalid : Nat.isValidChar code := by
    simp only [isHighHalf, isLowHalf, Bool.or_eq_false_iff, Bool.and_eq_false_iff,
      decide_eq_false_iff_not] at hhalf
    rw [Nat.isValidChar]
    omega
  exact ⟨Char.ofNatAux code hvalid, rfl⟩

theorem standFor_of_charsOfCodes? {codes : List Nat} (hsmall : ∀ code ∈ codes, code < 0x110000)
    {text : List Char} (h : charsOfCodes? codes = some text) : StandFor codes text := by
  fun_induction charsOfCodes? codes generalizing text with
  | case1 =>
    obtain rfl := Option.some.inj h
    exact .nil
  | case2 code hhalf => cases h
  | case3 code hhalf =>
    obtain ⟨c, rfl⟩ := exists_toNat_eq (hsmall code List.mem_cons_self) (by simpa using hhalf)
    obtain rfl := Option.some.inj h
    rw [Char.ofNat_toNat]
    exact .single c .nil
  | case4 high low rest hhalves ih =>
    obtain ⟨chars, hchars, rfl⟩ := Option.map_eq_some_iff.mp h
    simp only [isHighHalf, isLowHalf, Bool.and_eq_true, decide_eq_true_eq] at hhalves
    have hnoHalf : (isHighHalf (0x10000 + (high - 0xD800) * 0x400 + (low - 0xDC00)) ||
        isLowHalf (0x10000 + (high - 0xD800) * 0x400 + (low - 0xDC00))) = false := by
      simp only [isHighHalf, isLowHalf, Bool.or_eq_false_iff, Bool.and_eq_false_iff,
        decide_eq_false_iff_not]
      omega
    obtain ⟨c, hc⟩ := exists_toNat_eq (by omega) hnoHalf
    rw [← hc, Char.ofNat_toNat]
    exact .pair hhalves.1 hhalves.2 hc (ih (fun code hcode => hsmall code (by simp [hcode])) hchars)
  | case5 code next rest _ hhalf => cases h
  | case6 code next rest _ hhalf ih =>
    obtain ⟨chars, hchars, rfl⟩ := Option.map_eq_some_iff.mp h
    obtain ⟨c, rfl⟩ := exists_toNat_eq (hsmall code List.mem_cons_self) (by simpa using hhalf)
    rw [Char.ofNat_toNat]
    exact .single c (ih (fun code hcode => hsmall code (List.mem_cons_of_mem _ hcode)) hchars)

theorem token?_string {text : List Char} {content : Option String}
    (h : SpellsString text content) (rest : List Char) :
    token? (text ++ rest) = some (.string content, rest) := by
  cases h with
  | text hbody htext =>
    rw [List.cons_append, List.append_assoc, List.singleton_append, token?,
      stringCodes_body hbody, Option.map_some]
    simp only [charsOfCodes?_of_standFor htext, Option.map_some]
  | @half body codes hbody hnone =>
    have hchars : charsOfCodes? codes = none := by
      cases hchars : charsOfCodes? codes with
      | none => rfl
      | some text => exact absurd (standFor_of_charsOfCodes? hbody.lt hchars) (hnone text)
    rw [List.cons_append, List.append_assoc, List.singleton_append, token?,
      stringCodes_body hbody, Option.map_some]
    simp only [hchars, Option.map_none]

end Json

end TestCursor
