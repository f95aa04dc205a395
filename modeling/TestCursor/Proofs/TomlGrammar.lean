import Mathlib.Data.List.Induction
import TestCursor.Config.Toml
import TestCursor.Proofs.JsonText

/-!
# Texts that spell TOML tables

The grammar of project files that hold nothing but tables of texts and switches: headers of one
bare key, alone or below `tool`, and lines that give one bare key a value. Blank lines, comments
and blanks can stand wherever TOML has them.

1. The characters and escapes of a basic string stand for characters (`basicBody_append`), so the
   string in its quotes is read as the text it spells (`value?_append`).
2. A header and a line with a key are each read as one statement, up to the end of the line
   (`statement?_append`).
3. By induction on the lines a document is read as its statements (`statements?_of_spellsLines`).
-/

namespace TestCursor

def Setting.toToml : Setting → Toml
  | .text value => .string value
  | .switch value => .bool value

theorem Setting.ofToml?_toToml (setting : Setting) : ofToml? setting.toToml = some setting := by
  cases setting <;> rfl

namespace Toml

/-! ## The grammar -/

/-- Blanks within a line: spaces and tabs. -/
def AreBlanks (text : List Char) : Prop := ∀ c ∈ text, isBlank c = true

/-- A word that is a key without quotes. -/
def IsBare (word : List Char) : Prop := word ≠ [] ∧ ∀ c ∈ word, isBareKeyChar c = true

instance (text : List Char) : Decidable (AreBlanks text) :=
  List.decidableBAll (fun c => isBlank c = true) text

instance (word : List Char) : Decidable (IsBare word) :=
  @instDecidableAnd _ _ inferInstance (List.decidableBAll (fun c => isBareKeyChar c = true) word)

/-- Hexadecimal digits, in either case, and the number they spell. -/
inductive IsHex : List Char → Nat → Prop
  | nil : IsHex [] 0
  | snoc {digits : List Char} {c : Char} {number value : Nat} (others : IsHex digits number)
      (h : Json.IsHexDigit c value) : IsHex (digits ++ [c]) (16 * number + value)

/-- The escapes of one character, with the characters they stand for. -/
def shortEscapes : List (Char × Char) :=
  [('"', '"'), ('\\', '\\'), ('b', '\x08'), ('f', '\x0c'), ('n', '\n'), ('r', '\r'), ('t', '\t')]

/-- A character of a basic string as it is spelled: by itself unless it is a quote, a backslash or
a control character other than the tab, or by an escape. -/
inductive SpellsChar : List Char → Char → Prop
  | plain {c : Char} (hquote : c ≠ '"') (hslash : c ≠ '\\')
      (hcontrol : c = '\t' ∨ 32 ≤ c.toNat ∧ c.toNat ≠ 127) : SpellsChar [c] c
  | short {e c : Char} (h : (e, c) ∈ shortEscapes) : SpellsChar ['\\', e] c
  | fourDigits {digits : List Char} {c : Char} (hlength : digits.length = 4)
      (h : IsHex digits c.toNat) : SpellsChar ('\\' :: 'u' :: digits) c
  | eightDigits {digits : List Char} {c : Char} (hlength : digits.length = 8)
      (h : IsHex digits c.toNat) : SpellsChar ('\\' :: 'U' :: digits) c

/-- What stands between the quotes of a basic string, and its characters. -/
inductive SpellsChars : List Char → List Char → Prop
  | nil : SpellsChars [] []
  | cons {front rest : List Char} {c : Char} {chars : List Char} (first : SpellsChar front c)
      (others : SpellsChars rest chars) : SpellsChars (front ++ rest) (c :: chars)

/-- A value that is a basic string or a boolean, and the setting it gives. -/
inductive SpellsValue : List Char → Setting → Prop
  | text {body chars : List Char} (h : SpellsChars body chars) :
      SpellsValue ('"' :: (body ++ ['"'])) (.text (String.ofList chars))
  | isTrue : SpellsValue ['t', 'r', 'u', 'e'] (.switch true)
  | isFalse : SpellsValue ['f', 'a', 'l', 's', 'e'] (.switch false)

/-- The heading of a table: its name, alone or below the key of all tools. -/
structure Heading where
  isTool : Bool
  name : String
  deriving DecidableEq, Repr

namespace Heading

/-- The parts of the path before the name. -/
def parts (heading : Heading) : List String := if heading.isTool then [Config.toolsKey] else []

/-- The key between the brackets. -/
def key (heading : Heading) : List Char :=
  (if heading.isTool then Config.toolsKey.toList ++ ['.'] else []) ++ heading.name.toList

end Heading

/-- A line without what it ends in, and the statement that it spells. -/
inductive SpellsStatement : List Char → Statement → Prop
  | header {heading : Heading} (h : IsBare heading.name.toList) :
      SpellsStatement ('[' :: (heading.key ++ [']'])) (.header heading.parts heading.name)
  | assign {key : String} {before behind value : List Char} {setting : Setting}
      (hkey : IsBare key.toList) (hbefore : AreBlanks before) (hbehind : AreBlanks behind)
      (h : SpellsValue value setting) :
      SpellsStatement (key.toList ++ (before ++ '=' :: (behind ++ value)))
        (.assign [] key setting.toToml)

/-- A comment, which can be missing. -/
inductive IsComment : List Char → Prop
  | missing : IsComment []
  | text {body : List Char} (h : ∀ c ∈ body, isPrintable c = true) : IsComment ('#' :: body)

/-- The break behind a line and what follows it: a line feed, with a carriage return or without,
or nothing at the end of the text. -/
inductive IsBreak : List Char → List Char → Prop
  | lineFeed (rest : List Char) : IsBreak ('\n' :: rest) rest
  | both (rest : List Char) : IsBreak ('\r' :: '\n' :: rest) rest
  | missing : IsBreak [] []

/-- The end of a line, and what follows it. -/
inductive EndsLine : List Char → List Char → Prop
  | mk {blanks comment broken rest : List Char} (hblanks : AreBlanks blanks)
      (hcomment : IsComment comment) (hbreak : IsBreak broken rest) :
      EndsLine (blanks ++ (comment ++ broken)) rest

/-- Lines, and the statements that they spell. -/
inductive SpellsLines : List Char → List Statement → Prop
  | nil : SpellsLines [] []
  | blank {text rest : List Char} {statements : List Statement} (h : EndsLine text rest)
      (others : SpellsLines rest statements) : SpellsLines text statements
  | statement {before front text rest : List Char} {statement : Statement}
      {statements : List Statement} (hbefore : AreBlanks before)
      (h : SpellsStatement front statement) (hend : EndsLine text rest)
      (others : SpellsLines rest statements) :
      SpellsLines (before ++ (front ++ text)) (statement :: statements)

/-! ## Blanks -/

section Blanks

variable {blanks rest : List Char}

theorem skipBlanks_append (hblanks : AreBlanks blanks) (rest : List Char) :
    skipBlanks (blanks ++ rest) = skipBlanks rest :=
  List.dropWhile_append_of_pos hblanks

theorem skipBlanks_eq_self (hrest : ∀ c, rest.head? = some c → isBlank c = false) :
    skipBlanks rest = rest :=
  @dropWhile_run isBlank [] rest (List.forall_mem_nil _) hrest

theorem skipBlanks_cons {c : Char} (hc : isBlank c = false) (rest : List Char) :
    skipBlanks (c :: rest) = c :: rest :=
  skipBlanks_eq_self fun d hd => by rwa [← Option.some.inj hd]

end Blanks

/-! ## Strings -/

section Strings

variable {front body chars digits rest : List Char} {c e : Char} {number : Nat}

theorem shortEscape?_of_mem (h : (e, c) ∈ shortEscapes) :
    shortEscape? e = some c ∧ e ≠ 'u' ∧ e ≠ 'U' := by
  revert h
  simp only [shortEscapes, List.mem_cons, Prod.mk.injEq, List.not_mem_nil, or_false]
  rintro (⟨rfl, rfl⟩ | ⟨rfl, rfl⟩ | ⟨rfl, rfl⟩ | ⟨rfl, rfl⟩ | ⟨rfl, rfl⟩ | ⟨rfl, rfl⟩ |
    ⟨rfl, rfl⟩) <;> decide

theorem hexNumber?_of_isHex (h : IsHex digits number) : Json.hexNumber? digits = some number := by
  induction h with
  | nil => rfl
  | @snoc digits c number value _ hdigit ih =>
    unfold Json.hexNumber? at ih ⊢
    rw [List.foldlM_append, ih]
    simp [(Json.hexDigit?_of_isHexDigit hdigit).1]

theorem charOfHex?_of_isHex (h : IsHex digits c.toNat) : charOfHex? digits = some c := by
  have hvalid : c.toNat.isValidChar := c.valid
  unfold charOfHex? charOfCode?
  rw [hexNumber?_of_isHex h, Option.bind_some, if_pos hvalid, Char.ofNat_toNat]

theorem isPrintable_of_spells (hcontrol : c = '\t' ∨ 32 ≤ c.toNat ∧ c.toNat ≠ 127) :
    isPrintable c = true := by
  unfold isPrintable
  rcases hcontrol with rfl | ⟨hlow, hdel⟩
  · rfl
  · simp [hlow, hdel]

/-- The reader takes a character or an escape as the character it stands for. -/
theorem basicBody_append (h : SpellsChar front c) (rest : List Char) :
    basicBody (front ++ rest) = withChar (some c) (basicBody rest) := by
  cases h with
  | plain hquote hslash hcontrol =>
    rw [List.singleton_append, basicBody.eq_def]
    split
    · next h => exact absurd h (by simp)
    · next h => exact absurd (List.cons.inj h).1 hquote
    · next h => exact absurd (List.cons.inj h).1 hslash
    · next h => exact absurd (List.cons.inj h).1 hslash
    · next h => exact absurd (List.cons.inj h).1 hslash
    · next h =>
      obtain ⟨rfl, rfl⟩ := List.cons.inj h
      rw [if_pos (by simp [isPrintable_of_spells hcontrol, hslash])]
  | @short e _ h =>
    obtain ⟨hescape, hfour, height⟩ := shortEscape?_of_mem h
    rw [List.cons_append, List.singleton_append, basicBody.eq_def]
    split
    · next h => exact absurd h (by simp)
    · next h => exact absurd (List.cons.inj h).1 (by decide)
    · next h => exact absurd (List.cons.inj (List.cons.inj h).2).1 hfour
    · next h => exact absurd (List.cons.inj (List.cons.inj h).2).1 height
    · next h =>
      obtain ⟨rfl, rfl⟩ := List.cons.inj (List.cons.inj h).2
      rw [hescape]
    · next hnone h =>
      obtain ⟨hslash, htail⟩ := List.cons.inj h
      exact (hnone e rest hslash.symm htail.symm).elim
  | @fourDigits digits _ hlength h =>
    match digits, hlength with
    | [x, y, z, w], _ =>
      show basicBody ('\\' :: 'u' :: x :: y :: z :: w :: rest) = _
      rw [basicBody, charOfHex?_of_isHex h]
  | @eightDigits digits _ hlength h =>
    match digits, hlength with
    | [s, t, u, v, x, y, z, w], _ =>
      show basicBody ('\\' :: 'U' :: s :: t :: u :: v :: x :: y :: z :: w :: rest) = _
      rw [basicBody, charOfHex?_of_isHex h]

theorem basicBody_of_spellsChars (h : SpellsChars body chars) (rest : List Char) :
    basicBody (body ++ '"' :: rest) = some (chars, rest) := by
  induction h with
  | nil => rfl
  | cons first _ ih =>
    rw [List.append_assoc, basicBody_append first, ih]
    rfl

theorem exists_cons_of_spellsChar (h : SpellsChar front c) :
    ∃ d others, front = d :: others ∧ d ≠ '"' := by
  cases h with
  | plain hquote _ _ => exact ⟨_, _, rfl, hquote⟩
  | short _ => exact ⟨_, _, rfl, by decide⟩
  | fourDigits _ _ => exact ⟨_, _, rfl, by decide⟩
  | eightDigits _ _ => exact ⟨_, _, rfl, by decide⟩

/-- A string is read up to its closing quote. After an empty one no third quote can follow. -/
theorem string?_append (h : SpellsChars body chars) (hrest : rest.head? ≠ some '"') :
    string? ('"' :: (body ++ '"' :: rest)) = some (chars, rest) := by
  have hbody := basicBody_of_spellsChars h rest
  rw [string?.eq_def]
  split
  · next more hthree =>
    exfalso
    cases h with
    | nil =>
      obtain ⟨-, htail⟩ := List.cons.inj (List.cons.inj hthree).2
      exact hrest (by rw [htail]; rfl)
    | cons first others =>
      obtain ⟨d, more, rfl, hd⟩ := exists_cons_of_spellsChar first
      exact hd (List.cons.inj (List.cons.inj hthree).2).1
  · next htwo =>
    rw [← (List.cons.inj htwo).2]
    exact hbody
  · next hquote => exact absurd (List.cons.inj hquote).1 (by decide)
  · next hquote => exact absurd (List.cons.inj hquote).1 (by decide)
  · next hnone _ _ => exact (hnone _ rfl).elim

end Strings

/-! ## Ends of lines -/

section Ends

variable {text rest broken comment blanks : List Char} {c : Char}

theorem head?_of_isBreak (h : IsBreak broken rest) (hc : broken.head? = some c) :
    c = '\n' ∨ c = '\r' := by
  cases h with
  | lineFeed => exact .inl (Option.some.inj hc).symm
  | both => exact .inr (Option.some.inj hc).symm
  | missing => cases hc

theorem head?_of_endsLine (h : EndsLine text rest) (hc : text.head? = some c) :
    isBlank c = true ∨ c ∈ ['#', '\n', '\r'] := by
  obtain ⟨hblanks, hcomment, hbreak⟩ := h
  rename_i blanks comment broken
  cases blanks with
  | cons blank blanks =>
    obtain rfl := Option.some.inj hc
    exact .inl (hblanks blank List.mem_cons_self)
  | nil =>
    cases hcomment with
    | text => exact .inr (by rw [← Option.some.inj hc]; decide)
    | missing =>
      rcases head?_of_isBreak hbreak hc with rfl | rfl
      · exact .inr (by decide)
      · exact .inr (by decide)

theorem skipBlanks_of_isComment (hblanks : AreBlanks blanks) (hcomment : IsComment comment)
    (hbreak : IsBreak broken rest) :
    skipBlanks (blanks ++ (comment ++ broken)) = comment ++ broken := by
  rw [skipBlanks_append hblanks]
  refine skipBlanks_eq_self fun c hc => ?_
  cases hcomment with
  | text => rw [← Option.some.inj hc]; decide
  | missing => rcases head?_of_isBreak hbreak hc with rfl | rfl <;> decide

theorem afterBreak?_of_isBreak (h : IsBreak broken rest) :
    (if broken.isEmpty then some [] else afterBreak? broken) = some rest := by
  cases h <;> rfl

theorem endOfLine?_of_endsLine (h : EndsLine text rest) : endOfLine? text = some rest := by
  obtain ⟨hblanks, hcomment, hbreak⟩ := h
  unfold endOfLine?
  rw [skipBlanks_of_isComment hblanks hcomment hbreak]
  cases hcomment with
  | @text body hbody =>
    have hstop : ∀ c, List.head? _ = some c → isPrintable c = false := fun c hc => by
      rcases head?_of_isBreak hbreak hc with rfl | rfl <;> decide
    simp only [List.cons_append, dropWhile_run hbody hstop]
    exact afterBreak?_of_isBreak hbreak
  | missing =>
    cases hbreak <;> rfl

/-- A blank line ends the text, or there is a comment or a break to go past. -/
theorem EndsLine.cases (h : EndsLine text rest) :
    (skipBlanks text = [] ∧ rest = []) ∨ ∃ c more, skipBlanks text = c :: more ∧
      c ∈ ['#', '\n', '\r'] ∧ EndsLine (c :: more) rest ∧ rest.length < text.length := by
  obtain ⟨hblanks, hcomment, hbreak⟩ := h
  have hnone : AreBlanks [] := List.forall_mem_nil _
  have hline := EndsLine.mk hnone hcomment hbreak
  rw [skipBlanks_of_isComment hblanks hcomment hbreak]
  cases hcomment with
  | text =>
    refine .inr ⟨_, _, rfl, by decide, hline, ?_⟩
    cases hbreak <;> simp only [List.length_append, List.length_cons, List.length_nil] <;> omega
  | missing =>
    cases hbreak with
    | missing => exact .inl ⟨rfl, rfl⟩
    | lineFeed => exact .inr ⟨_, _, rfl, by decide, hline, by simp; omega⟩
    | both => exact .inr ⟨_, _, rfl, by decide, hline, by simp; omega⟩

theorem length_of_endsLine (h : EndsLine text rest) : rest.length ≤ text.length := by
  obtain ⟨-, -, hbreak⟩ := h
  cases hbreak <;> simp only [List.length_append, List.length_cons, List.length_nil] <;> omega

end Ends

/-! ## Values -/

section Values

variable {value rest : List Char} {setting : Setting}

theorem scalar?_append (h : SpellsValue value setting) (hrest : rest.head? ≠ some '"') :
    scalar? (value ++ rest) = some (setting.toToml, rest) := by
  cases h with
  | @text body chars hbody =>
    have htext : ('"' :: (body ++ ['"'])) ++ rest = '"' :: (body ++ '"' :: rest) := by simp
    rw [htext, scalar?, string?_append hbody hrest]
    rfl
  | isTrue => rfl
  | isFalse => rfl

theorem value?_append (h : SpellsValue value setting) (hrest : rest.head? ≠ some '"')
    (depth : Nat) : value? depth (value ++ rest) = some (setting.toToml, rest) := by
  have hscalar := scalar?_append h hrest
  cases depth with
  | zero => rw [value?]; exact hscalar
  | succ depth =>
    have hhead : ∃ c others, value ++ rest = c :: others ∧ c ≠ '[' ∧ c ≠ '{' := by
      cases h with
      | text => exact ⟨_, _, rfl, by decide, by decide⟩
      | isTrue => exact ⟨_, _, rfl, by decide, by decide⟩
      | isFalse => exact ⟨_, _, rfl, by decide, by decide⟩
    obtain ⟨c, others, hvalue, harray, htable⟩ := hhead
    rw [hvalue] at hscalar ⊢
    rw [value?.eq_def]
    split
    · contradiction
    · next h => exact absurd (List.cons.inj h).1 harray
    · next h => exact absurd (List.cons.inj h).1 htable
    · exact hscalar

end Values

/-! ## Keys -/

section Keys

variable {word blanks rest : List Char} {c : Char}

/-- What follows a key that was read: no part of the key, and no blank. -/
def StopsKey (rest : List Char) : Prop :=
  ∀ c, rest.head? = some c → isBareKeyChar c = false ∧ isBlank c = false ∧ c ≠ '.'

theorem stopsKey_cons (hkey : isBareKeyChar c = false) (hblank : isBlank c = false)
    (hdot : c ≠ '.') (rest : List Char) : StopsKey (c :: rest) := by
  intro d hd
  rw [← Option.some.inj hd]
  exact ⟨hkey, hblank, hdot⟩

theorem ne_of_isBareKeyChar {other : Char} (h : isBareKeyChar c = true)
    (hother : isBareKeyChar other = false) : c ≠ other := by
  rintro rfl
  rw [h] at hother
  cases hother

theorem not_isBlank_of_isBareKeyChar (h : isBareKeyChar c = true) : isBlank c = false := by
  unfold isBlank
  rw [beq_false_of_ne (ne_of_isBareKeyChar h (by decide)),
    beq_false_of_ne (ne_of_isBareKeyChar h (by decide))]
  rfl

theorem IsBare.exists_cons (h : IsBare word) :
    ∃ c others, word = c :: others ∧ isBareKeyChar c = true := by
  obtain ⟨c, others, rfl⟩ := List.exists_cons_of_ne_nil h.1
  exact ⟨c, others, rfl, h.2 c List.mem_cons_self⟩

theorem keyPart?_append (h : IsBare word)
    (hrest : ∀ c, rest.head? = some c → isBareKeyChar c = false) :
    keyPart? (word ++ rest) = some (word, rest) := by
  obtain ⟨c, others, rfl, hc⟩ := h.exists_cons
  rw [keyPart?.eq_def]
  split
  · next heq => exact absurd (List.cons.inj heq).1 (ne_of_isBareKeyChar hc (by decide))
  · next heq => exact absurd (List.cons.inj heq).1 (ne_of_isBareKeyChar hc (by decide))
  · simp only [takeWhile_run h.2 hrest, dropWhile_run h.2 hrest]
    rfl

theorem skipBlanks_of_isBare (h : IsBare word) (rest : List Char) :
    skipBlanks (word ++ rest) = word ++ rest := by
  obtain ⟨c, others, rfl, hc⟩ := h.exists_cons
  exact skipBlanks_cons (not_isBlank_of_isBareKeyChar hc) _

theorem keyParts?_last (h : IsBare word) (hblanks : AreBlanks blanks) (hrest : StopsKey rest)
    (fuel : Nat) :
    keyParts? fuel (word ++ (blanks ++ rest)) = some ([String.ofList word], rest) := by
  have hnext : ∀ c, (blanks ++ rest).head? = some c → isBareKeyChar c = false := by
    intro c hc
    cases blanks with
    | nil => exact (hrest c hc).1
    | cons blank blanks =>
      rw [← Option.some.inj hc]
      have hblank := hblanks blank List.mem_cons_self
      simp only [isBlank, Bool.or_eq_true, beq_iff_eq] at hblank
      rcases hblank with rfl | rfl <;> decide
  have hskip : skipBlanks (blanks ++ rest) = rest :=
    (skipBlanks_append hblanks rest).trans (skipBlanks_eq_self fun c hc => (hrest c hc).2.1)
  rw [keyParts?.eq_def]
  simp only [skipBlanks_of_isBare h, keyPart?_append h hnext, hskip]
  split
  · exact absurd rfl (hrest '.' rfl).2.2
  · rfl

theorem keyParts?_more (h : IsBare word) (rest : List Char) (fuel : Nat) :
    keyParts? (fuel + 1) (word ++ '.' :: rest) =
      (keyParts? fuel rest).map fun (parts, after) => (String.ofList word :: parts, after) := by
  have hdot : ∀ c, ('.' :: rest).head? = some c → isBareKeyChar c = false := fun c hc => by
    rw [← Option.some.inj hc]; decide
  have hskip : skipBlanks ('.' :: rest) = '.' :: rest := skipBlanks_cons rfl rest
  rw [keyParts?.eq_def]
  simp only [skipBlanks_of_isBare h, keyPart?_append h hdot, hskip]

theorem key?_bare {key : String} (h : IsBare key.toList) (hblanks : AreBlanks blanks)
    (hrest : StopsKey rest) : key? (key.toList ++ (blanks ++ rest)) = some (([], key), rest) := by
  unfold key?
  rw [keyParts?_last h hblanks hrest]
  simp

theorem key?_heading {heading : Heading} (h : IsBare heading.name.toList) (hrest : StopsKey rest) :
    key? (heading.key ++ rest) = some ((heading.parts, heading.name), rest) := by
  obtain ⟨isTool, name⟩ := heading
  have hnone : AreBlanks [] := List.forall_mem_nil _
  cases isTool with
  | false => exact key?_bare h hnone hrest
  | true =>
    have htools : IsBare Config.toolsKey.toList := by decide
    have htext : Heading.key ⟨true, name⟩ ++ rest =
        Config.toolsKey.toList ++ '.' :: (name.toList ++ ([] ++ rest)) := by
      simp [Heading.key]
    have hdepth : maxDepth - 2 = maxDepth - 3 + 1 := rfl
    unfold key?
    rw [htext, hdepth, keyParts?_more htools, keyParts?_last h hnone hrest]
    simp [Heading.parts]

end Keys

/-! ## Statements -/

section Statements

variable {front text rest : List Char} {statement : Statement} {statements : List Statement}

theorem exists_cons_of_spellsStatement (h : SpellsStatement front statement) :
    ∃ c others, front = c :: others ∧ (c = '[' ∨ isBareKeyChar c = true) := by
  cases h with
  | header => exact ⟨_, _, rfl, .inl rfl⟩
  | @assign key _ _ _ _ hkey =>
    obtain ⟨c, others, hcons, hc⟩ := hkey.exists_cons
    exact ⟨c, _, by rw [hcons]; rfl, .inr hc⟩

theorem exists_cons_of_heading {heading : Heading} (h : IsBare heading.name.toList)
    (rest : List Char) : ∃ c others, heading.key ++ rest = c :: others ∧ c ≠ '[' := by
  obtain ⟨isTool, name⟩ := heading
  cases isTool with
  | true => exact ⟨_, _, rfl, by decide⟩
  | false =>
    obtain ⟨c, others, hcons, hc⟩ := h.exists_cons
    have hname : name.toList = c :: others := hcons
    refine ⟨c, others ++ rest, ?_, ne_of_isBareKeyChar hc (by decide)⟩
    simp [Heading.key, hname]

theorem quote_of_endsLine (h : EndsLine text rest) : text.head? ≠ some '"' := by
  intro hquote
  rcases head?_of_endsLine h hquote with hblank | hmem
  · exact absurd hblank (by decide)
  · exact absurd hmem (by decide)

theorem statement?_header {heading : Heading} (h : IsBare heading.name.toList)
    (hend : EndsLine text rest) :
    statement? ('[' :: (heading.key ++ ']' :: text)) =
      some (.header heading.parts heading.name, rest) := by
  have hstop : StopsKey (']' :: text) := stopsKey_cons rfl rfl (by decide) text
  obtain ⟨c, others, hkey, hc⟩ := exists_cons_of_heading h (']' :: text)
  rw [statement?.eq_def]
  split
  · next more heq =>
    have htail := (List.cons.inj heq).2
    rw [hkey] at htail
    exact absurd (List.cons.inj htail).1 hc
  · next more _ heq =>
    rw [← (List.cons.inj heq).2, key?_heading h hstop]
    simp only [endOfLine?_of_endsLine hend, Option.map_some]
  · next hnone => exact (hnone _ rfl).elim

theorem statement?_assign {key : String} {before behind value : List Char} {setting : Setting}
    (hkey : IsBare key.toList) (hbefore : AreBlanks before) (hbehind : AreBlanks behind)
    (h : SpellsValue value setting) (hend : EndsLine text rest) :
    statement? (key.toList ++ (before ++ '=' :: (behind ++ (value ++ text)))) =
      some (.assign [] key setting.toToml, rest) := by
  have hstop : StopsKey ('=' :: (behind ++ (value ++ text))) :=
    stopsKey_cons rfl rfl (by decide) _
  have hvalue : skipBlanks (behind ++ (value ++ text)) = value ++ text := by
    rw [skipBlanks_append hbehind]
    cases h <;> exact skipBlanks_cons (by decide) _
  have hassign : assignment? (value? (maxDepth - 1))
      (key.toList ++ (before ++ '=' :: (behind ++ (value ++ text)))) =
        some (([], key, setting.toToml), text) := by
    unfold assignment?
    rw [key?_bare hkey hbefore hstop]
    simp only [hvalue, value?_append h (quote_of_endsLine hend), Option.map_some]
  obtain ⟨c, others, hcons, hc⟩ := hkey.exists_cons
  have hbracket : c ≠ '[' := ne_of_isBareKeyChar hc (by decide)
  rw [statement?.eq_def]
  split
  · next heq =>
    rw [hcons] at heq
    exact absurd (List.cons.inj heq).1 hbracket
  · next heq =>
    rw [hcons] at heq
    exact absurd (List.cons.inj heq).1 hbracket
  · rw [hassign]
    simp only [endOfLine?_of_endsLine hend, Option.map_some]

theorem statement?_append (h : SpellsStatement front statement) (hend : EndsLine text rest) :
    statement? (front ++ text) = some (statement, rest) := by
  cases h with
  | @header heading h =>
    have htext : ('[' :: (heading.key ++ [']'])) ++ text = '[' :: (heading.key ++ ']' :: text) := by
      simp
    rw [htext, statement?_header h hend]
  | @assign key before behind value setting hkey hbefore hbehind h =>
    have htext : (key.toList ++ (before ++ '=' :: (behind ++ value))) ++ text =
        key.toList ++ (before ++ '=' :: (behind ++ (value ++ text))) := by simp
    rw [htext, statement?_assign hkey hbefore hbehind h hend]

theorem statements?_of_spellsLines (h : SpellsLines text statements) {fuel : Nat}
    (hfuel : text.length ≤ fuel) : statements? fuel text = some statements := by
  induction h generalizing fuel with
  | nil => rw [statements?.eq_def]; rfl
  | @blank text rest statements h others ih =>
    rw [statements?.eq_def]
    obtain ⟨hskip, rfl⟩ | ⟨c, more, hskip, hc, hline, hlength⟩ := h.cases
    · have hnone : statements? 0 [] = some statements := ih (Nat.le_refl 0)
      simp only [hskip]
      exact hnone
    · obtain ⟨fuel, rfl⟩ : ∃ less, fuel = less + 1 := ⟨fuel - 1, by omega⟩
      have hmark : (c == '#' || c == '\n' || c == '\r') = true := by simpa [or_assoc] using hc
      simp only [hskip, hmark, if_true, endOfLine?_of_endsLine hline, Option.bind_some]
      exact ih (by omega)
  | @statement before front text rest statement statements hbefore h hend others ih =>
    obtain ⟨c, more, rfl, hc⟩ := exists_cons_of_spellsStatement h
    have hblank : isBlank c = false := by
      rcases hc with rfl | hc
      · rfl
      · exact not_isBlank_of_isBareKeyChar hc
    have hmark : (c == '#' || c == '\n' || c == '\r') = false := by
      rcases hc with rfl | hc
      · rfl
      · rw [beq_false_of_ne (ne_of_isBareKeyChar hc (by decide)),
          beq_false_of_ne (ne_of_isBareKeyChar hc (by decide)),
          beq_false_of_ne (ne_of_isBareKeyChar hc (by decide))]
        rfl
    have hskip : skipBlanks (before ++ (c :: more ++ text)) = c :: (more ++ text) :=
      (skipBlanks_append hbefore _).trans (skipBlanks_cons hblank _)
    have hread : statement? (c :: (more ++ text)) = some (statement, rest) :=
      statement?_append h hend
    have hlength := length_of_endsLine hend
    simp only [List.length_append, List.length_cons] at hfuel
    obtain ⟨fuel, rfl⟩ : ∃ less, fuel = less + 1 := ⟨fuel - 1, by omega⟩
    rw [statements?.eq_def]
    simp only [hskip, hmark, Bool.false_eq_true, if_false, hread,
      ih (by omega : rest.length ≤ fuel), Option.map_some]

theorem dropMark_of_spellsLines (h : SpellsLines text statements) : dropMark text = text := by
  have hmark : ∀ c, text.head? = some c → c ≠ '\uFEFF' := by
    rintro c hc rfl
    cases h with
    | nil => cases hc
    | blank h =>
      rcases head?_of_endsLine h hc with hblank | hmem
      · exact absurd hblank (by decide)
      · exact absurd hmem (by decide)
    | @statement before front text rest statement statements hbefore h =>
      cases before with
      | cons blank before =>
        have hblank := hbefore blank List.mem_cons_self
        rw [Option.some.inj hc] at hblank
        exact absurd hblank (by decide)
      | nil =>
        obtain ⟨d, others, rfl, hd⟩ := exists_cons_of_spellsStatement h
        rw [Option.some.inj hc] at hd
        exact absurd hd (by decide)
  unfold dropMark
  split
  · exact absurd rfl (hmark _ rfl)
  · rfl

theorem document?_of_spellsLines {document : String}
    (h : SpellsLines document.toList statements) :
    document? document = (statements.foldlM Draft.add? Draft.start).bind Draft.close? := by
  unfold document?
  simp only [dropMark_of_spellsLines h, statements?_of_spellsLines h (Nat.le_refl _)]

end Statements

/-! ## Every table has a text -/

section Existence

variable {statements : List Statement}

theorem isHex_lowerHexDigits (values : List Nat) (h : ∀ value ∈ values, value < 16) :
    IsHex (values.map Json.lowerHexDigit)
      (values.foldl (fun number value => 16 * number + value) 0) := by
  induction values using List.reverseRecOn with
  | nil => exact .nil
  | append_singleton values value ih =>
    obtain ⟨hvalues, hvalue⟩ := List.forall_mem_append.mp h
    rw [List.map_append, List.foldl_append]
    exact (ih hvalues).snoc (Json.isHexDigit_lowerHexDigit (hvalue value List.mem_cons_self))

theorem exists_isHex {number : Nat} (h : number < 256) :
    ∃ digits, digits.length = 4 ∧ IsHex digits number := by
  have hhex := isHex_lowerHexDigits [0, 0, number / 16, number % 16] (by simp; omega)
  have hnumber : [0, 0, number / 16, number % 16].foldl
      (fun number value => 16 * number + value) 0 = number := by
    simp only [List.foldl_cons, List.foldl_nil]
    omega
  rw [hnumber] at hhex
  exact ⟨_, by simp, hhex⟩

theorem exists_spellsChar (c : Char) : ∃ front, SpellsChar front c := by
  by_cases hquote : c = '"'
  · rw [hquote]
    exact ⟨_, .short (by decide : ('"', '"') ∈ shortEscapes)⟩
  by_cases hslash : c = '\\'
  · rw [hslash]
    exact ⟨_, .short (by decide : ('\\', '\\') ∈ shortEscapes)⟩
  by_cases hplain : c = '\t' ∨ 32 ≤ c.toNat ∧ c.toNat ≠ 127
  · exact ⟨_, .plain hquote hslash hplain⟩
  · obtain ⟨digits, hlength, hhex⟩ := exists_isHex (by omega : c.toNat < 256)
    exact ⟨_, .fourDigits hlength hhex⟩

theorem exists_spellsChars (chars : List Char) : ∃ body, SpellsChars body chars := by
  induction chars with
  | nil => exact ⟨_, .nil⟩
  | cons c chars ih =>
    obtain ⟨front, hfront⟩ := exists_spellsChar c
    obtain ⟨body, hbody⟩ := ih
    exact ⟨_, .cons hfront hbody⟩

theorem exists_spellsValue (setting : Setting) : ∃ value, SpellsValue value setting := by
  cases setting with
  | text text =>
    obtain ⟨body, hbody⟩ := exists_spellsChars text.toList
    have hvalue := SpellsValue.text hbody
    rw [String.ofList_toList] at hvalue
    exact ⟨_, hvalue⟩
  | switch value =>
    cases value with
    | true => exact ⟨_, .isTrue⟩
    | false => exact ⟨_, .isFalse⟩

theorem exists_spellsLines
    (h : ∀ statement ∈ statements, ∃ front, SpellsStatement front statement) :
    ∃ text, SpellsLines text statements := by
  have hnone : AreBlanks [] := List.forall_mem_nil _
  induction statements with
  | nil => exact ⟨_, .nil⟩
  | cons statement statements ih =>
    obtain ⟨⟨front, hfront⟩, hothers⟩ := List.forall_mem_cons.mp h
    obtain ⟨text, htext⟩ := ih hothers
    exact ⟨_, .statement hnone hfront (.mk hnone .missing (.lineFeed text)) htext⟩

end Existence

end Toml

end TestCursor
