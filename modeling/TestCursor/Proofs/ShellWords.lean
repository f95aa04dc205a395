import Mathlib.Data.List.TakeWhile
import TestCursor.Proofs.SpacedWords
import TestCursor.Shell.Evaluate

/-!
# Lines of literal words

Outside of quotes a shell takes most characters for themselves. A line of words made of them is one
command with these words.

1. A word of such characters is read as its plain parts (`run_partsUpTo`), and so is the next token
   of a line (`run_freshToken_of_word`).
2. A token is taken for what it is unless it is a keyword (`run_classify`), whether it is read or
   was put back (`run_next_of_fresh`, `run_next_of_pushed`).
3. By induction on the words behind the first one a command has all of them (`run_simpleUpTo`), and
   the line is this command (`readLine_of_literal`).
-/

namespace TestCursor

namespace Shell

/-- The characters that mean something to a shell outside of quotes. -/
def specialChars : List Char := " \t\n;&|()<>\\$'\"*?[\x60".toList

/-- A character that a shell takes for itself outside of quotes. -/
def isLiteral (c : Char) : Bool := !specialChars.contains c

/-- A word that a shell takes for itself: no comment and no home directory begins with it. -/
structure IsLiteralWord (word : List Char) : Prop where
  not_empty : word ≠ []
  literal : ∀ c ∈ word, isLiteral c = true
  no_comment : word.head? ≠ some '#'
  no_tilde : word.head? ≠ some '~'

instance (word : List Char) : Decidable (IsLiteralWord word) :=
  decidable_of_iff (word ≠ [] ∧ word.all isLiteral = true ∧ word.head? ≠ some '#' ∧
    word.head? ≠ some '~')
    ⟨fun ⟨hne, hliteral, hcomment, htilde⟩ =>
        ⟨hne, List.all_eq_true.mp hliteral, hcomment, htilde⟩,
      fun h => ⟨h.not_empty, List.all_eq_true.mpr h.literal, h.no_comment, h.no_tilde⟩⟩

theorem ne_of_isLiteral {c d : Char} (hc : isLiteral c = true) (hd : isLiteral d = false) :
    c ≠ d := by
  rintro rfl
  exact Bool.noConfusion (hd.symm.trans hc)

theorem endsWord_of_isLiteral {c : Char} (hc : isLiteral c = true) : endsWord c = false := by
  have hends : " \t\n;&|()<>".toList.all (!isLiteral ·) = true := by decide
  rw [endsWord, ← Bool.not_eq_true, List.contains_iff_mem]
  intro hmem
  have hspecial := List.all_eq_true.mp hends c hmem
  rw [hc] at hspecial
  cases hspecial

theorem ne_of_isOrdinary {c d : Char} (hc : isOrdinary c = true) (hd : isOrdinary d = false) :
    c ≠ d := by
  rintro rfl
  exact Bool.noConfusion (hd.symm.trans hc)

/-! ## Parts of words -/

/-- The parts of a word of literal characters: each stretch of ordinary ones, and the others one
by one. -/
def partsOf : List Char → Word
  | [] => []
  | c :: word =>
    if isOrdinary c then
      .plain (String.ofList (c :: word.takeWhile isOrdinary)) :: partsOf (word.dropWhile isOrdinary)
    else .plain (String.ofList [c]) :: partsOf word
termination_by word => word.length
decreasing_by
  · exact Nat.lt_succ_of_le (List.dropWhile_suffix _).length_le
  · exact Nat.lt_succ_self _

/-- A word of literal characters as it is read. -/
def plainWord (word : List Char) : RawWord := ⟨partsOf word, false⟩

theorem hasQuotes_partsOf (word : List Char) : hasQuotes (partsOf word) = false := by
  fun_induction partsOf word with
  | case1 => rfl
  | case2 c word hc ih => exact ih
  | case3 c word hc ih => exact ih

theorem plain?_plainWord (word : List Char) :
    (plainWord word).plain? = some (String.ofList word) := by
  unfold RawWord.plain? plainWord
  fun_induction partsOf word with
  | case1 => rfl
  | case2 c word hc ih =>
    rw [List.foldr_cons, ih]
    show some (_ ++ _) = _
    rw [← String.ofList_append, List.cons_append, List.takeWhile_append_dropWhile]
  | case3 c word hc ih =>
    rw [List.foldr_cons, ih]
    show some (_ ++ _) = _
    rw [← String.ofList_append, List.singleton_append]

/-! ## Assignments -/

/-- A text that begins with the assignment of a variable. -/
def Assigns (text : List Char) : Prop :=
  ∃ name value, text = name ++ '=' :: value ∧ isVariableName (String.ofList name) = true

theorem Assigns.equals_mem {text : List Char} (h : Assigns text) : '=' ∈ text := by
  obtain ⟨name, value, rfl, -⟩ := h
  simp

theorem Assigns.append {front : List Char} (h : Assigns front) (back : List Char) :
    Assigns (front ++ back) := by
  obtain ⟨name, value, rfl, hname⟩ := h
  exact ⟨name, value ++ back, by rw [List.append_assoc, List.cons_append], hname⟩

theorem assignment?_eq_none {text : List Char} (h : ¬Assigns text) :
    assignment? (String.ofList text) = none := by
  unfold assignment?
  rw [String.toList_ofList, String.length_ofList]
  refine if_neg fun hassign => ?_
  rw [Bool.and_eq_true, decide_eq_true_eq] at hassign
  obtain ⟨hname, hlength⟩ := hassign
  have htext : text.takeWhile (· != '=') ++ text.dropWhile (· != '=') = text :=
    List.takeWhile_append_dropWhile
  have hstop := List.head?_dropWhile_not (· != '=') text
  cases hback : text.dropWhile (· != '=') with
  | nil =>
    rw [hback, List.append_nil] at htext
    rw [htext] at hlength
    exact Nat.lt_irrefl _ hlength
  | cons c value =>
    rw [hback] at htext hstop
    obtain rfl : c = '=' := by simpa using hstop
    exact h ⟨_, value, htext.symm, hname⟩

theorem assignmentWord?_partsOf {word : List Char} (h : ¬Assigns word) :
    assignmentWord? (partsOf word) = none := by
  unfold assignmentWord?
  fun_cases partsOf word with
  | case1 => rfl
  | case2 c word hc =>
    have hfront : ¬Assigns (c :: word.takeWhile isOrdinary) := by
      rw [← List.takeWhile_append_dropWhile (p := isOrdinary) (l := word), ← List.cons_append] at h
      exact mt (Assigns.append · _) h
    dsimp only
    rw [assignment?_eq_none hfront]
    rfl
  | case3 c word hc =>
    have hfront : ¬Assigns [c] := mt (Assigns.append · word) h
    dsimp only
    rw [assignment?_eq_none hfront]
    rfl

namespace Reading

section Run

variable {α β : Type} {rest word : List Char} {pushed : Option Token} {c : Char}

/-- The input of a text on its first line, where no aliases or documents are known. -/
def inputOf (rest : List Char) (pushed : Option Token) : Input := ⟨rest, 1, pushed, [], #[], [], []⟩

theorem run_bind_of_ok {reading : Reading α} {next : α → Reading β} {input later : Input}
    {result : α} (h : reading.run input = .ok (result, later)) :
    (reading >>= next).run input = (next result).run later := by
  rw [StateT.run_bind, h]
  rfl

theorem run_get_bind {next : Input → Reading β} {input : Input} :
    ((get : Reading Input) >>= next).run input = (next input).run input := rfl

theorem run_set_bind {next : PUnit → Reading β} {input later : Input} :
    ((set later : Reading PUnit) >>= next).run input = (next ⟨⟩).run later := rfl

theorem run_peek (h : rest.head? ≠ some '\\') :
    peek.run (inputOf rest pushed) = .ok (rest.head?, inputOf rest pushed) := by
  rw [peek, run_get_bind, inputOf]
  split
  · next heq =>
    dsimp only at heq
    rw [heq] at h
    exact absurd rfl h
  · rfl

theorem run_peek_cons (hc : c ≠ '\\') :
    peek.run (inputOf (c :: rest) pushed) = .ok (some c, inputOf (c :: rest) pushed) :=
  run_peek (by simpa using hc)

theorem run_takeRaw (hc : c ≠ '\n') :
    takeRaw.run (inputOf (c :: rest) pushed) = .ok (some c, inputOf rest pushed) := by
  show Except.ok _ = _
  rw [if_neg hc]
  rfl

theorem run_take (hslash : c ≠ '\\') (hbreak : c ≠ '\n') :
    take.run (inputOf (c :: rest) pushed) = .ok (some c, inputOf rest pushed) := by
  rw [take, run_bind_of_ok (run_peek_cons hslash)]
  exact run_takeRaw hbreak

/-! ## Words -/

theorem run_takeWhileUpTo {bound : Nat} (hword : ∀ c ∈ word, isOrdinary c = true)
    (hrest : ∀ c, rest.head? = some c → isOrdinary c = false ∧ c ≠ '\\')
    (hbound : word.length ≤ bound) :
    (takeWhileUpTo isOrdinary bound).run (inputOf (word ++ rest) pushed) =
      .ok (word, inputOf rest pushed) := by
  induction word generalizing bound with
  | nil =>
    cases bound with
    | zero => rfl
    | succ bound =>
      rw [takeWhileUpTo, List.nil_append,
        run_bind_of_ok (run_peek fun hslash => (hrest _ hslash).2 rfl)]
      cases hhead : rest.head? with
      | none => rfl
      | some c =>
        dsimp only
        rw [if_neg (Bool.eq_false_iff.mp (hrest c hhead).1)]
        rfl
  | cons c word ih =>
    obtain ⟨hc, hword⟩ := List.forall_mem_cons.mp hword
    cases bound with
    | zero => exact absurd hbound (by simp)
    | succ bound =>
      rw [List.cons_append, takeWhileUpTo,
        run_bind_of_ok (run_peek_cons (ne_of_isOrdinary hc (by decide)))]
      simp only [hc, if_true]
      rw [run_bind_of_ok (run_takeRaw (ne_of_isOrdinary hc (by decide))),
        run_bind_of_ok (ih hword (Nat.le_of_succ_le_succ hbound))]
      rfl

theorem run_takeWhile (hword : ∀ c ∈ word, isOrdinary c = true)
    (hrest : ∀ c, rest.head? = some c → isOrdinary c = false ∧ c ≠ '\\') :
    (takeWhile isOrdinary).run (inputOf (word ++ rest) pushed) =
      .ok (word, inputOf rest pushed) := by
  rw [takeWhile, run_get_bind]
  exact run_takeWhileUpTo hword hrest (by simp [inputOf])

/-- What follows a word: nothing or a space. -/
def EndsWord (rest : List Char) : Prop := ∀ c, rest.head? = some c → c = ' '

theorem EndsWord.run_peek (h : EndsWord rest) :
    peek.run (inputOf rest pushed) = .ok (rest.head?, inputOf rest pushed) :=
  Reading.run_peek fun hslash => absurd (h _ hslash) (by decide)

/-- The characters behind a stretch of ordinary ones. -/
theorem stops_dropWhile (hword : ∀ c ∈ word, isLiteral c = true) (hrest : EndsWord rest) :
    ∀ c, (word.dropWhile isOrdinary ++ rest).head? = some c → isOrdinary c = false ∧ c ≠ '\\' := by
  intro c hc
  cases hback : word.dropWhile isOrdinary with
  | nil =>
    rw [hback, List.nil_append] at hc
    obtain rfl := hrest c hc
    exact ⟨by decide, by decide⟩
  | cons d back =>
    rw [hback] at hc
    obtain rfl := Option.some.inj hc
    have hd : d ∈ word := (List.dropWhile_suffix _).subset (hback ▸ List.mem_cons_self)
    have hstop := List.head?_dropWhile_not isOrdinary word
    rw [hback] at hstop
    exact ⟨by simpa using hstop, ne_of_isLiteral (hword d hd) (by decide)⟩

section Token

variable {script : Reading (Option Command)} {close : Reading Unit} {inside : Inside}

theorem run_step_of_ordinary (hc : isOrdinary c = true) (hword : ∀ c ∈ word, isLiteral c = true)
    (hrest : EndsWord rest) :
    (step inside .bare).run (inputOf (c :: word ++ rest) pushed) =
      .ok (.part (.plain (String.ofList (c :: word.takeWhile isOrdinary))) .bare,
        inputOf (word.dropWhile isOrdinary ++ rest) pushed) := by
  have htext : c :: (word ++ rest) =
      (c :: word.takeWhile isOrdinary) ++ (word.dropWhile isOrdinary ++ rest) := by
    rw [← List.append_assoc, List.cons_append, List.takeWhile_append_dropWhile, List.cons_append]
  have hfront : ∀ d ∈ c :: word.takeWhile isOrdinary, isOrdinary d = true :=
    List.forall_mem_cons.mpr ⟨hc, List.all_eq_true.mp List.all_takeWhile⟩
  rw [List.cons_append, step, run_bind_of_ok (run_peek_cons (ne_of_isOrdinary hc (by decide)))]
  simp only [hc, if_true]
  rw [htext, run_bind_of_ok (run_takeWhile hfront (stops_dropWhile hword hrest))]
  rfl

theorem run_step_of_literal (hc : isOrdinary c = false) (hliteral : isLiteral c = true) :
    (step inside .bare).run (inputOf (c :: rest) pushed) =
      .ok (.part (.plain (String.ofList [c])) .bare, inputOf rest pushed) := by
  have hne {d : Char} (hd : isLiteral d = false) : c ≠ d := ne_of_isLiteral hliteral hd
  have hslash : c ≠ '\\' := hne (by decide)
  have hquote : c ≠ '\'' := hne (by decide)
  have hquotes : c ≠ '"' := hne (by decide)
  have hback : c ≠ '\x60' := hne (by decide)
  have hdollar : c ≠ '$' := hne (by decide)
  have hends : endsWord c = false := endsWord_of_isLiteral hliteral
  have htake : take.run (inputOf (c :: rest) pushed) = .ok (some c, inputOf rest pushed) :=
    run_take hslash (hne (by decide))
  have hopening : (opening inside .bare c).run (inputOf (c :: rest) pushed) =
      .ok (.plain (String.ofList [c]), inputOf rest pushed) := by
    rw [opening, run_bind_of_ok htake, if_neg hquote, if_neg hquotes]
    rfl
  rw [step, run_bind_of_ok (run_peek_cons hslash)]
  simp only [hc, hslash, hback, hdollar, special, hends, decide_false, Bool.false_and,
    Bool.false_eq_true, if_false]
  rw [run_bind_of_ok hopening]
  rfl

theorem run_step_of_endsWord (hrest : EndsWord rest) :
    (step inside .bare).run (inputOf rest pushed) = .ok (.done, inputOf rest pushed) := by
  rw [step, run_bind_of_ok hrest.run_peek]
  cases hhead : rest.head? with
  | none => rfl
  | some c =>
    obtain rfl := hrest c hhead
    rfl

theorem run_partsUpTo {bound : Nat} (hword : ∀ c ∈ word, isLiteral c = true)
    (hrest : EndsWord rest) (hbound : word.length < bound) :
    (partsUpTo script close bound .bare).run (inputOf (word ++ rest) pushed) =
      .ok (partsOf word, inputOf rest pushed) := by
  fun_induction partsOf word generalizing bound with
  | case1 =>
    obtain ⟨bound, rfl⟩ : ∃ less, bound = less + 1 := ⟨bound - 1, by omega⟩
    rw [List.nil_append, partsUpTo, run_bind_of_ok (run_step_of_endsWord hrest)]
    rfl
  | case2 c word hc ih =>
    obtain ⟨bound, rfl⟩ : ∃ less, bound = less + 1 := ⟨bound - 1, by omega⟩
    obtain ⟨-, hword⟩ := List.forall_mem_cons.mp hword
    have hsuffix := List.dropWhile_suffix isOrdinary (l := word)
    have hlength := hsuffix.length_le
    rw [List.length_cons] at hbound
    rw [partsUpTo, run_bind_of_ok (run_step_of_ordinary hc hword hrest)]
    dsimp only
    rw [run_bind_of_ok (ih (fun d hd => hword d (hsuffix.subset hd)) (by omega))]
    rfl
  | case3 c word hc ih =>
    obtain ⟨bound, rfl⟩ : ∃ less, bound = less + 1 := ⟨bound - 1, by omega⟩
    obtain ⟨hliteral, hword⟩ := List.forall_mem_cons.mp hword
    rw [List.length_cons] at hbound
    rw [List.cons_append, partsUpTo,
      run_bind_of_ok (run_step_of_literal (Bool.eq_false_iff.mpr hc) hliteral)]
    dsimp only
    rw [run_bind_of_ok (ih hword (by omega))]
    rfl

theorem run_word (hword : ∀ c ∈ word, isLiteral c = true) (hrest : EndsWord rest) :
    (Reading.word script close .bare).run (inputOf (word ++ rest) pushed) =
      .ok (partsOf word, inputOf rest pushed) := by
  have hlength : (inputOf (word ++ rest) pushed).rest.length = word.length + rest.length :=
    List.length_append
  rw [Reading.word, run_get_bind]
  exact run_partsUpTo hword hrest (by omega)

theorem run_wordToken (hword : ∀ c ∈ word, isLiteral c = true) (hrest : EndsWord rest) :
    (wordToken script close .bare).run (inputOf (word ++ rest) pushed) =
      .ok (.word (plainWord word), inputOf rest pushed) := by
  rw [wordToken, run_bind_of_ok (run_word hword hrest)]
  dsimp only
  rw [run_bind_of_ok hrest.run_peek, hasQuotes_partsOf]
  cases hhead : rest.head? with
  | none => rfl
  | some c =>
    obtain rfl := hrest c hhead
    rfl

/-- What follows spaces: nothing or a word. -/
def BeginsWord (rest : List Char) : Prop :=
  ∀ c, rest.head? = some c → isLiteral c = true ∧ c ≠ '#'

theorem BeginsWord.run_peek (h : BeginsWord rest) :
    peek.run (inputOf rest pushed) = .ok (rest.head?, inputOf rest pushed) :=
  Reading.run_peek fun hslash => absurd (h _ hslash).1 (by decide)

theorem run_skipBlanks {spaces bound : Nat} (hrest : BeginsWord rest) (hbound : spaces ≤ bound) :
    (skipBlanks bound).run (inputOf (List.replicate spaces ' ' ++ rest) pushed) =
      .ok ((), inputOf rest pushed) := by
  induction bound generalizing spaces with
  | zero =>
    obtain rfl := Nat.le_zero.mp hbound
    rfl
  | succ bound ih =>
    cases spaces with
    | zero =>
      rw [skipBlanks, List.replicate_zero, List.nil_append, run_bind_of_ok hrest.run_peek]
      cases hhead : rest.head? with
      | none => rfl
      | some c =>
        obtain ⟨hc, hcomment⟩ := hrest c hhead
        split
        · next heq => exact absurd (Option.some.inj heq) (ne_of_isLiteral hc (by decide))
        · next heq => exact absurd (Option.some.inj heq) (ne_of_isLiteral hc (by decide))
        · next heq => exact absurd (Option.some.inj heq) hcomment
        · rfl
    | succ spaces =>
      rw [List.replicate_succ, List.cons_append, skipBlanks,
        run_bind_of_ok (run_peek_cons (by decide))]
      simp only
      rw [run_bind_of_ok (run_take (by decide) (by decide))]
      exact ih (Nat.le_of_succ_le_succ hbound)

theorem run_freshToken {spaces : Nat} (hrest : BeginsWord rest) :
    (freshToken script close .bare).run (inputOf (List.replicate spaces ' ' ++ rest) pushed) =
      match rest with
      | [] => .ok ((.finish, false), inputOf [] pushed)
      | _ :: _ =>
        (do return (← wordToken script close .bare, false) : Reading (Token × Bool)).run
          (inputOf rest pushed) := by
  have hleave : leaveAliases.run (inputOf rest pushed) = .ok (false, inputOf rest pushed) := rfl
  have hbound : spaces ≤ (inputOf (List.replicate spaces ' ' ++ rest) pushed).rest.length + 1 := by
    simp [inputOf]
    omega
  rw [freshToken, run_get_bind, run_bind_of_ok (run_skipBlanks hrest hbound),
    run_bind_of_ok hleave]
  dsimp only
  rw [run_bind_of_ok hrest.run_peek]
  cases rest with
  | nil => rfl
  | cons c rest =>
    have hne {d : Char} (hd : isLiteral d = false) : c ≠ d := ne_of_isLiteral (hrest c rfl).1 hd
    dsimp only [List.head?_cons]
    split
    · next heq => cases heq
    · next heq => exact absurd (Option.some.inj heq) (hne (by decide))
    · next heq => exact absurd (Option.some.inj heq) (hne (by decide))
    · next heq => exact absurd (Option.some.inj heq) (hne (by decide))
    · next heq => exact absurd (Option.some.inj heq) (hne (by decide))
    · next heq => exact absurd (Option.some.inj heq) (hne (by decide))
    · next heq => exact absurd (Option.some.inj heq) (hne (by decide))
    · rfl

theorem run_freshToken_of_word {spaces : Nat} (hword : IsLiteralWord word)
    (hrest : EndsWord rest) :
    (freshToken script close .bare).run
        (inputOf (List.replicate spaces ' ' ++ (word ++ rest)) pushed) =
      .ok ((.word (plainWord word), false), inputOf rest pushed) := by
  obtain ⟨c, chars, rfl⟩ := List.exists_cons_of_ne_nil hword.not_empty
  have hbegins : BeginsWord (c :: chars ++ rest) := by
    intro d hd
    refine ⟨hword.literal d (by simpa using .inl (Option.some.inj hd).symm), ?_⟩
    rintro rfl
    exact hword.no_comment hd
  rw [run_freshToken hbegins]
  simp only [List.cons_append]
  rw [← List.cons_append, run_bind_of_ok (run_wordToken hword.literal hrest)]
  rfl

theorem run_freshToken_of_blank {spaces : Nat} :
    (freshToken script close .bare).run (inputOf (List.replicate spaces ' ') pushed) =
      .ok ((.finish, false), inputOf [] pushed) := by
  have hblank := @run_freshToken [] pushed script close spaces fun c hc => by cases hc
  rwa [List.append_nil] at hblank

/-! ## Tokens where they stand -/

/-- A token that is taken for what it is: it ends the text, or is a word that is no keyword where
keywords are expected. -/
inductive Settles (expectsKeywords : Bool) : Token → Prop
  | finish : Settles expectsKeywords .finish
  | word {word : List Char} (h : expectsKeywords = true → String.ofList word ∉ keywords) :
      Settles expectsKeywords (.word (plainWord word))

variable {expecting : Expecting} {found : Token} {after : List Char} {level : Level}

theorem run_classify {input : Input} (h : Settles expecting.keywords found)
    (haliases : input.aliases = []) :
    (classify expecting found).run input = .ok (some found, input) := by
  cases h with
  | finish => rfl
  | @word word hkeyword =>
    have hno : (expecting.keywords && keywords.contains (String.ofList word)) = false := by
      rw [Bool.and_eq_false_imp]
      intro hexpected
      simpa using hkeyword hexpected
    unfold classify
    dsimp only
    rw [show (if (plainWord word).isQuoted = true then none else (plainWord word).plain?) =
      some (String.ofList word) from plain?_plainWord word]
    dsimp only
    rw [if_neg (Bool.eq_false_iff.mp hno)]
    split
    · rw [run_get_bind, haliases]
      rfl
    · rfl

theorem run_next_of_pushed (h : Settles expecting.keywords found) :
    (next level expecting).run (inputOf rest (some found)) = .ok (found, inputOf rest none) := by
  have hbound : 2 * (inputOf rest (some found)).rest.length +
      20 * ((inputOf rest (some found)).aliases.length + 1) = 2 * rest.length + 19 + 1 := rfl
  rw [next, token, run_get_bind, run_get_bind, hbound, tokenUpTo, run_get_bind]
  dsimp only [inputOf]
  rw [run_set_bind, pure_bind]
  cases h with
  | finish => rfl
  | word hkeyword =>
    dsimp only
    exact (run_bind_of_ok (run_classify (by exact .word hkeyword) rfl)).trans rfl

theorem run_next_of_fresh (h : Settles expecting.keywords found)
    (hfresh : (freshToken level.script level.close .bare).run (inputOf rest none) =
      .ok ((found, false), inputOf after none)) :
    (next level expecting).run (inputOf rest none) = .ok (found, inputOf after none) := by
  have hbound : 2 * (inputOf rest none).rest.length +
      20 * ((inputOf rest none).aliases.length + 1) = 2 * rest.length + 19 + 1 := rfl
  rw [next, token, run_get_bind, run_get_bind, hbound, tokenUpTo, run_get_bind]
  dsimp only [inputOf] at hfresh ⊢
  rw [run_bind_of_ok hfresh]
  cases h with
  | finish => rfl
  | word hkeyword =>
    dsimp only
    exact (run_bind_of_ok (run_classify (by exact .word hkeyword) rfl)).trans rfl

end Token

/-! ## One simple command -/

section Command

variable {level : Level} {text first : List Char} {words : List (List Char)} {line bound : Nat}

/-- The words of a text are literal. -/
def AreLiteral (text : List Char) : Prop := ∀ word ∈ wordsIn text, IsLiteralWord word

theorem AreLiteral.of_cons (h : AreLiteral text) (hwords : wordsIn text = word :: wordsIn rest) :
    IsLiteralWord word ∧ AreLiteral rest := by
  unfold AreLiteral at h
  rw [hwords] at h
  exact List.forall_mem_cons.mp h

/-- What is expected of the next word of a simple command. -/
def Simple.expecting (sofar : Simple) : Expecting :=
  if sofar.words.isEmpty then .name else .argument

theorem Simple.settles_expecting (sofar : Simple) (word : List Char) :
    Settles sofar.expecting.keywords (.word (plainWord word)) := .word (by
  unfold Simple.expecting
  split <;> exact Bool.noConfusion)

theorem run_simpleUpTo_of_word {sofar : Simple} {input later : Input}
    (hnext : (next level sofar.expecting).run input = .ok (.word (plainWord word), later))
    (hassign : sofar.words ≠ [] ∨ assignmentWord? (plainWord word).parts = none) :
    (simpleUpTo level line (bound + 1) sofar).run input =
      (simpleUpTo level line bound { sofar with words := plainWord word :: sofar.words }).run
        later := by
  have hnone : (if sofar.words.isEmpty then assignmentWord? (plainWord word).parts else none) =
      none := by
    rcases hassign with hwords | hassign
    · exact if_neg (by simpa using hwords)
    · rw [hassign, ite_self]
  rw [simpleUpTo.eq_def]
  dsimp only
  rw [show (if sofar.words.isEmpty = true then Expecting.name else .argument) = sofar.expecting
    from rfl, run_bind_of_ok hnext]
  dsimp only
  rw [hnone]

theorem run_simpleUpTo_of_finish {sofar : Simple} {input : Input}
    (hnext : (next level sofar.expecting).run input = .ok (.finish, inputOf [] none)) :
    (simpleUpTo level line (bound + 1) sofar).run input =
      .ok (.simple line sofar.assignments.reverse (sofar.words.reverse.map RawWord.parts)
          sofar.redirections.reverse, inputOf [] (some .finish)) := by
  rw [simpleUpTo.eq_def]
  dsimp only
  rw [show (if sofar.words.isEmpty = true then Expecting.name else .argument) = sofar.expecting
    from rfl, run_bind_of_ok hnext]
  rfl

theorem run_simpleUpTo {sofar : Simple} (hplain : AreLiteral text) (hwords : wordsIn text = words)
    (hsofar : sofar.words ≠ []) (hbound : words.length < bound) :
    (simpleUpTo level line bound sofar).run (inputOf text none) =
      .ok (.simple line sofar.assignments.reverse
          (sofar.words.reverse.map RawWord.parts ++ words.map partsOf)
          sofar.redirections.reverse,
        inputOf [] (some .finish)) := by
  induction words generalizing text sofar bound with
  | nil =>
    obtain ⟨bound, rfl⟩ : ∃ less, bound = less + 1 := ⟨bound - 1, by omega⟩
    rcases cases_wordsIn text with ⟨spaces, rfl, -⟩ | ⟨spaces, word, rest, -, -, -, hcons⟩
    · rw [run_simpleUpTo_of_finish (run_next_of_fresh .finish run_freshToken_of_blank),
        List.map_nil, List.append_nil]
    · cases hwords.symm.trans hcons
  | cons word words ih =>
    obtain ⟨bound, rfl⟩ : ∃ less, bound = less + 1 := ⟨bound - 1, by omega⟩
    rcases cases_wordsIn text with ⟨spaces, -, hnil⟩ | ⟨spaces, found, rest, rfl, -, hrest, hcons⟩
    · cases hwords.symm.trans hnil
    · obtain ⟨rfl, rfl⟩ := List.cons.inj (hwords.symm.trans hcons)
      obtain ⟨hword, hplain⟩ := hplain.of_cons hcons
      rw [run_simpleUpTo_of_word (run_next_of_fresh (sofar.settles_expecting word)
          (run_freshToken_of_word hword hrest)) (.inl hsofar),
        ih hplain rfl (List.cons_ne_nil _ _) (by simpa using hbound)]
      simp [plainWord]

theorem run_push_bind {next : PUnit → Reading β} {found : Token} :
    (push found >>= next).run (inputOf rest pushed) = (next ⟨⟩).run (inputOf rest (some found)) :=
  rfl

theorem run_command (hassign : ¬Assigns word) (hplain : AreLiteral rest) :
    (command level).run (inputOf rest (some (.word (plainWord word)))) =
      .ok (.simple 1 [] ((word :: wordsIn rest).map partsOf) [],
        inputOf [] (some .finish)) := by
  have hlength := length_wordsIn_le rest
  rw [command, run_get_bind, run_bind_of_ok (run_next_of_pushed (.word Bool.noConfusion))]
  dsimp only
  rw [run_push_bind, run_get_bind,
    run_simpleUpTo_of_word (run_next_of_pushed (Simple.settles_expecting _ word))
      (.inr (assignmentWord?_partsOf hassign)),
    run_simpleUpTo hplain rfl (List.cons_ne_nil _ _) (by simp [inputOf]; omega)]
  rfl

theorem run_readDocuments {script : Reading (Option Command)} {close : Reading Unit} :
    (readDocuments script close).run (inputOf rest pushed) = .ok ((), inputOf rest pushed) := rfl

section Line

variable {run : Command}
  (hcommand : level.command.run (inputOf rest (some (.word (plainWord word)))) =
    .ok (run, inputOf [] (some .finish)))
include hcommand

theorem run_pipeline (hkeyword : String.ofList word ∉ keywords) :
    (pipeline level).run (inputOf rest (some (.word (plainWord word)))) =
      .ok (run, inputOf [] (some .finish)) := by
  have hmore {bound : Nat} : (pipedUpTo level (bound + 1)).run (inputOf [] (some .finish)) =
      .ok ([], inputOf [] (some .finish)) := by
    rw [pipedUpTo, run_bind_of_ok (run_next_of_pushed .finish)]
    rfl
  rw [pipeline, run_bind_of_ok (run_next_of_pushed (.word fun _ => hkeyword))]
  dsimp only
  rw [if_neg Bool.false_ne_true, run_push_bind, run_bind_of_ok hcommand, run_get_bind,
    run_bind_of_ok hmore]
  rfl

theorem run_chain (hkeyword : String.ofList word ∉ keywords) :
    (chain level).run (inputOf rest (some (.word (plainWord word)))) =
      .ok (run, inputOf [] (some .finish)) := by
  rw [chain, run_bind_of_ok (run_pipeline hcommand hkeyword), run_get_bind, chainUpTo,
    run_bind_of_ok (run_next_of_pushed .finish)]
  rfl

theorem run_list {text : List Char} (hkeyword : String.ofList word ∉ keywords)
    (hnext : (next level .command).run (inputOf text none) =
      .ok (.word (plainWord word), inputOf rest none)) :
    (list level .line).run (inputOf text none) =
      .ok ((some run, true), inputOf [] (some .finish)) := by
  have hend : (next level .argument).run (inputOf [] (some .finish)) =
      .ok (.finish, inputOf [] none) := run_next_of_pushed .finish
  rw [list, run_get_bind, listUpTo.eq_def]
  dsimp only
  rw [if_pos rfl, run_bind_of_ok hnext]
  dsimp only
  rw [run_push_bind, Bool.false_and, Bool.false_and, if_neg Bool.false_ne_true, run_get_bind,
    run_bind_of_ok (run_chain hcommand hkeyword), run_bind_of_ok hend]
  dsimp only
  rw [run_bind_of_ok run_readDocuments]
  rfl

end Line

end Command

end Run

end Reading

open Reading in
theorem readLine_of_literal {text : String} {first : List Char} {words : List (List Char)}
    (hplain : AreLiteral text.toList) (hwords : wordsIn text.toList = first :: words)
    (hassign : ¬Assigns first) (hkeyword : String.ofList first ∉ keywords) :
    readLine (Input.ofText text #[] []) =
      .ok (some ⟨some (.simple 1 [] ((first :: words).map partsOf) []), true⟩,
        inputOf [] (some .finish)) := by
  rcases cases_wordsIn text.toList with ⟨spaces, -, hnil⟩ |
    ⟨spaces, found, rest, htext, -, hrest, hcons⟩
  · cases hwords.symm.trans hnil
  · obtain ⟨rfl, rfl⟩ := List.cons.inj (hwords.symm.trans hcons)
    obtain ⟨hword, hplain⟩ := hplain.of_cons hcons
    have hnext : (next (levelOf maxNesting) .command).run (inputOf text.toList none) =
        .ok (.word (plainWord first), inputOf rest none) := by
      rw [htext]
      exact run_next_of_fresh (.word fun _ => hkeyword) (run_freshToken_of_word hword hrest)
    have hcommand : (levelOf maxNesting).command.run
        (inputOf rest (some (.word (plainWord first)))) = .ok (_, inputOf [] (some .finish)) :=
      @run_command rest first (levelOf (maxNesting - 1)) hassign hplain
    have hlist := run_list hcommand hkeyword hnext
    unfold readLine
    dsimp only
    rw [show ({ Input.ofText text #[] [] with pushed := none, pending := [] } : Input) =
      inputOf text.toList none from rfl, hlist]
    rfl

end Shell

end TestCursor
