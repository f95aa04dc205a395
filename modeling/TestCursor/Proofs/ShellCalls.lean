import TestCursor.Proofs.EncodedText
import TestCursor.Proofs.ShellWords
import TestCursor.Shell.Run

/-!
# Calls of programs

A shell that is given a line of literal words whose first one is a path runs the program at that
path, and the program gets these words.

1. Text that is not quoted stays one field unless something was put in place of a part of it
   (`fieldsOf_solid`), so a literal word is expanded to itself (`run_expandWord`).
2. By induction on the words of a command the words of its call are those that were read
   (`run_expandCall`). A call by a path passes over functions, builtins and the search for a program
   (`run_runCall`).
3. What the shell reads are bytes. Those of a literal word are one (`IsLiteralWord.ofText`), and the
   line has the bytes of its words, so that it is the call that its words say
   (`calls_of_literal`).
-/

namespace TestCursor

namespace Shell

/-! ## Words that are expanded to themselves -/

section Expansion

variable {α β : Type} {capture : Capture} {machine later : Machine} {word text : List Char}
  {runs : List Run}

theorem act_bind_of_ok {act : Act α} {next : α → Act β} {result : α}
    (h : act.run.run machine = (.ok result, later)) :
    (act >>= next).run.run machine = (next result).run.run later := by
  rw [ExceptT.run_bind, StateT.run_bind, h]
  rfl

theorem run_bind_congr {act other : Act α} {next : α → Act β}
    (h : act.run.run machine = other.run.run later) :
    (act >>= next).run.run machine = (other >>= next).run.run later := by
  rw [ExceptT.run_bind, ExceptT.run_bind, StateT.run_bind, StateT.run_bind, h]

theorem run_process_bind {next : Process → Act α} :
    (Act.process >>= next).run.run machine = (next machine.process).run.run machine := rfl

/-- Plain text has no home directory in it, unless a tilde begins its word. -/
theorem homeRuns_of_literal {isStart : Bool} (h : isStart = true → text.head? ≠ some '~')
    (process : Process) (isEnd : Bool) :
    homeRuns process .full isStart isEnd (String.ofList text) =
      [⟨.solid, glyphsOf false (String.ofList text)⟩] := by
  unfold homeRuns
  simp only [Manner.full, String.toList_ofList, Bool.false_eq_true, if_false,
    show (Homes.atStart == Homes.nowhere) = false from rfl,
    show (Homes.atStart == Homes.inList) = false from rfl, Bool.false_or]
  split
  · rfl
  · cases text with
    | nil => rfl
    | cons c rest =>
      by_cases hc : c = '~'
      · subst hc
        have hinside : isStart = false := by
          cases isStart with
          | true => exact absurd rfl (h rfl)
          | false => rfl
        subst hinside
        rfl
      · rw [homeRuns.go]
        · rfl
        · exact fun after heq => hc (List.cons.inj heq).1

theorem foldl_run_solid (hsolid : ∀ run ∈ runs, run.kind = .solid) (separators : List Char)
    (cutter : Cutter) :
    runs.foldl (Cutter.run separators) cutter =
      { cutter with current := (runs.flatMap Run.glyphs).reverse ++ cutter.current } := by
  induction runs generalizing cutter with
  | nil => rfl
  | cons run runs ih =>
    obtain ⟨hrun, hsolid⟩ := List.forall_mem_cons.mp hsolid
    rw [List.foldl_cons, ih hsolid, Cutter.run, hrun]
    simp

theorem fieldsOf_solid (hsolid : ∀ run ∈ runs, run.kind = .solid)
    (hne : runs.flatMap Run.glyphs ≠ []) (separators : String) :
    fieldsOf separators runs = [runs.flatMap Run.glyphs] := by
  rw [fieldsOf, foldl_run_solid hsolid, Cutter.finish]
  simp only [Cutter.start, List.append_nil, List.reverse_reverse, List.isEmpty_reverse]
  rw [if_pos (by simpa using hne)]
  rfl

theorem globOf_glyphsOf (isQuoted : Bool) (text : String) :
    globOf (glyphsOf isQuoted text) = text.toList.map fun c => (c, isQuoted) := by
  unfold globOf glyphsOf
  rw [List.filterMap_map, ← List.filterMap_eq_map]
  rfl

theorem textOf_glyphsOf (isQuoted : Bool) (text : String) :
    textOf (glyphsOf isQuoted text) = text := by
  unfold textOf Glob.text
  rw [globOf_glyphsOf, List.map_map]
  show String.ofList (text.toList.map id) = text
  rw [List.map_id, String.ofList_toList]

theorem pathsOf_literal (hword : ∀ c ∈ word, isLiteral c = true) (tree : FileTree)
    (cwd : Location) :
    pathsOf tree cwd (glyphsOf false (String.ofList word)) = [String.ofList word] := by
  have hplain : (globOf (glyphsOf false (String.ofList word))).hasWildcard = false := by
    rw [globOf_glyphsOf, String.toList_ofList, Glob.hasWildcard, List.any_map, List.any_eq_false]
    intro c hc hwild
    have hne {d : Char} (hd : isLiteral d = false) : c ≠ d := ne_of_isLiteral (hword c hc) hd
    simp at hwild
    rcases hwild with rfl | rfl | rfl <;> exact hne (by decide) rfl
  unfold pathsOf
  dsimp only
  rw [hplain, Bool.false_and, if_neg Bool.false_ne_true]
  exact congrArg (fun text => [text]) (textOf_glyphsOf false _)

theorem run_expandParts_cons {isStart : Bool} {rest : List Part}
    (h : isStart = true → text.head? ≠ some '~')
    (hrest : (expandParts capture .full false rest).run.run machine = (.ok runs, machine)) :
    (expandParts capture .full isStart (.plain (String.ofList text) :: rest)).run.run machine =
      (.ok (⟨.solid, glyphsOf false (String.ofList text)⟩ :: runs), machine) := by
  have hpart : (expandPart capture .full isStart rest.isEmpty
      (.plain (String.ofList text))).run.run machine =
        (.ok [⟨.solid, glyphsOf false (String.ofList text)⟩], machine) := by
    rw [expandPart, run_process_bind, homeRuns_of_literal h]
    rfl
  rw [expandParts, act_bind_of_ok hpart, act_bind_of_ok hrest]
  rfl

theorem glyphsOf_append (isQuoted : Bool) (front back : List Char) :
    glyphsOf isQuoted (String.ofList (front ++ back)) =
      glyphsOf isQuoted (String.ofList front) ++ glyphsOf isQuoted (String.ofList back) := by
  unfold glyphsOf
  rw [String.toList_ofList, String.toList_ofList, String.toList_ofList, List.map_append]

theorem run_expandParts {isStart : Bool} (h : isStart = true → word.head? ≠ some '~') :
    ∃ runs, (expandParts capture .full isStart (partsOf word)).run.run machine =
        (.ok runs, machine) ∧
      (∀ run ∈ runs, run.kind = .solid) ∧
      runs.flatMap Run.glyphs = glyphsOf false (String.ofList word) := by
  fun_induction partsOf word generalizing isStart with
  | case1 => exact ⟨[], rfl, by simp, rfl⟩
  | case2 c word hc ih =>
    obtain ⟨runs, hrest, hsolid, hglyphs⟩ := @ih false Bool.noConfusion
    refine ⟨_, run_expandParts_cons h hrest, List.forall_mem_cons.mpr ⟨rfl, hsolid⟩, ?_⟩
    rw [List.flatMap_cons, hglyphs, ← glyphsOf_append, List.cons_append,
      List.takeWhile_append_dropWhile]
  | case3 c word hc ih =>
    obtain ⟨runs, hrest, hsolid, hglyphs⟩ := @ih false Bool.noConfusion
    refine ⟨_, run_expandParts_cons h hrest, List.forall_mem_cons.mpr ⟨rfl, hsolid⟩, ?_⟩
    rw [List.flatMap_cons, hglyphs, ← glyphsOf_append, List.singleton_append]

theorem run_expandWord (h : IsLiteralWord word) :
    (expandWord capture (partsOf word)).run.run machine = (.ok [String.ofList word], machine) := by
  have hget : (get : Act Machine).run.run machine = (.ok machine, machine) := rfl
  have hoption : (Act.hasOption 'f').run.run machine =
      (.ok (machine.process.options.contains 'f'), machine) := rfl
  obtain ⟨runs, hruns, hsolid, hglyphs⟩ :=
    @run_expandParts capture machine word true fun _ => h.no_tilde
  have hne : runs.flatMap Run.glyphs ≠ [] := by
    rw [hglyphs]
    simpa [glyphsOf] using h.not_empty
  rw [expandWord, act_bind_of_ok hruns, act_bind_of_ok hget]
  dsimp only
  rw [act_bind_of_ok hoption, fieldsOf_solid hsolid hne, hglyphs]
  split
  · rw [List.map_singleton, textOf_glyphsOf]
    rfl
  · rw [List.flatMap_singleton, pathsOf_literal h.literal]
    rfl

/-- The name of a command behind which words are not read as assignments. -/
def IsPlainName (name : String) : Prop := name ≠ "command" ∧ name ∉ assigningNames

theorem run_expandCall {run : Runner} {done : List String} {words : List (List Char)}
    (hwords : ∀ word ∈ words, IsLiteralWord word)
    (hname : ∀ name, (done ++ words.map String.ofList).head? = some name → IsPlainName name) :
    (Evaluation.expandCall run done (words.map partsOf)).run.run machine =
      (.ok (done ++ words.map String.ofList), machine) := by
  induction words generalizing done with
  | nil =>
    rw [List.map_nil, List.map_nil, List.append_nil]
    rfl
  | cons word words ih =>
    obtain ⟨hword, hwords⟩ := List.forall_mem_cons.mp hwords
    have hrest := @ih (done ++ [String.ofList word]) hwords (by simpa using hname)
    rw [List.append_assoc, List.singleton_append, ← List.map_cons] at hrest
    rw [List.map_cons, Evaluation.expandCall.eq_def]
    dsimp only
    cases done with
    | nil =>
      simp only [List.dropWhile_nil, pure_bind, Bool.false_and, Bool.false_eq_true, if_false]
      rw [act_bind_of_ok (run_expandWord hword)]
      exact hrest
    | cons name rest =>
      obtain ⟨hcommand, hassigning⟩ := hname name rfl
      have hplain : assigningNames.contains name = false := by simpa using hassigning
      have hdrop : (name :: rest).dropWhile (· == "command") = name :: rest :=
        List.dropWhile_cons_of_neg (by simpa using hcommand)
      simp only [hdrop, hplain, pure_bind, Bool.false_and, Bool.false_eq_true, if_false]
      rw [run_process_bind, act_bind_of_ok (run_expandWord hword)]
      exact hrest

end Expansion

/-! ## The call of a program -/

section Call

variable {utilities : Utilities} {run : Runner} {place : Place} {machine : Machine}
  {path : String} {args : List String}

theorem not_mem_of_slash {names : List String} (h : '/' ∈ path.toList)
    (hnames : ∀ name ∈ names, '/' ∉ name.toList) : path ∉ names :=
  fun hpath => hnames path hpath h

/-- A machine in which a command that begins with a path runs the program there: no function has
this name, and commands are not shown before they run. -/
structure CallsPath (machine : Machine) (path : String) : Prop where
  no_function : machine.process.functions.lookup path = none
  no_trace : machine.process.options.contains 'x' = false

/-- A machine at the line of a command that begins. -/
def Machine.atLine (machine : Machine) (line : Nat) : Machine :=
  { machine with process := { machine.process with line := line, outputStatus := 0 } }

theorem CallsPath.atLine (h : CallsPath machine path) (line : Nat) :
    CallsPath (machine.atLine line) path := ⟨h.no_function, h.no_trace⟩

theorem run_trace {errors : Option Nat} {words : List String}
    (h : machine.process.options.contains 'x' = false) :
    (Evaluation.trace run errors words).run.run machine = (.ok (), machine) := by
  have hoption : (Act.hasOption 'x').run.run machine = (.ok false, machine) := by
    rw [← h]
    rfl
  unfold Evaluation.trace
  rw [act_bind_of_ok hoption]
  rfl

theorem run_andAlways_congr {α : Type} {act other : Act α} {last : Act Unit} {later : Machine}
    (h : act.run.run machine = other.run.run later) :
    (Act.andAlways act last).run.run machine = (Act.andAlways other last).run.run later := by
  unfold Act.andAlways
  rw [ExceptT.run_bind, ExceptT.run_bind, StateT.run_bind, StateT.run_bind, ExceptT.run_tryCatch,
    ExceptT.run_tryCatch, StateT.run_bind, StateT.run_bind, h]

theorem run_withFrame_congr {α : Type} {act other : Act α}
    (h : ∀ framed : Machine, framed.process.options = machine.process.options →
      act.run.run framed = other.run.run framed) :
    (Act.withFrame act).run.run machine = (Act.withFrame other).run.run machine := by
  have hframe : (Act.modifyProcess fun p => { p with frames := ⟨[], none⟩ :: p.frames }).run.run
      machine = (.ok (), { machine with process := { machine.process with
        frames := ⟨[], none⟩ :: machine.process.frames } }) := rfl
  unfold Act.withFrame
  rw [act_bind_of_ok hframe, act_bind_of_ok hframe]
  exact run_andAlways_congr (h _ rfl)

theorem run_runCall {errors : Option Nat} (h : CallsPath machine path)
    (hslash : '/' ∈ path.toList) :
    (Evaluation.runCall utilities run place [] errors ⟨path :: args, true, false⟩).run.run machine =
      (Act.withFrame (Evaluation.callProgram utilities run place path (path :: args))).run.run
        machine := by
  have hspecial : specialNames.contains path = false := by
    simpa using (not_mem_of_slash hslash (by decide) : path ∉ specialNames)
  have hname : path ∉ ["command", "exec"] := not_mem_of_slash hslash (by decide)
  obtain ⟨hcommand, hexec⟩ : path ≠ "command" ∧ path ≠ "exec" := by simpa using hname
  have hcontains : path.contains '/' = true := by
    rw [String.contains_char_eq]
    exact decide_eq_true hslash
  unfold Evaluation.runCall
  dsimp only
  rw [run_process_bind]
  simp only [List.headD_cons, if_true, h.no_function, hspecial, Option.isNone_none, Bool.true_and,
    Bool.false_and, Bool.false_eq_true, if_false, hcommand, hexec, hcontains]
  refine run_withFrame_congr fun framed hoptions => ?_
  have htrace : (Evaluation.assignEach run (!false) [] >>= fun made =>
      Evaluation.trace run errors (made ++ path :: args)).run.run framed = (.ok (), framed) :=
    run_trace (by rw [hoptions, h.no_trace])
  rw [act_bind_of_ok htrace]

/-- Literal words whose first is a path call the program there, with these words. -/
theorem run_runSimple {words : List (List Char)} (line : Nat) (h : CallsPath machine path)
    (hslash : '/' ∈ path.toList) (hwords : ∀ word ∈ words, IsLiteralWord word)
    (hpath : words.map String.ofList = path :: args) :
    (Evaluation.runSimple utilities run place line [] (words.map partsOf) []).run.run machine =
      (Act.withFrame (Evaluation.callProgram utilities run place path (path :: args))).run.run
        (machine.atLine line) := by
  have hname : path ∉ ["command", "exec"] := not_mem_of_slash hslash (by decide)
  obtain ⟨hcommand, hexec⟩ : path ≠ "command" ∧ path ≠ "exec" := by simpa using hname
  have hline : (Act.modifyProcess fun p => { p with line := line, outputStatus := 0 }).run.run
      machine = (.ok (), machine.atLine line) := rfl
  have hcalls := h.atLine line
  generalize machine.atLine line = begun at hline hcalls ⊢
  have hopening : (Act.opening? 2).run.run begun = (.ok (begun.process.streams.lookup 2), begun) :=
    rfl
  have hexpand : (Evaluation.expandCall run [] (words.map partsOf)).run.run begun =
      (.ok (path :: args), begun) := by
    have hplain : IsPlainName path := ⟨hcommand, not_mem_of_slash hslash (by decide)⟩
    have hexpand := @run_expandCall begun run [] words hwords (by simpa [hpath] using hplain)
    rwa [List.nil_append, hpath] at hexpand
  have hresolve : Evaluation.Call.resolve (path :: args).length ⟨path :: args, true, false⟩ =
      ⟨path :: args, true, false⟩ := by
    rw [List.length_cons, Evaluation.Call.resolve]
    split
    · next heq => exact absurd (List.cons.inj heq).1 hcommand
    · rfl
  unfold Evaluation.runSimple
  rw [act_bind_of_ok hline, act_bind_of_ok hexpand, act_bind_of_ok hopening]
  dsimp only
  rw [hresolve]
  dsimp only
  rw [run_process_bind, if_neg (by simp [hexec])]
  exact run_runCall hcalls hslash

end Call

/-! ## Lines -/

section Line

variable {c : Char} {word text : List Char} {line path : String} {args : List String}

theorem isLiteral_of_not_ascii (h : 0x80 ≤ c.toNat) : isLiteral c = true := by
  have hascii : specialChars.all (·.toNat < 0x80) = true := by decide
  rw [isLiteral, Bool.not_eq_true', ← Bool.not_eq_true, List.contains_iff_mem]
  intro hmem
  exact absurd (of_decide_eq_true (List.all_eq_true.mp hascii c hmem)) (Nat.not_lt.mpr h)

theorem ascii_of_isNameChar (h : isNameChar c = true) : c.toNat < 0x80 := by
  show c.val.toNat < 0x80
  unfold isNameChar Char.isAlphanum Char.isAlpha Char.isUpper Char.isLower Char.isDigit at h
  simp only [Bool.or_eq_true, Bool.and_eq_true, decide_eq_true_eq, beq_iff_eq,
    UInt32.le_iff_toNat_le] at h
  rcases h with ((h | h) | h) | rfl
  · exact Nat.lt_of_le_of_lt h.2 (by decide)
  · exact Nat.lt_of_le_of_lt h.2 (by decide)
  · exact Nat.lt_of_le_of_lt h.2 (by decide)
  · decide

theorem isNameChar_of_isVariableName {name : List Char}
    (h : isVariableName (String.ofList name) = true) : ∀ c ∈ name, isNameChar c = true := by
  unfold isVariableName at h
  rw [String.toList_ofList] at h
  cases name with
  | nil => cases h
  | cons first rest =>
    obtain ⟨hfirst, hrest⟩ := Bool.and_eq_true_iff.mp h
    refine List.forall_mem_cons.mpr ⟨?_, List.all_eq_true.mp hrest⟩
    rw [startsName, Bool.or_eq_true] at hfirst
    rw [isNameChar, Char.isAlphanum, Bool.or_eq_true, Bool.or_eq_true]
    exact hfirst.imp_left .inl

theorem IsLiteralWord.ofText (h : IsLiteralWord word) : IsLiteralWord (Octets.ofText word) where
  not_empty := mt Octets.ofText_eq_nil_iff.mp h.not_empty
  literal c hc := by
    by_cases hascii : c.toNat < 0x80
    · exact h.literal c ((Octets.mem_ofText_iff hascii).mp hc)
    · exact isLiteral_of_not_ascii (Nat.not_lt.mp hascii)
  no_comment hhead := h.no_comment (Octets.head?_of_ofText (by decide) hhead)
  no_tilde hhead := h.no_tilde (Octets.head?_of_ofText (by decide) hhead)

theorem Assigns.of_ofText (h : Assigns (Octets.ofText text)) : Assigns text := by
  obtain ⟨name, value, htext, hname⟩ := h
  have hascii : ∀ c ∈ name ++ ['='], c.toNat < 0x80 := by
    rw [List.forall_mem_append]
    exact ⟨fun c hc => ascii_of_isNameChar (isNameChar_of_isVariableName hname c hc),
      List.forall_mem_singleton.mpr (by decide)⟩
  obtain ⟨back, rfl⟩ :=
    @Octets.eq_append_of_ofText text (name ++ ['=']) value hascii (by simpa using htext)
  exact ⟨name, back, by simp, hname⟩

/-- A shell takes a line for the call of the program at a path: it reads the line as one simple
command, and to run this command is to run the program there, with the path and the arguments as its
words. -/
def Calls (line path : String) (args : List String) : Prop :=
  ∃ words : List Word,
    readLine (Input.ofText (Octets.encode line) #[] []) =
      .ok (some ⟨some (.simple 1 [] words []), true⟩, Reading.inputOf [] (some .finish)) ∧
    ∀ utilities run place machine, CallsPath machine (Octets.encode path) →
      (Evaluation.runSimple utilities run place 1 [] words []).run.run machine =
        (Act.withFrame (Evaluation.callProgram utilities run place (Octets.encode path)
          ((path :: args).map Octets.encode))).run.run (machine.atLine 1)

/-- A line of literal words whose first is a path calls the program there, with these words. -/
theorem calls_of_literal (hwords : wordsOf line = path :: args)
    (hliteral : ∀ word ∈ wordsOf line, IsLiteralWord word.toList) (hslash : '/' ∈ path.toList)
    (hassign : ¬Assigns path.toList) : Calls line path args := by
  have hbytes : wordsIn (Octets.encode line).toList =
      (path :: args).map fun word => Octets.ofText word.toList := by
    rw [Octets.toList_encode, Octets.wordsIn_ofText, ← hwords, wordsOf_eq_map, List.map_map]
    exact List.map_congr_left fun word _ => congrArg Octets.ofText String.toList_ofList.symm
  have hplain : ∀ word ∈ (path :: args).map fun word => Octets.ofText word.toList,
      IsLiteralWord word := by
    rw [← hwords, List.forall_mem_map]
    exact fun word hword => (hliteral word hword).ofText
  have hencode (word : String) :
      String.ofList (Octets.ofText word.toList) = Octets.encode word := by
    rw [← Octets.toList_encode, String.ofList_toList]
  have hslash : '/' ∈ (Octets.encode path).toList := by
    rw [Octets.toList_encode]
    exact (Octets.mem_ofText_iff (by decide)).mpr hslash
  have hkeyword : String.ofList (Octets.ofText path.toList) ∉ keywords := by
    rw [hencode]
    exact not_mem_of_slash hslash (by decide)
  have hcalled : ((path :: args).map fun word => Octets.ofText word.toList).map String.ofList =
      (path :: args).map Octets.encode := by
    rw [List.map_map]
    exact List.map_congr_left fun word _ => hencode word
  refine ⟨_, readLine_of_literal ?_ hbytes (mt Assigns.of_ofText hassign) hkeyword,
    fun utilities run place machine hpath => run_runSimple 1 hpath hslash hplain hcalled⟩
  rwa [Reading.AreLiteral, hbytes]

end Line

end Shell

end TestCursor
