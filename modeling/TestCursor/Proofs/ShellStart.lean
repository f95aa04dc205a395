import TestCursor.Proofs.Lookup
import TestCursor.Proofs.ShellCalls

/-!
# New shells

A new shell that gets a line behind `-c` takes it for its script, unless the line reads as options.
A line that calls a program is run as this call.

1. A process that becomes a shell has no aliases, functions and options
   (`exists_run_becomeShell`).
2. It takes the line for its script (`run_takeShellArguments`), and reads it to its end
   (`run_nextLine`).
3. So the program that the line calls is run, as the last command of the script
   (`startsProgram_of_calls`). A line of literal words whose first is a path calls the program there
   (`startsProgram_of_literal`).
-/

namespace TestCursor

namespace Shell

/-! ## The process of a shell -/

section Process

variable {α : Type} {machine : Machine} {p : Process} {name other : String}

theorem lookup_putPair_of_ne {value : α} {pairs : List (String × α)} (h : name ≠ other) :
    (putPair other value pairs).lookup name = pairs.lookup name := by
  induction pairs with
  | nil => rw [putPair, lookup_cons_eq_ite, if_neg h]
  | cons pair pairs ih =>
    obtain ⟨first, old⟩ := pair
    unfold putPair
    split
    · next heq => rw [lookup_cons_eq_ite, lookup_cons_eq_ite, heq, if_neg h, if_neg h]
    · rw [lookup_cons_eq_ite, lookup_cons_eq_ite, ih]

theorem valueOf?_define_of_ne {value : String} {isExported : Bool} (h : name ≠ other) :
    (p.define other value isExported).valueOf? name = p.valueOf? name :=
  congrArg (Option.bind · Variable.value) (lookup_putPair_of_ne h)

theorem valueOf?_of_kept {bindings : List (String × Variable)} {keeps : String × Variable → Bool}
    {change : String × Variable → Variable}
    (hkept : p.bindings = (bindings.filter keeps).map fun entry => (entry.1, change entry))
    (h : name ∉ bindings.map Prod.fst) : p.valueOf? name = none := by
  have hnone : p.bindings.lookup name = none := by
    rw [lookup_eq_none_iff_not_mem, hkept, List.map_map]
    intro hmem
    obtain ⟨entry, hentry, rfl⟩ := List.mem_map.mp hmem
    exact h (List.mem_map.mpr ⟨entry, (List.mem_filter.mp hentry).1, rfl⟩)
  rw [Process.valueOf?, hnone, Option.bind_none]

theorem run_modifyProcess_bind {change : Process → Process} {next : PUnit → Act α} :
    (Act.modifyProcess change >>= next).run.run machine =
      (next ⟨⟩).run.run { machine with process := change machine.process } := rfl

/-- Without a spelling of it in the environment the current directory is spelled anew. -/
theorem run_directoryText (h : machine.process.valueOf? "PWD" = none) :
    Act.directoryText.run.run machine =
      (.ok (Octets.encode (FileTree.pathOf machine.process.cwd)), machine) := by
  unfold Act.directoryText
  rw [run_process_bind, h]
  rfl

/-- A machine whose shell has no settings of its own and is at the beginning of its script. -/
structure IsFresh (machine : Machine) : Prop where
  no_documents : machine.documents = #[]
  no_aliases : machine.process.aliases = []
  no_functions : machine.process.functions = []
  no_options : machine.process.options = []
  first_line : machine.process.scriptLine = 1

/-- Variables are no such settings. -/
theorem IsFresh.of_define {value : String} {isExported : Bool}
    (h : IsFresh { machine with process := p }) :
    IsFresh { machine with process := p.define name value isExported } :=
  ⟨h.no_documents, h.no_aliases, h.no_functions, h.no_options, h.first_line⟩

theorem IsFresh.run_hasOption (h : IsFresh machine) (letter : Char) :
    (Act.hasOption letter).run.run machine = (.ok false, machine) := by
  show (Except.ok (machine.process.options.contains letter), machine) = _
  rw [h.no_options]
  rfl

theorem IsFresh.callsPath (h : IsFresh machine) (path : String) : CallsPath machine path where
  no_function := by rw [h.no_functions]; rfl
  no_trace := by rw [h.no_options]; rfl

theorem exists_run_becomeShell (hdocuments : machine.documents = #[])
    (hdirectory : "PWD" ∉ machine.process.bindings.map Prod.fst) (name : String) :
    ∃ begun, (Act.becomeShell name).run.run machine = (.ok (), begun) ∧ IsFresh begun := by
  unfold Act.becomeShell
  rw [run_modifyProcess_bind, act_bind_of_ok (run_directoryText ?_)]
  · refine ⟨_, rfl, .of_define ?_⟩
    dsimp only
    split
    · exact ⟨hdocuments, rfl, rfl, rfl, rfl⟩
    · exact ⟨hdocuments, rfl, rfl, rfl, rfl⟩
  · dsimp only
    split
    · iterate 6 rw [valueOf?_define_of_ne (by decide)]
      exact valueOf?_of_kept rfl hdirectory
    · iterate 7 rw [valueOf?_define_of_ne (by decide)]
      exact valueOf?_of_kept rfl hdirectory

end Process

section NewShell

variable {env : Environment} {tree : FileTree} {cwd : Location}

def newShell (env : Environment) (tree : FileTree) (cwd : Location) : Machine :=
  ((Act.becomeShell "sh").run.run (startMachine env tree cwd)).2

theorem run_becomeShell_startMachine :
    (Act.becomeShell "sh").run.run (startMachine env tree cwd) = (.ok (), newShell env tree cwd) ∧
      IsFresh (newShell env tree cwd) := by
  have hdirectory : "PWD" ∉ (startBindings env).map Prod.fst := by
    cases hvirtual : env.virtualEnv <;> cases hconda : env.condaPrefix <;>
      simp [startBindings, hvirtual, hconda]
  obtain ⟨begun, hrun, hfresh⟩ :=
    @exists_run_becomeShell (startMachine env tree cwd) rfl hdirectory "sh"
  have hbegun : newShell env tree cwd = begun := congrArg Prod.snd hrun
  rw [hbegun]
  exact ⟨hrun, hfresh⟩

end NewShell

/-! ## The script -/

section Script

variable {machine : Machine} {text : String}

/-- A word that a shell takes for options. -/
def IsOption (word : List Char) : Prop := word.head? = some '-' ∨ word.head? = some '+'

theorem run_takeShellArguments (h : ¬IsOption text.toList) :
    (Act.takeShellArguments ["-c", text]).run.run machine = (.ok (.text text), machine) := by
  have hscript : (Act.shellOptions 1 [text] (true, false)).run.run machine =
      (.ok ([text], true, false), machine) := by
    unfold Act.shellOptions
    split
    · next heq => exact absurd (.inl (heq ▸ rfl)) h
    · next heq => exact absurd (.inl (heq ▸ rfl)) h
    · next heq => exact absurd (.inl (heq ▸ rfl)) h
    · next heq => exact absurd (.inr (heq ▸ rfl)) h
    · rfl
  have hletters : (Act.shellLetters true ['c'] [text] (false, false)).run.run machine =
      (.ok ([text], true, false), machine) := rfl
  have hoptions : (Act.shellOptions 2 ["-c", text] (false, false)).run.run machine =
      (.ok ([text], true, false), machine) := by
    have hchars : "-c".toList = ['-', 'c'] := rfl
    rw [Act.shellOptions, hchars]
    exact (act_bind_of_ok hletters).trans hscript
  exact (act_bind_of_ok hoptions).trans rfl

/-- A text of one line is read to its end, and nothing else changes. -/
theorem run_nextLine {input : Input} {line : Option Line} (hfresh : IsFresh machine)
    (hread : readLine { input with documents := #[], aliases := [] } =
      .ok (line, Reading.inputOf [] (some .finish))) :
    (Act.nextLine input []).run.run machine =
      (.ok (line, Reading.inputOf [] (some .finish), []), machine) := by
  have hget : (get : Act Machine).run.run machine = (.ok machine, machine) := rfl
  have hshown : (Act.showBegun [] (Reading.inputOf [] (some .finish)).left).run.run machine =
      (.ok [], machine) := (act_bind_of_ok (hfresh.run_hasOption 'v')).trans rfl
  unfold Act.nextLine
  rw [act_bind_of_ok hget]
  simp only [hfresh.no_documents, hfresh.no_aliases, hread]
  rw [act_bind_of_ok hshown]
  have hsame :
      { machine with documents := #[], process := { machine.process with scriptLine := 1 } } =
      machine := by
    rw [← hfresh.no_documents, ← hfresh.first_line]
  exact congrArg (Prod.mk _) hsame

/-- What a shell does behind a simple command. -/
def afterCommand (utilities : Utilities) (depth : Nat) : Act Unit := do
  Act.handleSignals (evaluate utilities depth)
  if (← Act.status) != 0 then
    if ← Act.hasOption 'e' then throw .exited

/-- What a shell does behind the one command of its script. -/
def endOfScript (utilities : Utilities) (depth bound : Nat) : Act Unit := do
  afterCommand utilities depth
  let hasRun ← Act.runLines (evaluate utilities (depth + 1)) ⟨true, false⟩ bound true
    (Reading.inputOf [] (some .finish)) []
  if !hasRun then Act.setStatus 0

/-- A new shell that is given a line runs the program at a path as the last command of its script,
with the path and the arguments as its words. -/
def StartsProgram (line path : String) (args : List String) : Prop :=
  ∀ utilities depth env tree cwd,
    (Act.runShell (evaluate utilities (depth + 1)) ["sh", "-c", Octets.encode line]).run.run
        (startMachine env tree cwd) =
      (Act.andAlways
        (do
          Act.withFrame (Evaluation.callProgram utilities (evaluate utilities depth) ⟨true, false⟩
            (Octets.encode path) ((path :: args).map Octets.encode))
          endOfScript utilities depth ((Octets.encode line).length + 1))
        (Act.modifyProcess fun p => { p with scriptLine := 1 })).run.run
          ((newShell env tree cwd).atLine 1)

theorem run_runLines {line path : String} {args : List String} (h : Calls line path args)
    (hfresh : IsFresh machine) (utilities : Utilities) (depth bound : Nat) :
    (do
      let hasRun ← Act.runLines (evaluate utilities (depth + 1)) ⟨true, false⟩ (bound + 1) false
        (Input.ofText (Octets.encode line) #[] []) []
      if !hasRun then Act.setStatus 0 : Act Unit).run.run machine =
      (do
        Act.withFrame (Evaluation.callProgram utilities (evaluate utilities depth) ⟨true, false⟩
          (Octets.encode path) ((path :: args).map Octets.encode))
        endOfScript utilities depth bound : Act Unit).run.run (machine.atLine 1) := by
  obtain ⟨words, hread, hrun⟩ := h
  have hline := @run_nextLine machine (Input.ofText (Octets.encode line) #[] []) _ hfresh hread
  have hcalled := hrun utilities (evaluate utilities depth) ⟨true, false⟩ machine
    (hfresh.callsPath _)
  rw [Act.runLines, bind_assoc, act_bind_of_ok hline]
  dsimp only
  rw [evaluate, Evaluation.runCommand, bind_assoc, bind_assoc,
    act_bind_of_ok (hfresh.run_hasOption 'n'), if_neg Bool.false_ne_true, Bool.true_and, bind_assoc,
    Evaluation.runPlain, run_bind_congr hcalled]
  rfl

theorem startsProgram_of_calls {line path : String} {args : List String} (h : Calls line path args)
    (hoption : ¬IsOption line.toList) : StartsProgram line path args := by
  intro utilities depth env tree cwd
  have hscript : ¬IsOption (Octets.encode line).toList := by
    rw [Octets.toList_encode]
    exact mt (Or.imp (Octets.head?_of_ofText (by decide)) (Octets.head?_of_ofText (by decide)))
      hoption
  obtain ⟨hbecome, hfresh⟩ := @run_becomeShell_startMachine env tree cwd
  generalize newShell env tree cwd = begun at hbecome hfresh ⊢
  have hbegun : IsFresh { begun with process := { begun.process with line := 0 } } :=
    ⟨hfresh.no_documents, hfresh.no_aliases, hfresh.no_functions, hfresh.no_options,
      hfresh.first_line⟩
  unfold Act.runShell
  rw [List.headD_cons, act_bind_of_ok hbecome, run_modifyProcess_bind, List.drop_succ_cons,
    List.drop_zero, act_bind_of_ok (run_takeShellArguments hscript)]
  dsimp only
  unfold Act.runText Act.runScript
  have houter : (Act.modifyProcess fun p => { p with scriptLine := begun.process.scriptLine }) =
      Act.modifyProcess fun p => { p with scriptLine := 1 } := by rw [hfresh.first_line]
  rw [run_process_bind, if_neg Bool.false_ne_true]
  dsimp only
  rw [houter]
  exact run_andAlways_congr (run_runLines h hbegun utilities depth _)

/-- A line of literal words whose first is a path starts the program there, with these words. -/
theorem startsProgram_of_literal {line path : String} {args : List String}
    (hwords : wordsOf line = path :: args)
    (hliteral : ∀ word ∈ wordsOf line, IsLiteralWord word.toList) (hslash : '/' ∈ path.toList)
    (hassign : ¬Assigns path.toList) (hoption : ¬IsOption path.toList) :
    StartsProgram line path args := by
  refine startsProgram_of_calls (calls_of_literal hwords hliteral hslash hassign) ?_
  have hfirst : (wordsIn line.toList).map String.ofList = path :: args := by
    rw [← wordsOf_eq_map, hwords]
  obtain ⟨word, words, hcons, rfl, -⟩ := List.map_eq_cons_iff.mp hfirst
  rw [String.toList_ofList] at hoption
  exact mt (Or.imp (head?_of_wordsIn hcons (by decide)) (head?_of_wordsIn hcons (by decide)))
    hoption

end Script

end Shell

end TestCursor
