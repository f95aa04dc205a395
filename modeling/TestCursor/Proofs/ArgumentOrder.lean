import Mathlib.Data.List.Nodup
import Mathlib.Data.List.TakeWhile
import TestCursor.Cli.Grammar
import TestCursor.Proofs.Lookup

/-!
# Options and operands in any order

What stands behind a command asks for the same in every order, and in every spelling.

1. An option that was named waits for its value, and then for the end of its turn: it is recorded
   only when the next word comes. Taking in the words of a part and ending the turn then is the
   same as ending the turn first and recording the part at once (`takeAll_spells`). So, by induction
   on the parts, words are recorded as their parts one after the other (`takeAll_spellAll`).
2. Parts of which no two are of one option are recorded as they stand (`recordAll_of_nodup`), and
   otherwise the second of the two is a conflict (`recordAll_of_not_nodup`).
3. What is asked for is looked up among the parts that were recorded, so their order makes no
   difference (`parse_any_order`).
-/

namespace TestCursor

namespace Cli

/-! ## What stands behind a command -/

def dryRunOption : OptionSpec := ⟨"dry-run", some 'd', .switch⟩

def jsonOption : OptionSpec := ⟨"json", none, .switch⟩

def workspaceOption : OptionSpec := ⟨"workspace", some 'w', .value false⟩

def pythonOption : OptionSpec := ⟨"python", none, .value true⟩

/-- What the words behind a command stand for. -/
inductive Part
  | operand (word : String)
  /-- An option with its value; a switch has an empty one. -/
  | option (spec : OptionSpec) (value : String)
  deriving DecidableEq, Repr

namespace Part

abbrev dryRun : Part := .option dryRunOption ""

abbrev json : Part := .option jsonOption ""

abbrev workspace (root : String) : Part := .option workspaceOption root

abbrev python (interpreter : String) : Part := .option pythonOption interpreter

/-- An option under its name, with its value. -/
def entry? : Part → Option (String × String)
  | .operand _ => none
  | .option spec value => some (spec.name, value)

def name? (part : Part) : Option String := part.entry?.map Prod.fst

def isOperand : Part → Bool
  | .operand _ => true
  | .option _ _ => false

end Part

/-- A word that cannot be taken for an option. -/
def IsPlainWord (word : String) : Prop := word.toList.head? ≠ some '-'

instance (word : String) : Decidable (IsPlainWord word) :=
  inferInstanceAs (Decidable (word.toList.head? ≠ some '-'))

/-- The words that spell a part. A value stands in the word of its option, or in the next one. -/
inductive Part.Spells : Part → List String → Prop
  | operand {word : String} (hplain : IsPlainWord word) : Spells (.operand word) [word]
  | dryRunLetter : Spells dryRun ["-d"]
  | dryRunName : Spells dryRun ["--dry-run"]
  | jsonName : Spells json ["--json"]
  | workspaceAttached {root : String} (hroot : root ≠ "") :
      Spells (workspace root) ["--workspace=" ++ root]
  | workspaceName {root : String} (hroot : root ≠ "") (hplain : IsPlainWord root) :
      Spells (workspace root) ["--workspace", root]
  | workspaceLetter {root : String} (hroot : root ≠ "") (hplain : IsPlainWord root) :
      Spells (workspace root) ["-w", root]
  | pythonAttached (interpreter : String) : Spells (python interpreter) ["--python=" ++ interpreter]
  | pythonName {interpreter : String} (hplain : IsPlainWord interpreter) :
      Spells (python interpreter) ["--python", interpreter]

/-- The words that spell parts one after the other. -/
inductive SpellAll : List Part → List String → Prop
  | nil : SpellAll [] []
  | cons {part : Part} {parts : List Part} {words rest : List String} (first : part.Spells words)
      (others : SpellAll parts rest) : SpellAll (part :: parts) (words ++ rest)

/-- The options of a command: its switch when it is on, and those of the choice of workspace and
interpreter. -/
def optionParts (switch : OptionSpec) (isOn : Bool) (choice : WorkspaceChoice) : List Part :=
  (if isOn then [Part.option switch ""] else []) ++
    ((choice.root.map Part.workspace).toList ++ (choice.interpreter.map Part.python).toList)

/-- The options and the operand with which a command asks for an invocation. -/
inductive Asks : Command → List Part → Option String → Invocation → Prop
  | method (file : String) (dryRun : Bool) (choice : WorkspaceChoice) :
      Asks .method (optionParts dryRunOption dryRun choice) (some file)
        (.run .method file dryRun choice)
  | testClass (file : String) (dryRun : Bool) (choice : WorkspaceChoice) :
      Asks .testClass (optionParts dryRunOption dryRun choice) (some file)
        (.run .testClass file dryRun choice)
  | file (file : String) (dryRun : Bool) (choice : WorkspaceChoice) :
      Asks .file (optionParts dryRunOption dryRun choice) (some file)
        (.run .file file dryRun choice)
  | app (dryRun : Bool) (choice : WorkspaceChoice) :
      Asks .app (optionParts dryRunOption dryRun choice) none (.app dryRun choice)
  | previous (dryRun : Bool) (choice : WorkspaceChoice) :
      Asks .previous (optionParts dryRunOption dryRun choice) none (.previous dryRun choice)
  | analyze (file : String) (json : Bool) (choice : WorkspaceChoice) :
      Asks .analyze (optionParts jsonOption json choice) (some file) (.analyze file json choice)

/-- Parts that give options again, with any values. -/
def GiveAgain (again options : List Part) : Prop :=
  ∀ part ∈ again, ∃ spec value other, part = .option spec value ∧ .option spec other ∈ options

theorem giveAgain_nil (options : List Part) : GiveAgain [] options :=
  fun _ hpart => absurd hpart List.not_mem_nil

/-- The names of a command. -/
def Command.IsNamed (command : Command) (word : String) : Prop :=
  word = command.spec.name ∨ command.spec.otherName = some word

/-! ## Taking in the words of a part -/

/-- The part stands behind a command: it is one of its options, or the operand that it takes. -/
def Part.Fits (part : Part) (command : Command) : Prop :=
  match part with
  | .operand _ => command.spec.takesOperand = true
  | .option spec _ => spec ∈ command.spec.options

namespace Intake

variable {command : CommandSpec} {intake next : Intake}

theorem takeAll_append (words rest : List String) :
    takeAll command intake (words ++ rest) =
      (takeAll command intake words).bind fun next => takeAll command next rest := by
  induction words generalizing intake with
  | nil => rfl
  | cons word words ih =>
    rw [List.cons_append, takeAll, takeAll]
    cases intake.take command word with
    | error e => rfl
    | ok next => exact ih

theorem takeAll_singleton (word : String) :
    takeAll command intake [word] = intake.take command word := by
  rw [takeAll]
  cases intake.take command word <;> rfl

/-- Words can be taken in: they can be options, and no option waits for its value. -/
structure Ready (intake : Intake) : Prop where
  options : intake.onlyOperands = false
  not_waiting : ∀ option, intake.pending ≠ some (option, none)

theorem ready_empty : empty.Ready := ⟨rfl, fun _ => by simp [empty]⟩

/-- A recorded option goes to the others that were given, and changes nothing else. -/
theorem eq_of_give {option : OptionSpec} {value : String}
    (h : intake.give option value = .ok next) :
    next = { intake with given := intake.given ++ [(option.name, value)] } := by
  unfold give at h
  split_ifs at h
  split at h
  · cases h
  · cases h
  · exact (Except.ok.inj h).symm
  · split_ifs at h
    exact (Except.ok.inj h).symm

theorem settle_spec (h : intake.settle = .ok next) :
    next.pending = none ∧ next.operand = intake.operand ∧
      next.onlyOperands = intake.onlyOperands := by
  unfold settle at h
  split at h
  · next hnone =>
    obtain rfl := Except.ok.inj h
    exact ⟨hnone, rfl, rfl⟩
  · cases h
  · rw [eq_of_give h]
    exact ⟨rfl, rfl, rfl⟩

theorem settle_onlyOperands (intake : Intake) (onlyOperands : Bool) :
    settle { intake with onlyOperands := onlyOperands } =
      intake.settle.map fun next => { next with onlyOperands := onlyOperands } := by
  obtain ⟨operand, given, pending, old⟩ := intake
  rcases pending with _ | ⟨option, _ | value⟩
  · rfl
  · rfl
  · simp only [settle, give]
    split
    · rfl
    · split
      · rfl
      · rfl
      · rfl
      · split <;> rfl

theorem settle_of_pending_eq_none (h : intake.pending = none) : intake.settle = .ok intake := by
  unfold settle
  rw [h]

/-! ### One word -/

theorem take_of_isPlainWord {word : String} (h : IsPlainWord word)
    (hoptions : intake.onlyOperands = false) :
    intake.take command word = intake.takePlain command word := by
  unfold take
  rw [hoptions]
  simp only [Bool.false_eq_true, if_false]
  unfold IsPlainWord at h
  split
  · next hword => exact absurd (by rw [hword]; rfl) h
  · next hword => exact absurd (by rw [hword]; rfl) h
  · next hword => exact absurd (by rw [hword]; rfl) h
  · rfl

theorem take_operand {word : String} (h : IsPlainWord word) (hready : intake.Ready)
    (htakes : command.takesOperand = true) (hfree : intake.operand = none) :
    intake.take command word =
      intake.settle.bind fun next => .ok { next with operand := some word } := by
  rw [take_of_isPlainWord h hready.options, takePlain]
  split
  · next option hpending => exact absurd hpending (hready.not_waiting option)
  · rw [takeOperand, htakes, hfree]
    simp only [Option.isNone_none, Bool.and_self, if_true]
    cases intake.settle <;> rfl

/-- Behind two dashes a word is an operand, whatever it looks like. -/
theorem takeAll_dashes (word : String) (hoptions : intake.onlyOperands = false)
    (htakes : command.takesOperand = true) (hfree : intake.operand = none) :
    takeAll command intake ["--", word] = intake.settle.bind fun next =>
      .ok { next with operand := some word, onlyOperands := true } := by
  have hdashes : intake.take command "--" = .ok { intake with onlyOperands := true } := by
    unfold take
    rw [hoptions]
    rfl
  have hsettle := settle_onlyOperands intake true
  rw [takeAll, hdashes]
  simp only
  rw [takeAll_singleton, take, if_pos rfl, takeOperand, htakes, hfree, ← hfree, hsettle]
  simp only [hfree, Option.isNone_none, Bool.and_self, if_true]
  cases intake.settle <;> rfl

theorem take_value {value : String} (h : IsPlainWord value) {option : OptionSpec}
    (hoptions : intake.onlyOperands = false) :
    take command { intake with pending := some (option, none) } value =
      .ok { intake with pending := some (option, some value) } :=
  @take_of_isPlainWord command { intake with pending := some (option, none) } value h hoptions

section Option

variable {option : OptionSpec} {word : String}

theorem takeAll_named {value : String} (h : IsPlainWord value) (hready : intake.Ready)
    (hname : intake.take command word =
      intake.settle.bind fun next => .ok { next with pending := some (option, none) }) :
    takeAll command intake [word, value] =
      intake.settle.bind fun next => .ok { next with pending := some (option, some value) } := by
  rw [takeAll, hname]
  cases hsettle : intake.settle with
  | error e => rfl
  | ok next =>
    show takeAll command { next with pending := some (option, none) } [value] = _
    rw [takeAll_singleton, take_value h ((settle_spec hsettle).2.2.trans hready.options)]
    rfl

theorem take_of_letters {c : Char} {rest : List Char} (hword : word.toList = '-' :: c :: rest)
    (hc : c ≠ '-') (hoptions : intake.onlyOperands = false) :
    intake.take command word = intake.takeLetters command (c :: rest) := by
  unfold take
  rw [hoptions]
  simp only [Bool.false_eq_true, if_false]
  split
  · next hdashes => exact absurd (List.cons.inj (List.cons.inj (hword.symm.trans hdashes)).2).1 hc
  · next hdashes => exact absurd (List.cons.inj (List.cons.inj (hword.symm.trans hdashes)).2).1 hc
  · next hletters =>
    obtain ⟨rfl, rfl⟩ := List.cons.inj (List.cons.inj (hword.symm.trans hletters)).2
    rfl
  · next hplain => exact absurd hword (hplain c rest)

theorem take_switchLetter {c : Char} (hword : word.toList = ['-', c]) (hc : c ≠ '-')
    (hoptions : intake.onlyOperands = false)
    (hfind : command.options.find? (fun other => other.letter = some c) = some option)
    (hkind : option.kind = .switch) :
    intake.take command word = intake.settle.bind fun next => next.give option "" := by
  rw [take_of_letters hword hc hoptions, takeLetters, hfind]
  simp only [hkind, takeSwitch]
  cases intake.settle with
  | error e => rfl
  | ok next =>
    simp only [Except.bind]
    cases next.give option "" <;> rfl

theorem take_valueLetter {c : Char} (hword : word.toList = ['-', c]) (hc : c ≠ '-')
    (hoptions : intake.onlyOperands = false)
    (hfind : command.options.find? (fun other => other.letter = some c) = some option)
    {allowsEmpty : Bool} (hkind : option.kind = .value allowsEmpty) :
    intake.take command word =
      intake.settle.bind fun next => .ok { next with pending := some (option, none) } := by
  rw [take_of_letters hword hc hoptions, takeLetters, hfind]
  simp only [hkind, List.isEmpty_nil, if_true, takeNamed]
  cases intake.settle <;> rfl

theorem splitLong_name {name : List Char} (h : '=' ∉ name) : splitLong name = (name, none) := by
  have hdrop : name.dropWhile (· != '=') = [] := by
    rw [List.dropWhile_eq_nil_iff]
    intro c hc
    exact bne_iff_ne.mpr fun heq => h (heq ▸ hc)
  rw [splitLong, hdrop]

theorem splitLong_attached {name value : List Char} (h : '=' ∉ name) :
    splitLong (name ++ '=' :: value) = (name, some value) := by
  have hname : ∀ c ∈ name, (c != '=') = true := fun c hc => bne_iff_ne.mpr fun heq => h (heq ▸ hc)
  rw [splitLong, List.dropWhile_append_of_pos hname, List.takeWhile_append_of_pos hname]
  simp

/-- A word of two dashes is read as a name, perhaps with a value. -/
theorem take_of_name {name : List Char} (hname : name ≠ [])
    (hword : word.toList = '-' :: '-' :: name) (hoptions : intake.onlyOperands = false) :
    intake.take command word = intake.takeLong command name := by
  obtain ⟨c, rest, rfl⟩ := List.exists_cons_of_ne_nil hname
  unfold take
  rw [hoptions, hword]
  rfl

section Named

variable (hname : '=' ∉ option.name.toList) (hnonempty : option.name ≠ "")
  (hoptions : intake.onlyOperands = false)
  (hfind : command.options.find? (fun other => other.name = option.name) = some option)

include hname hnonempty hoptions hfind

theorem take_switchName (hword : word.toList = '-' :: '-' :: option.name.toList)
    (hkind : option.kind = .switch) :
    intake.take command word = intake.settle.bind fun next => next.give option "" := by
  have hchars : option.name.toList ≠ [] := fun h => hnonempty (String.toList_eq_nil_iff.mp h)
  rw [take_of_name hchars hword hoptions, takeLong, splitLong_name hname]
  simp only [String.ofList_toList, hfind, hkind, takeSwitch]
  cases intake.settle <;> rfl

theorem take_valueName (hword : word.toList = '-' :: '-' :: option.name.toList)
    {allowsEmpty : Bool} (hkind : option.kind = .value allowsEmpty) :
    intake.take command word =
      intake.settle.bind fun next => .ok { next with pending := some (option, none) } := by
  have hchars : option.name.toList ≠ [] := fun h => hnonempty (String.toList_eq_nil_iff.mp h)
  rw [take_of_name hchars hword hoptions, takeLong, splitLong_name hname]
  simp only [String.ofList_toList, hfind, hkind, takeNamed]
  cases intake.settle <;> rfl

omit hnonempty in
theorem take_attachedValue {value : String}
    (hword : word.toList = '-' :: '-' :: (option.name.toList ++ '=' :: value.toList))
    {allowsEmpty : Bool} (hkind : option.kind = .value allowsEmpty) :
    intake.take command word = intake.settle.bind fun next => next.give option value := by
  rw [take_of_name (by simp) hword hoptions, takeLong, splitLong_attached hname]
  simp only [String.ofList_toList, hfind, hkind, takeAttached]
  cases intake.settle <;> rfl

end Named

end Option

/-! ### The words of a part -/

/-- Record a part at once. -/
def record (intake : Intake) : Part → Except Usage Intake
  | .operand word => .ok { intake with operand := some word }
  | .option spec value => intake.give spec value

/-- Words that were taken in come to what is recorded, with the operand so far, once the turn of
the option that was named last has ended. -/
inductive ComesTo (operand : Option String) (recorded : Except Usage Intake) :
    Except Usage Intake → Prop
  | failed {e : Usage} (h : recorded = .error e) : ComesTo operand recorded (.error e)
  | taken {next : Intake} (hready : next.Ready) (hoperand : next.operand = operand)
      (hsettle : next.settle = recorded) : ComesTo operand recorded (.ok next)

def operandBehind (operand : Option String) : Part → Option String
  | .operand word => some word
  | .option _ _ => operand

section ComesTo

variable {spec : OptionSpec} {value word : String}

theorem comesTo_give (hready : intake.Ready) :
    ComesTo intake.operand (intake.settle.bind fun settled => settled.give spec value)
      (intake.settle.bind fun settled => settled.give spec value) := by
  cases hsettle : intake.settle with
  | error e => exact .failed rfl
  | ok settled =>
    obtain ⟨hpending, hoperand, honly⟩ := settle_spec hsettle
    show ComesTo _ (settled.give spec value) (settled.give spec value)
    cases hgive : settled.give spec value with
    | error e => exact .failed rfl
    | ok next =>
      obtain rfl := eq_of_give hgive
      refine .taken ⟨honly.trans hready.options, fun option => ?_⟩ hoperand
        (settle_of_pending_eq_none hpending)
      simp [hpending]

theorem comesTo_named (hready : intake.Ready) :
    ComesTo intake.operand (intake.settle.bind fun settled => settled.give spec value)
      (intake.settle.bind fun settled =>
        .ok { settled with pending := some (spec, some value) }) := by
  cases hsettle : intake.settle with
  | error e => exact .failed rfl
  | ok settled =>
    obtain ⟨hpending, hoperand, honly⟩ := settle_spec hsettle
    have hsame : { settled with pending := none } = settled := by rw [← hpending]
    refine .taken ⟨honly.trans hready.options, fun option => by simp⟩ hoperand ?_
    show Intake.give { settled with pending := none } spec value = settled.give spec value
    rw [hsame]

theorem comesTo_operand (hready : intake.Ready) :
    ComesTo (some word)
      (intake.settle.bind fun settled => .ok { settled with operand := some word })
      (intake.settle.bind fun settled => .ok { settled with operand := some word }) := by
  cases hsettle : intake.settle with
  | error e => exact .failed rfl
  | ok settled =>
    obtain ⟨hpending, -, honly⟩ := settle_spec hsettle
    refine .taken ⟨honly.trans hready.options, fun option => ?_⟩ rfl
      (settle_of_pending_eq_none hpending)
    simp [hpending]

end ComesTo

end Intake

theorem find?_name {command : Command} {spec : OptionSpec} (h : spec ∈ command.spec.options) :
    command.spec.options.find? (fun other => other.name = spec.name) = some spec := by
  revert spec
  cases command <;> decide

theorem find?_letter {command : Command} {spec : OptionSpec} {c : Char}
    (h : spec ∈ command.spec.options) (hletter : spec.letter = some c) :
    command.spec.options.find? (fun other => other.letter = some c) = some spec := by
  rw [← hletter]
  have hletters : ∀ spec ∈ command.spec.options, spec.letter.isSome = true →
      command.spec.options.find? (fun other => other.letter = spec.letter) = some spec := by
    cases command <;> decide
  exact hletters spec h (by rw [hletter]; rfl)

open Intake in
theorem takeAll_spells {part : Part} {words : List String} (h : part.Spells words)
    {command : Command} (hfits : part.Fits command) {intake : Intake} (hready : intake.Ready)
    (hfree : part.isOperand = true → intake.operand = none) :
    ComesTo (operandBehind intake.operand part)
      (intake.settle.bind fun settled => settled.record part)
      (takeAll command.spec intake words) := by
  cases h with
  | operand hplain =>
    rw [takeAll_singleton, take_operand hplain hready hfits (hfree rfl)]
    exact comesTo_operand hready
  | dryRunLetter =>
    rw [takeAll_singleton, take_switchLetter (by decide) (by decide) hready.options
      (find?_letter hfits rfl) rfl]
    exact comesTo_give hready
  | dryRunName =>
    rw [takeAll_singleton, take_switchName (by decide) (by decide) hready.options
      (find?_name hfits) (by decide) rfl]
    exact comesTo_give hready
  | jsonName =>
    rw [takeAll_singleton, take_switchName (by decide) (by decide) hready.options
      (find?_name hfits) (by decide) rfl]
    exact comesTo_give hready
  | workspaceAttached =>
    rw [takeAll_singleton, take_attachedValue (by decide) hready.options (find?_name hfits)
      (String.toList_append ..) rfl]
    exact comesTo_give hready
  | workspaceName _ hplain =>
    rw [takeAll_named hplain hready (take_valueName (by decide) (by decide) hready.options
      (find?_name hfits) (by decide) rfl)]
    exact comesTo_named hready
  | workspaceLetter _ hplain =>
    rw [takeAll_named hplain hready (take_valueLetter (by decide) (by decide) hready.options
      (find?_letter hfits rfl) rfl)]
    exact comesTo_named hready
  | pythonAttached =>
    rw [takeAll_singleton, take_attachedValue (by decide) hready.options (find?_name hfits)
      (String.toList_append ..) rfl]
    exact comesTo_give hready
  | pythonName hplain =>
    rw [takeAll_named hplain hready (take_valueName (by decide) (by decide) hready.options
      (find?_name hfits) (by decide) rfl)]
    exact comesTo_named hready

/-! ## Taking in all words -/

namespace Intake

/-- Record parts one after the other. -/
def recordAll (intake : Intake) (parts : List Part) : Except Usage Intake :=
  parts.foldlM record intake

def lastOperand (operand : Option String) (parts : List Part) : Option String :=
  parts.foldl operandBehind operand

end Intake

open Intake in
/-- Taking in the words of parts comes to recording them one after the other. -/
theorem takeAll_spellAll {parts : List Part} {words : List String} (h : SpellAll parts words)
    {command : Command} (hfits : ∀ part ∈ parts, part.Fits command) {intake : Intake}
    (hready : intake.Ready)
    (hone : parts.countP Part.isOperand + intake.operand.toList.length ≤ 1) :
    ComesTo (lastOperand intake.operand parts)
      (intake.settle.bind fun settled => settled.recordAll parts)
      (takeAll command.spec intake words) := by
  induction h generalizing intake with
  | nil =>
    refine .taken hready rfl ?_
    cases intake.settle <;> rfl
  | @cons part parts words rest first others ih =>
    obtain ⟨hpart, hparts⟩ := List.forall_mem_cons.mp hfits
    rw [List.countP_cons] at hone
    have hfree : part.isOperand = true → intake.operand = none := by
      intro hoperand
      rw [if_pos hoperand] at hone
      cases hnone : intake.operand with
      | none => rfl
      | some word => simp [hnone] at hone
    have hrecord : (intake.settle.bind fun settled => settled.recordAll (part :: parts)) =
        (intake.settle.bind fun settled => settled.record part).bind fun next =>
          next.recordAll parts := by
      cases intake.settle <;> rfl
    rw [takeAll_append, hrecord]
    have hfirst := takeAll_spells first hpart hready hfree
    revert hfirst
    generalize takeAll command.spec intake words = taken
    generalize (intake.settle.bind fun settled => settled.record part) = recorded
    rintro (herror | ⟨hnext, hoperand, hsettle⟩)
    · subst herror
      exact .failed rfl
    · subst hsettle
      rw [lastOperand, List.foldl_cons, ← hoperand]
      refine ih hparts hnext ?_
      rw [hoperand]
      cases part with
      | operand word =>
        have hoperand : (Part.operand word).isOperand = true := rfl
        rw [if_pos hoperand] at hone
        show parts.countP Part.isOperand + 1 ≤ 1
        omega
      | option spec value => exact hone

/-! ## What was recorded -/

namespace Part

/-- The value of an option is one that it takes. -/
def Suits : Part → Prop
  | .operand _ => True
  | .option spec value =>
    spec.kind = .switch ∨ ∃ allowsEmpty, spec.kind = .value allowsEmpty ∧
      (value = "" → allowsEmpty = true)

theorem Spells.suits {part : Part} {words : List String} (h : part.Spells words) :
    part.Suits := by
  cases h with
  | operand => trivial
  | dryRunLetter => exact .inl rfl
  | dryRunName => exact .inl rfl
  | jsonName => exact .inl rfl
  | workspaceAttached hroot => exact .inr ⟨false, rfl, fun hempty => absurd hempty hroot⟩
  | workspaceName hroot => exact .inr ⟨false, rfl, fun hempty => absurd hempty hroot⟩
  | workspaceLetter hroot => exact .inr ⟨false, rfl, fun hempty => absurd hempty hroot⟩
  | pythonAttached => exact .inr ⟨true, rfl, fun _ => rfl⟩
  | pythonName => exact .inr ⟨true, rfl, fun _ => rfl⟩

end Part

theorem SpellAll.suits {parts : List Part} {words : List String} (h : SpellAll parts words) :
    ∀ part ∈ parts, part.Suits := by
  induction h with
  | nil => simp
  | cons first _ ih => exact List.forall_mem_cons.mpr ⟨first.suits, ih⟩

namespace Intake

def names (intake : Intake) : List String := intake.given.map Prod.fst

section Give

variable {intake : Intake} {spec : OptionSpec} {value : String}

theorem give_of_mem (h : spec.name ∈ intake.names) :
    intake.give spec value = .error .argumentConflict := by
  have hgiven : (intake.given.lookup spec.name).isSome = true := by
    rw [Option.isSome_iff_ne_none, ne_eq, lookup_eq_none_iff_not_mem]
    exact not_not_intro h
  rw [give, if_pos hgiven]

theorem give_of_not_mem (h : spec.name ∉ intake.names) (hsuits : (Part.option spec value).Suits) :
    intake.give spec value =
      .ok { intake with given := intake.given ++ [(spec.name, value)] } := by
  have hgiven : ¬(intake.given.lookup spec.name).isSome = true := by
    rw [lookup_eq_none_iff_not_mem.mpr h]
    exact Bool.false_ne_true
  rw [give, if_neg hgiven]
  rcases hsuits with hkind | ⟨allowsEmpty, hkind, hempty⟩
  · rw [hkind]
  · rw [hkind]
    refine if_neg fun hrefused => ?_
    rw [Bool.and_eq_true, String.isEmpty_iff, Bool.not_eq_true'] at hrefused
    exact Bool.noConfusion ((hempty hrefused.1).symm.trans hrefused.2)

end Give

variable {parts : List Part} {intake : Intake}

theorem names_give (spec : OptionSpec) (value : String) :
    names { intake with given := intake.given ++ [(spec.name, value)] } =
      intake.names ++ [spec.name] :=
  List.map_append

theorem recordAll_of_nodup (hsuits : ∀ part ∈ parts, part.Suits)
    (hnodup : (intake.names ++ parts.filterMap Part.name?).Nodup) :
    intake.recordAll parts = .ok { intake with
      operand := lastOperand intake.operand parts
      given := intake.given ++ parts.filterMap Part.entry? } := by
  induction parts generalizing intake with
  | nil =>
    rw [List.filterMap_nil, List.append_nil]
    rfl
  | cons part parts ih =>
    obtain ⟨hpart, hparts⟩ := List.forall_mem_cons.mp hsuits
    cases part with
    | operand word => exact @ih { intake with operand := some word } hparts hnodup
    | option spec value =>
      have hnames : (Part.option spec value :: parts).filterMap Part.name? =
          spec.name :: parts.filterMap Part.name? := rfl
      have hentries : (Part.option spec value :: parts).filterMap Part.entry? =
          (spec.name, value) :: parts.filterMap Part.entry? := rfl
      rw [hnames, List.append_cons] at hnodup
      have hnew : spec.name ∉ intake.names := fun hmem =>
        (List.nodup_append.mp (List.nodup_append.mp hnodup).1).2.2 _ hmem _
          List.mem_cons_self rfl
      rw [← names_give spec value] at hnodup
      rw [recordAll, List.foldlM_cons, record, give_of_not_mem hnew hpart, hentries,
        List.append_cons intake.given (spec.name, value) (parts.filterMap Part.entry?)]
      exact ih hparts hnodup

theorem recordAll_of_not_nodup (hsuits : ∀ part ∈ parts, part.Suits)
    (hnames : intake.names.Nodup)
    (htwice : ¬(intake.names ++ parts.filterMap Part.name?).Nodup) :
    intake.recordAll parts = .error .argumentConflict := by
  induction parts generalizing intake with
  | nil =>
    rw [List.filterMap_nil, List.append_nil] at htwice
    exact absurd hnames htwice
  | cons part parts ih =>
    obtain ⟨hpart, hparts⟩ := List.forall_mem_cons.mp hsuits
    cases part with
    | operand word => exact @ih { intake with operand := some word } hparts hnames htwice
    | option spec value =>
      have hcons : (Part.option spec value :: parts).filterMap Part.name? =
          spec.name :: parts.filterMap Part.name? := rfl
      rw [hcons, List.append_cons, ← names_give spec value] at htwice
      rw [recordAll, List.foldlM_cons, record]
      by_cases hold : spec.name ∈ intake.names
      · rw [give_of_mem hold]
        rfl
      · rw [give_of_not_mem hold hpart]
        refine ih hparts ?_ htwice
        rw [names_give]
        exact List.nodup_append.mpr ⟨hnames, List.nodup_singleton _, fun name hname other hother =>
          fun heq => hold (List.mem_singleton.mp hother ▸ heq ▸ hname)⟩

theorem lastOperand_of_forall {operand : Option String}
    (h : ∀ part ∈ parts, part.isOperand = false) : lastOperand operand parts = operand := by
  induction parts with
  | nil => rfl
  | cons part parts ih =>
    obtain ⟨hpart, hparts⟩ := List.forall_mem_cons.mp h
    cases part with
    | operand word => cases hpart
    | option spec value => exact ih hparts

theorem lastOperand_of_mem {operand : Option String} {word : String}
    (hmem : .operand word ∈ parts) (hone : parts.countP Part.isOperand ≤ 1) :
    lastOperand operand parts = some word := by
  induction parts generalizing operand with
  | nil => exact absurd hmem List.not_mem_nil
  | cons part parts ih =>
    rw [List.countP_cons] at hone
    cases part with
    | operand other =>
      have hother : (Part.operand other).isOperand = true := rfl
      rw [if_pos hother] at hone
      have hrest : ∀ part ∈ parts, part.isOperand = false := by
        intro part hpart
        have hzero : parts.countP Part.isOperand = 0 := by omega
        exact Bool.eq_false_iff.mpr (List.countP_eq_zero.mp hzero part hpart)
      rcases List.mem_cons.mp hmem with heq | hlater
      · obtain rfl := Part.operand.inj heq
        exact lastOperand_of_forall hrest
      · cases hrest _ hlater
    | option spec value =>
      refine ih ?_ hone
      exact (List.mem_cons.mp hmem).resolve_left fun heq => by cases heq

end Intake

/-! ## What is asked for -/

section Asks

variable {command : Command} {options parts : List Part} {operand : Option String}
  {invocation : Invocation} {words : List String}

theorem parse_spellAll (h : SpellAll parts words) (hfits : ∀ part ∈ parts, part.Fits command)
    (hone : parts.countP Part.isOperand ≤ 1) :
    command.parse words = (Intake.empty.recordAll parts).bind fun intake =>
      if command.spec.takesOperand && intake.operand.isNone then .error .missingOperand
      else .ok (command.invocation intake) := by
  have htaken := takeAll_spellAll h hfits Intake.ready_empty hone
  have hsettled : Intake.empty.settle = .ok Intake.empty := rfl
  rw [hsettled] at htaken
  revert htaken
  rw [Command.parse]
  generalize Intake.empty.takeAll command.spec words = taken
  rintro (herror | ⟨-, -, hsettle⟩)
  · replace herror : Intake.empty.recordAll parts = .error _ := herror
    rw [herror]
    rfl
  · replace hsettle : _ = Intake.empty.recordAll parts := hsettle
    rw [← hsettle]
    simp only [Intake.finish]
    cases Intake.settle _ with
    | error e => rfl
    | ok intake =>
      simp only [Except.bind]
      split_ifs <;> rfl

open Intake in
/-- Behind two dashes the next word is the operand, whatever it looks like. -/
theorem parse_spellAll_dashes (h : SpellAll parts words)
    (hfits : ∀ part ∈ parts, part.Fits command)
    (hnone : ∀ part ∈ parts, part.isOperand = false) (htakes : command.spec.takesOperand = true)
    (file : String) :
    command.parse (words ++ ["--", file]) = (empty.recordAll parts).bind fun intake =>
      .ok (command.invocation { intake with operand := some file }) := by
  have hzero : parts.countP Part.isOperand = 0 :=
    List.countP_eq_zero.mpr fun part hpart => by simp [hnone part hpart]
  have htaken := takeAll_spellAll h hfits ready_empty (by rw [hzero]; exact Nat.zero_le 1)
  rw [lastOperand_of_forall hnone, show empty.settle = .ok empty from rfl] at htaken
  revert htaken
  rw [Command.parse, takeAll_append]
  generalize empty.takeAll command.spec words = taken
  rintro (herror | ⟨hready, hoperand, hsettle⟩)
  · replace herror : empty.recordAll parts = .error _ := herror
    rw [herror]
    rfl
  · next next =>
    replace hsettle : next.settle = empty.recordAll parts := hsettle
    rw [← hsettle]
    replace hoperand : next.operand = none := hoperand
    simp only [Except.bind]
    rw [takeAll_dashes file hready.options htakes hoperand]
    cases hsettled : next.settle with
    | error e => rfl
    | ok settled =>
      have hpending := (settle_spec hsettled).1
      have hended : settle { settled with operand := some file, onlyOperands := true } =
          .ok { settled with operand := some file, onlyOperands := true } :=
        settle_of_pending_eq_none hpending
      simp only [Except.bind, finish]
      rw [hended]
      simp only [htakes, Option.isNone_some, Bool.and_false, Bool.false_eq_true, if_false]
      cases command <;> rfl

theorem mem_optionParts {switch : OptionSpec} {isOn : Bool} {choice : WorkspaceChoice} {part : Part}
    (h : part ∈ optionParts switch isOn choice) :
    ∃ spec value, part = .option spec value ∧ spec ∈ [switch, workspaceOption, pythonOption] := by
  simp only [optionParts, List.mem_append, Option.mem_toList, Option.map_eq_some_iff] at h
  rcases h with hswitch | ⟨root, -, rfl⟩ | ⟨interpreter, -, rfl⟩
  · cases isOn with
    | false => exact absurd hswitch List.not_mem_nil
    | true => exact ⟨switch, "", List.mem_singleton.mp hswitch, List.mem_cons_self⟩
  · exact ⟨workspaceOption, root, rfl, by simp⟩
  · exact ⟨pythonOption, interpreter, rfl, by simp⟩

section OptionParts

variable {switch : OptionSpec} (hnames : [switch.name, "workspace", "python"].Nodup) (isOn : Bool)
  (choice : WorkspaceChoice)

include hnames

theorem nodup_optionParts : ((optionParts switch isOn choice).filterMap Part.name?).Nodup := by
  have hsublist : ((optionParts switch isOn choice).filterMap Part.name?).Sublist
      [switch.name, "workspace", "python"] := by
    obtain ⟨root, interpreter⟩ := choice
    cases isOn <;> cases root <;> cases interpreter <;>
      simp [optionParts, Part.name?, Part.entry?, workspaceOption, pythonOption]
  exact hnames.sublist hsublist

theorem lookup_optionParts :
    let entries := (optionParts switch isOn choice).filterMap Part.entry?
    (entries.lookup switch.name).isSome = isOn ∧ entries.lookup "workspace" = choice.root ∧
      entries.lookup "python" = choice.interpreter := by
  simp only [List.nodup_cons, List.mem_cons, List.not_mem_nil, or_false, not_or] at hnames
  obtain ⟨⟨hworkspace, hpython⟩, -⟩ := hnames
  obtain ⟨root, interpreter⟩ := choice
  cases isOn <;> cases root <;> cases interpreter <;>
    simp [optionParts, Part.entry?, workspaceOption, pythonOption, List.lookup_cons,
      beq_false_of_ne hworkspace, beq_false_of_ne hpython, beq_false_of_ne (Ne.symm hworkspace),
      beq_false_of_ne (Ne.symm hpython)]

end OptionParts

theorem Asks.fits (h : Asks command options operand invocation) :
    (∀ part ∈ options, part.Fits command ∧ part.isOperand = false) ∧
      command.spec.takesOperand = operand.isSome := by
  have hfits {command : Command} {switch : OptionSpec} {isOn : Bool} {choice : WorkspaceChoice}
      (hspecs : ∀ spec ∈ [switch, workspaceOption, pythonOption], spec ∈ command.spec.options) :
      ∀ part ∈ optionParts switch isOn choice, part.Fits command ∧ part.isOperand = false := by
    intro part hpart
    obtain ⟨spec, value, rfl, hspec⟩ := mem_optionParts hpart
    exact ⟨hspecs spec hspec, rfl⟩
  cases h <;> exact ⟨hfits (by decide), rfl⟩

theorem Asks.nodup (h : Asks command options operand invocation) :
    (options.filterMap Part.name?).Nodup := by
  cases h <;> exact nodup_optionParts (by decide) _ _

theorem Asks.invocation_eq (h : Asks command options operand invocation) {intake : Intake}
    (hoperand : intake.operand = operand)
    (hgiven : ∀ name, intake.given.lookup name =
      (options.filterMap Part.entry?).lookup name) :
    command.invocation intake = invocation := by
  have hdryRun := lookup_optionParts (by decide : [dryRunOption.name, "workspace", "python"].Nodup)
  have hjson := lookup_optionParts (by decide : [jsonOption.name, "workspace", "python"].Nodup)
  cases h with
  | method file dryRun choice
  | testClass file dryRun choice
  | file file dryRun choice
  | app dryRun choice
  | previous dryRun choice =>
    obtain ⟨hswitch, hroot, hpython⟩ := hdryRun dryRun choice
    have hname : dryRunOption.name = "dry-run" := rfl
    rw [hname] at hswitch
    simp only [Command.invocation, Intake.has, Intake.value?, hgiven, hswitch, hroot, hpython,
      hoperand, Option.getD_some]
  | analyze file json choice =>
    obtain ⟨hswitch, hroot, hpython⟩ := hjson json choice
    have hname : jsonOption.name = "json" := rfl
    rw [hname] at hswitch
    simp only [Command.invocation, Intake.has, Intake.value?, hgiven, hswitch, hroot, hpython,
      hoperand, Option.getD_some]

theorem parse_of_isNamed {name : String} (h : command.IsNamed name) (words : List String) :
    parse (name :: words) = command.parse words := by
  cases command with
  | app | init =>
    obtain rfl | hother := h
    · rfl
    · cases hother
  | _ =>
    obtain rfl | hother := h
    · rfl
    · obtain rfl := Option.some.inj hother
      rfl

theorem filterMap_name? (parts : List Part) :
    parts.filterMap Part.name? = (parts.filterMap Part.entry?).map Prod.fst :=
  (List.map_filterMap ..).symm

section Order

variable {again : List Part} {word : Option String}

theorem filterMap_entry?_operand (options : List Part) (word : Option String) :
    (options ++ (word.map Part.operand).toList).filterMap Part.entry? =
      options.filterMap Part.entry? := by
  cases word <;> simp [Part.entry?]

/-- In any order the options and an operand are recorded as they are. -/
theorem Asks.recordAll_of_perm (h : Asks command options operand invocation)
    (hsuits : ∀ part ∈ parts, part.Suits)
    (horder : parts.Perm (options ++ (word.map Part.operand).toList)) :
    ∃ intake, Intake.empty.recordAll parts = .ok intake ∧ intake.operand = word ∧
      ∀ name, intake.given.lookup name = (options.filterMap Part.entry?).lookup name := by
  have hentries : (parts.filterMap Part.entry?).Perm (options.filterMap Part.entry?) :=
    filterMap_entry?_operand options word ▸ horder.filterMap Part.entry?
  have hnodup : ((parts.filterMap Part.entry?).map Prod.fst).Nodup := by
    rw [(hentries.map Prod.fst).nodup_iff, ← filterMap_name?]
    exact h.nodup
  have hrecord := Intake.recordAll_of_nodup hsuits
    (show (Intake.empty.names ++ parts.filterMap Part.name?).Nodup from
      (filterMap_name? parts).symm ▸ hnodup)
  refine ⟨_, hrecord, ?_, fun name => lookup_perm hentries hnodup⟩
  have hoptions : ∀ part ∈ options, part.isOperand = false := fun part hpart =>
    (h.fits.1 part hpart).2
  cases word with
  | none =>
    refine Intake.lastOperand_of_forall fun part hpart => hoptions part ?_
    simpa using horder.mem_iff.mp hpart
  | some word =>
    refine Intake.lastOperand_of_mem (horder.mem_iff.mpr (by simp)) ?_
    have hzero : options.countP Part.isOperand = 0 :=
      List.countP_eq_zero.mpr fun part hpart => by simp [hoptions part hpart]
    rw [horder.countP_eq, List.countP_append, hzero, Nat.zero_add]
    exact List.countP_le_length

theorem recordAll_of_giveAgain (hagain : GiveAgain again options) (hsome : again ≠ [])
    (hsuits : ∀ part ∈ parts, part.Suits)
    (horder : parts.Perm (again ++ (options ++ (word.map Part.operand).toList))) :
    Intake.empty.recordAll parts = .error .argumentConflict := by
  refine Intake.recordAll_of_not_nodup hsuits List.nodup_nil fun hnodup => ?_
  obtain ⟨part, hpart⟩ := List.exists_mem_of_ne_nil again hsome
  obtain ⟨spec, value, other, rfl, hother⟩ := hagain part hpart
  have hnames : (parts.filterMap Part.name?).Nodup := hnodup
  rw [(horder.filterMap Part.name?).nodup_iff, List.filterMap_append, List.nodup_append] at hnames
  refine hnames.2.2 spec.name (List.mem_filterMap.mpr ⟨_, hpart, rfl⟩) spec.name ?_ rfl
  exact List.mem_filterMap.mpr ⟨_, List.mem_append_left _ hother, rfl⟩

/-- Options and an operand in any order, some of the options perhaps given again. -/
structure Extends (parts again options : List Part) (word : Option String) : Prop where
  giveAgain : GiveAgain again options
  order : parts.Perm (again ++ (options ++ (word.map Part.operand).toList))

theorem Asks.fits_of_extends (h : Asks command options operand invocation)
    (hextends : Extends parts again options word) {part : Part} (hpart : part ∈ parts) :
    (part.Fits command ∧ part.isOperand = false) ∨ part ∈ (word.map Part.operand).toList := by
  obtain ⟨hagain, horder⟩ := hextends
  rcases List.mem_append.mp (horder.mem_iff.mp hpart) with hpart | hpart
  · obtain ⟨spec, value, other, rfl, hother⟩ := hagain part hpart
    exact .inl ⟨(h.fits.1 _ hother).1, rfl⟩
  · exact (List.mem_append.mp hpart).imp_left (h.fits.1 part)

theorem Asks.parse_eq (h : Asks command options operand invocation)
    (hextends : Extends parts again options operand) (hwords : SpellAll parts words) :
    command.parse words = (Intake.empty.recordAll parts).bind fun intake =>
      if operand.isSome && intake.operand.isNone then .error .missingOperand
      else .ok (command.invocation intake) := by
  obtain ⟨hoptions, htakes⟩ := h.fits
  have hfits : ∀ part ∈ parts, part.Fits command := by
    intro part hpart
    rcases h.fits_of_extends hextends hpart with hoption | hoperand
    · exact hoption.1
    · obtain ⟨word, rfl, rfl⟩ := Option.map_eq_some_iff.mp (Option.mem_toList.mp hoperand)
      exact htakes
  have hone : parts.countP Part.isOperand ≤ 1 := by
    obtain ⟨hagain, horder⟩ := hextends
    have hagainZero : again.countP Part.isOperand = 0 := by
      refine List.countP_eq_zero.mpr fun part hpart => ?_
      obtain ⟨spec, value, -, rfl, -⟩ := hagain part hpart
      exact Bool.false_ne_true
    have hoptionsZero : options.countP Part.isOperand = 0 :=
      List.countP_eq_zero.mpr fun part hpart => by simp [(hoptions part hpart).2]
    rw [horder.countP_eq, List.countP_append, List.countP_append, hagainZero, hoptionsZero]
    cases operand <;> simp [Part.isOperand]
  rw [parse_spellAll hwords hfits hone, htakes]

theorem Asks.parse_dashes (h : Asks command options operand invocation)
    (hextends : Extends parts again options none) (hwords : SpellAll parts words)
    {file : String} (hfile : operand = some file) :
    command.parse (words ++ ["--", file]) = (Intake.empty.recordAll parts).bind fun intake =>
      .ok (command.invocation { intake with operand := some file }) := by
  refine parse_spellAll_dashes hwords (fun part hpart => ?_) (fun part hpart => ?_) ?_ file
  · exact ((h.fits_of_extends hextends hpart).resolve_right List.not_mem_nil).1
  · exact ((h.fits_of_extends hextends hpart).resolve_right List.not_mem_nil).2
  · rw [h.fits.2, hfile]
    rfl

end Order

/-- A command with its options and its operand behind it, in any order and in any spelling, asks
for the invocation, and so it does with the operand behind two dashes. When an option is given
again, anywhere, it is refused. -/
theorem parse_any_order (h : Asks command options operand invocation) {name : String}
    (hname : command.IsNamed name) :
    (∀ parts words, parts.Perm (options ++ (operand.map Part.operand).toList) →
        SpellAll parts words → parse (name :: words) = .ok invocation) ∧
      (∀ file, operand = some file → ∀ parts words, parts.Perm options → SpellAll parts words →
        parse (name :: (words ++ ["--", file])) = .ok invocation) ∧
      ∀ again, again ≠ [] → GiveAgain again options →
        (∀ parts words, parts.Perm (again ++ (options ++ (operand.map Part.operand).toList)) →
          SpellAll parts words → parse (name :: words) = .error .argumentConflict) ∧
        (∀ file, operand = some file → ∀ parts words, parts.Perm (again ++ options) →
          SpellAll parts words →
          parse (name :: (words ++ ["--", file])) = .error .argumentConflict) := by
  refine ⟨fun parts words horder hwords => ?_, fun file hfile parts words horder hwords => ?_,
    fun again hsome hagain => ⟨fun parts words horder hwords => ?_,
      fun file hfile parts words horder hwords => ?_⟩⟩
  · have hextends : Extends parts [] options operand := ⟨giveAgain_nil options, horder⟩
    obtain ⟨intake, hrecord, hoperand, hgiven⟩ := h.recordAll_of_perm hwords.suits horder
    rw [parse_of_isNamed hname, h.parse_eq hextends hwords, hrecord]
    simp only [Except.bind]
    rw [hoperand, if_neg (by cases operand <;> simp), h.invocation_eq hoperand hgiven]
  · have horder' : parts.Perm (options ++ ((none : Option String).map Part.operand).toList) := by
      simpa using horder
    have hextends : Extends parts [] options none := ⟨giveAgain_nil options, horder'⟩
    obtain ⟨intake, hrecord, -, hgiven⟩ := h.recordAll_of_perm hwords.suits horder'
    rw [parse_of_isNamed hname, h.parse_dashes hextends hwords hfile, hrecord]
    simp only [Except.bind]
    exact congrArg Except.ok (h.invocation_eq hfile.symm hgiven)
  · rw [parse_of_isNamed hname, h.parse_eq ⟨hagain, horder⟩ hwords,
      recordAll_of_giveAgain hagain hsome hwords.suits horder]
    rfl
  · have horder' : parts.Perm
        (again ++ (options ++ ((none : Option String).map Part.operand).toList)) := by
      simpa using horder
    rw [parse_of_isNamed hname, h.parse_dashes ⟨hagain, horder'⟩ hwords hfile,
      recordAll_of_giveAgain hagain hsome hwords.suits horder']
    rfl

end Asks

/-- A method is asked for by the short name of its command, with every option. -/
def sampleChoice : WorkspaceChoice := ⟨some "site", some "-O"⟩

theorem asks_sampleChoice (file : String) :
    Asks .method [.dryRun, .workspace "site", .python "-O"] (some file)
      (.run .method file true sampleChoice) :=
  .method file true sampleChoice

/-- Options in another order, the operand among them, or behind two dashes; and one option too
many. -/
theorem parse_any_order_sampleChoice :
    parse ["m", "--python=-O", "tests.py:12", "-w", "site", "-d"] =
        .ok (.run .method "tests.py:12" true sampleChoice) ∧
      parse ["method", "--workspace", "site", "--dry-run", "--python=-O", "--", "-tests.py"] =
        .ok (.run .method "-tests.py" true sampleChoice) ∧
      parse ["m", "-d", "--python=-O", "-w", "site", "tests.py:12", "--workspace=shop"] =
        .error .argumentConflict := by
  refine ⟨?_, ?_, ?_⟩
  · refine (parse_any_order (asks_sampleChoice "tests.py:12") (.inr rfl)).1
      [.python "-O", .operand "tests.py:12", .workspace "site", .dryRun] _ (by decide) ?_
    exact .cons (.pythonAttached "-O") (.cons (.operand (by decide))
      (.cons (.workspaceLetter (by decide) (by decide)) (.cons .dryRunLetter .nil)))
  · refine (parse_any_order (asks_sampleChoice "-tests.py") (.inl rfl)).2.1 "-tests.py" rfl
      [.workspace "site", .dryRun, .python "-O"]
      ["--workspace", "site", "--dry-run", "--python=-O"] (by decide) ?_
    exact .cons (.workspaceName (by decide) (by decide))
      (.cons .dryRunName (.cons (.pythonAttached "-O") .nil))
  · have hagain : GiveAgain [.workspace "shop"] [.dryRun, .workspace "site", .python "-O"] :=
      List.forall_mem_singleton.mpr ⟨workspaceOption, "shop", "site", rfl, by decide⟩
    refine ((parse_any_order (asks_sampleChoice "tests.py:12") (.inr rfl)).2.2 _ (by simp)
      hagain).1
      [.dryRun, .python "-O", .workspace "site", .operand "tests.py:12", .workspace "shop"] _
      (by decide) ?_
    exact .cons .dryRunLetter (.cons (.pythonAttached "-O")
      (.cons (.workspaceLetter (by decide) (by decide)) (.cons (.operand (by decide))
        (.cons (.workspaceAttached (by decide)) .nil))))

end Cli

end TestCursor
