import TestCursor.Target
import TestCursor.Workspace

/-!
# The grammar of the command line

The first word is a command. Behind it stand options, in any order, and the operand of commands
that take one. An option has a long name, and perhaps a letter; it is a switch or takes a value.
The value stands in the same word, or is the next word, which then must not look like an option.
Behind a word of two dashes no word is an option.
-/

namespace TestCursor

namespace Cli

/-- What is wrong with a command line, or what it asks for in place of a command. -/
inductive Usage
  /-- A word is no option or operand of the command. -/
  | unknownArgument
  /-- The first word is no command. -/
  | invalidSubcommand
  /-- The value of an option is missing, or empty where it must not be. -/
  | invalidValue
  | missingOperand
  /-- An option is given twice. -/
  | argumentConflict
  /-- A value is given to a switch. -/
  | tooManyValues
  | help
  | version
  | missingCommand
  deriving DecidableEq, Repr

inductive OptionKind
  | switch
  /-- The option takes a value, which can be empty or not. -/
  | value (allowsEmpty : Bool)
  | help
  | version
  deriving DecidableEq, Repr

structure OptionSpec where
  name : String
  letter : Option Char
  kind : OptionKind
  deriving DecidableEq, Repr

structure CommandSpec where
  name : String
  otherName : Option String
  takesOperand : Bool
  options : List OptionSpec
  deriving DecidableEq, Repr

/-- Words taken in so far, for one command. -/
structure Intake where
  operand : Option String
  /-- The options that were given, with their values. -/
  given : List (String × String)
  /-- The option that was named last and waits for its value, or for the end of its turn. -/
  pending : Option (OptionSpec × Option String)
  /-- No further word is an option. -/
  onlyOperands : Bool
  deriving DecidableEq, Repr

namespace Intake

/-- No word was taken in. -/
def empty : Intake := ⟨none, [], none, false⟩

/-- Record an option. A value can be refused, and no option is given twice. -/
def give (intake : Intake) (option : OptionSpec) (value : String) : Except Usage Intake :=
  if (intake.given.lookup option.name).isSome then .error .argumentConflict
  else
    match option.kind with
    | .help => .error .help
    | .version => .error .version
    | .switch => .ok { intake with given := intake.given ++ [(option.name, value)] }
    | .value allowsEmpty =>
      if value.isEmpty && !allowsEmpty then .error .invalidValue
      else .ok { intake with given := intake.given ++ [(option.name, value)] }

/-- End the turn of the option that was named last. -/
def settle (intake : Intake) : Except Usage Intake :=
  match intake.pending with
  | none => .ok intake
  | some (_, none) => .error .invalidValue
  | some (option, some value) => { intake with pending := none }.give option value

def takeSwitch (intake : Intake) (option : OptionSpec) : Except Usage Intake :=
  match intake.settle with
  | .error e => .error e
  | .ok intake => intake.give option ""

/-- Take in an option with its value in the same word. -/
def takeAttached (intake : Intake) (option : OptionSpec) (value : String) :
    Except Usage Intake :=
  match intake.settle with
  | .error e => .error e
  | .ok intake => intake.give option value

/-- Take in an option whose value is the next word. -/
def takeNamed (intake : Intake) (option : OptionSpec) : Except Usage Intake :=
  match intake.settle with
  | .error e => .error e
  | .ok intake => .ok { intake with pending := some (option, none) }

def takeOperand (command : CommandSpec) (intake : Intake) (word : String) :
    Except Usage Intake :=
  if command.takesOperand && intake.operand.isNone then
    match intake.settle with
    | .error e => .error e
    | .ok intake => .ok { intake with operand := some word }
  else .error .unknownArgument

/-- Take in a word that is a value when an option waits for one, and an operand otherwise. -/
def takePlain (command : CommandSpec) (intake : Intake) (word : String) : Except Usage Intake :=
  match intake.pending with
  | some (option, none) => .ok { intake with pending := some (option, some word) }
  | _ => takeOperand command intake word

/-- The value in a word of letters: what stands behind the letter of the option, and behind a
sign of equality if one comes first. -/
def attachedValue : List Char → String
  | '=' :: rest => String.ofList rest
  | rest => String.ofList rest

/-- Take in the letters of a word that begins with one dash. -/
def takeLetters (command : CommandSpec) : Intake → List Char → Except Usage Intake
  | intake, [] => .ok intake
  | intake, c :: rest =>
    match command.options.find? fun option => option.letter = some c with
    | none => .error .unknownArgument
    | some option =>
      match option.kind with
      | .value _ =>
        if rest.isEmpty then intake.takeNamed option
        else intake.takeAttached option (attachedValue rest)
      | _ =>
        match intake.takeSwitch option with
        | .error e => .error e
        | .ok intake => takeLetters command intake rest

/-- The name of a long option and the value behind its sign of equality. -/
def splitLong (word : List Char) : List Char × Option (List Char) :=
  match word.dropWhile (· != '=') with
  | [] => (word, none)
  | _ :: value => (word.takeWhile (· != '='), some value)

/-- Take in a word that begins with two dashes, given without them. -/
def takeLong (command : CommandSpec) (intake : Intake) (word : List Char) :
    Except Usage Intake :=
  let (name, value) := splitLong word
  match command.options.find? fun option => option.name = String.ofList name with
  | none => .error .unknownArgument
  | some option =>
    match option.kind, value with
    | .value _, some value => intake.takeAttached option (String.ofList value)
    | .value _, none => intake.takeNamed option
    | _, some _ => .error .tooManyValues
    | _, none => intake.takeSwitch option

def take (command : CommandSpec) (intake : Intake) (word : String) : Except Usage Intake :=
  if intake.onlyOperands then takeOperand command intake word
  else
    match word.toList with
    | ['-', '-'] => .ok { intake with onlyOperands := true }
    | '-' :: '-' :: rest => intake.takeLong command rest
    | '-' :: c :: rest => intake.takeLetters command (c :: rest)
    | _ => takePlain command intake word

/-- Take in words one after the other. -/
def takeAll (command : CommandSpec) : Intake → List String → Except Usage Intake
  | intake, [] => .ok intake
  | intake, word :: words =>
    match intake.take command word with
    | .error e => .error e
    | .ok intake => takeAll command intake words

/-- All words were taken in. -/
def finish (command : CommandSpec) (intake : Intake) : Except Usage Intake :=
  match intake.settle with
  | .error e => .error e
  | .ok intake =>
    if command.takesOperand && intake.operand.isNone then .error .missingOperand else .ok intake

def has (intake : Intake) (name : String) : Bool := (intake.given.lookup name).isSome

def value? (intake : Intake) (name : String) : Option String := intake.given.lookup name

end Intake

/-- What a command line asks for. -/
inductive Invocation
  /-- Run the tests of a target around a location. The target is a method, a class or a file. -/
  | run (target : Target) (location : String) (dryRun : Bool) (choice : WorkspaceChoice)
  /-- Run the whole suite. -/
  | app (dryRun : Bool) (choice : WorkspaceChoice)
  /-- Run the last tests again. -/
  | previous (dryRun : Bool) (choice : WorkspaceChoice)
  /-- Show what can be run from a location. -/
  | analyze (location : String) (json : Bool) (choice : WorkspaceChoice)
  /-- Write a configuration. -/
  | init (dir : Option String) (force : Bool)
  deriving DecidableEq, Repr

def helpOption : OptionSpec := ⟨"help", some 'h', .help⟩

def versionOption : OptionSpec := ⟨"version", some 'V', .version⟩

/-- The options that tell where the workspace is and which interpreter to use. -/
def choiceOptions : List OptionSpec :=
  [⟨"workspace", some 'w', .value false⟩, ⟨"python", none, .value true⟩, helpOption]

/-- The options of commands that run tests. -/
def runOptions : List OptionSpec := ⟨"dry-run", some 'd', .switch⟩ :: choiceOptions

inductive Command
  | method
  | testClass
  | file
  | app
  | previous
  | analyze
  | init
  deriving DecidableEq, Repr

namespace Command

def all : List Command := [.method, .testClass, .file, .app, .previous, .analyze, .init]

/-- The names, the operand and the options of a command. -/
def spec : Command → CommandSpec
  | .method => ⟨"method", some "m", true, runOptions⟩
  | .testClass => ⟨"class", some "c", true, runOptions⟩
  | .file => ⟨"file", some "f", true, runOptions⟩
  | .app => ⟨"app", none, false, runOptions⟩
  | .previous => ⟨"previous", some "p", false, runOptions⟩
  | .analyze => ⟨"analyze", some "a", true, ⟨"json", none, .switch⟩ :: choiceOptions⟩
  | .init =>
    ⟨"init", none, false,
      [⟨"cwd", none, .value true⟩, ⟨"force", some 'f', .switch⟩, helpOption]⟩

def ofWord? (word : String) : Option Command :=
  all.find? fun command => command.spec.name = word || command.spec.otherName = some word

/-- What a command asks for with the words that were taken in. -/
def invocation (command : Command) (intake : Intake) : Invocation :=
  let operand := intake.operand.getD ""
  let dryRun := intake.has "dry-run"
  let choice : WorkspaceChoice := ⟨intake.value? "workspace", intake.value? "python"⟩
  match command with
  | .method => .run .method operand dryRun choice
  | .testClass => .run .testClass operand dryRun choice
  | .file => .run .file operand dryRun choice
  | .app => .app dryRun choice
  | .previous => .previous dryRun choice
  | .analyze => .analyze operand (intake.has "json") choice
  | .init => .init (intake.value? "cwd") (intake.has "force")

/-- What a command asks for with the words behind it. -/
def parse (command : Command) (words : List String) : Except Usage Invocation :=
  match Intake.empty.takeAll command.spec words with
  | .error e => .error e
  | .ok intake =>
    match intake.finish command.spec with
    | .error e => .error e
    | .ok intake => .ok (command.invocation intake)

end Command

/-- The word that asks for help about a command. -/
def helpWord : String := "help"

def topSpec : CommandSpec := ⟨"", none, false, [helpOption, versionOption]⟩

/-- What the words behind the one for help ask for. -/
def parseHelp : List String → Usage
  | [] => .help
  | [word] =>
    if word = helpWord || (Command.ofWord? word).isSome then .help else .invalidSubcommand
  | _ => .invalidSubcommand

/-- A word names a command or asks for help. -/
def isCommandWord (word : String) : Bool := word = helpWord || (Command.ofWord? word).isSome

/-- What stands in front of a command can only be wrong, or ask for something else. -/
def parseFront (word : String) : Usage :=
  match word.toList with
  | '-' :: '-' :: rest =>
    match Intake.empty.takeLong topSpec rest with
    | .error e => e
    | .ok _ => .missingCommand
  | '-' :: c :: rest =>
    match Intake.empty.takeLetters topSpec (c :: rest) with
    | .error e => e
    | .ok _ => .missingCommand
  | _ => .invalidSubcommand

/-- What a command line asks for. -/
def parse : List String → Except Usage Invocation
  | [] => .error .missingCommand
  | "--" :: [] => .error .missingCommand
  | "--" :: word :: _ =>
    .error (if isCommandWord word then .unknownArgument else .invalidSubcommand)
  | word :: words =>
    if word = helpWord then .error (parseHelp words)
    else
      match Command.ofWord? word with
      | some command => command.parse words
      | none => .error (parseFront word)

end Cli

end TestCursor
