import TestCursor.Shell.Lookup

/-!
# Programs of the system

A program takes its arguments, reads and writes the streams of its process and the files, and
gives a status. Texts are texts of bytes.

The programs stand in for the utilities of a system, as far as lines for the shell commonly use
them. Each follows the POSIX description of its utility. Its long options, its other additions, its
messages and its statuses are those of version 9.1 of the core utilities, or of the package that
the utility comes with.
-/

namespace TestCursor

open Shell

/-- What a program needs of the system to start others. -/
structure Host where
  /-- Why a command cannot be run, if it cannot. -/
  prepare : List String → Act (Option Reason)
  /-- Run a command and wait for its end. -/
  invoke : List String → Act Ending
  /-- Run a command in the place of the program. -/
  become : List String → Act Unit
  /-- Let the processes in the background run. -/
  settle : Act Unit

/-- A program, without its name. -/
abbrev Utility := Host → List String → Act Nat

namespace Utility

/-- Print a text. What becomes of output that cannot be written is settled at the end of the
program. -/
def print (text : String) : Act Unit := do
  match ← Act.writeStream 1 (Octets.toBytes text) with
  | none => return
  | some reason => Act.modifyProcess fun p => { p with lost := some reason }

def calledName : Act String := return (← Act.process).name

/-- Print a complaint of the program. -/
def complain (text : String) : Act Unit := do
  Act.say 2 ((← calledName) ++ ": " ++ text ++ "\n")

/-- Print what the program did. -/
def announce (text : String) : Act Unit := do
  print ((← calledName) ++ ": " ++ text ++ "\n")

/-- A text between quotes. -/
def quoted (text : String) : String := "'" ++ text ++ "'"

/-- What is said about where help can be found. -/
def hintText : Act String :=
  return "Try '" ++ (← calledName) ++ " --help' for more information."

/-- Say where help can be found. -/
def hint : Act Unit := do Act.say 2 ((← hintText) ++ "\n")

/-- Complain about the arguments. -/
def usage (text : String) : Act Nat := do
  complain text
  hint
  return 1

/-! ## Options -/

/-- An option of a program. -/
structure Flag where
  letter : Char
  /-- Its long name, if it has one. -/
  name : String
  hasValue : Bool

/-- The flags that some letters name. A colon behind a letter tells that it has a value. -/
def flagsOf : List Char → List Flag
  | [] => []
  | letter :: ':' :: rest => ⟨letter, "", true⟩ :: flagsOf rest
  | letter :: rest => ⟨letter, "", false⟩ :: flagsOf rest

/-- The options that were given, and the other arguments. -/
structure Given where
  options : List (Char × String)
  operands : List String

namespace Given

def has (given : Given) (letter : Char) : Bool := given.options.any fun entry => entry.1 == letter

def value? (given : Given) (letter : Char) : Option String := given.options.reverse.lookup letter

def values (given : Given) (letter : Char) : List String :=
  given.options.filterMap fun entry => if entry.1 == letter then some entry.2 else none

end Given

/-- The options in the letters of one argument, and what is left of the others. -/
def lettersOf (flags : List Flag) :
    List Char → List String → Except String (List (Char × String) × List String)
  | [], rest => .ok ([], rest)
  | letter :: letters, rest =>
    match flags.find? fun flag => flag.letter == letter with
    | none => .error ("invalid option -- '" ++ String.ofList [letter] ++ "'")
    | some flag =>
      if flag.hasValue then
        match letters, rest with
        | [], [] =>
          .error ("option requires an argument -- '" ++ String.ofList [letter] ++ "'")
        | [], value :: rest => .ok ([(letter, value)], rest)
        | letters, rest => .ok ([(letter, String.ofList letters)], rest)
      else
        (lettersOf flags letters rest).map fun (found, rest) => ((letter, "") :: found, rest)

/-- The option of a long name, and what is left of the others. -/
def longOption (flags : List Flag) (text : List Char) (rest : List String) :
    Except String ((Char × String) × List String) :=
  let name := String.ofList (text.takeWhile (· != '='))
  let value := text.drop (name.length + 1)
  let hasValue := name.length < text.length
  let named := flags.filter fun flag => !flag.name.isEmpty && flag.name.startsWith name
  match (named.find? fun flag => flag.name == name) <|> named.head? with
  | none => .error ("unrecognized option '--" ++ String.ofList text ++ "'")
  | some flag =>
    if !flag.hasValue then .ok ((flag.letter, String.ofList value), rest)
    else if hasValue then .ok ((flag.letter, String.ofList value), rest)
    else
      match rest with
      | value :: rest => .ok ((flag.letter, value), rest)
      | [] => .error ("option '--" ++ flag.name ++ "' requires an argument")

/-- Tell options from operands. Options stand anywhere, or only in front of the operands. -/
def parseUpTo (flags : List Flag) (isOrdered : Bool) : Nat → List String → Except String Given
  | 0, args => .ok ⟨[], args⟩
  | _, [] => .ok ⟨[], []⟩
  | bound + 1, arg :: rest =>
    let more (found : List (Char × String)) (rest : List String) : Except String Given :=
      (parseUpTo flags isOrdered bound rest).map fun given =>
        { given with options := found ++ given.options }
    match arg.toList with
    | ['-', '-'] => .ok ⟨[], rest⟩
    | '-' :: '-' :: text =>
      match longOption flags text rest with
      | .ok (found, rest) => more [found] rest
      | .error e => .error e
    | '-' :: c :: letters =>
      match lettersOf flags (c :: letters) rest with
      | .ok (found, rest) => more found rest
      | .error e => .error e
    | _ =>
      if isOrdered then .ok ⟨[], arg :: rest⟩
      else
        (parseUpTo flags isOrdered bound rest).map fun given =>
          { given with operands := arg :: given.operands }

/-- Tell options from operands, and go on with them. If they are wrong, something is said about
the use of the program. -/
def withOptionsOr (sayUse : Act Unit) (flags : List Flag) (isOrdered : Bool) (failure : Nat)
    (args : List String) (act : Given → Act Nat) : Act Nat := do
  match parseUpTo flags isOrdered args.length args with
  | .ok given => act given
  | .error "unrecognized option '--help'" =>
    print ("Usage: " ++ (← calledName) ++ " [OPTION]...\n")
    return 0
  | .error "unrecognized option '--version'" =>
    print (((← calledName).splitOn "/").getLastD "" ++ " (GNU coreutils) 9.1\n")
    return 0
  | .error reason =>
    complain reason
    sayUse
    return failure

/-- Tell options from operands, and go on with them. -/
def withOptions : List Flag → Bool → Nat → List String → (Given → Act Nat) → Act Nat :=
  withOptionsOr hint

/-- Tell options of one letter from operands, and go on with them. -/
def withLetters (letters : String) (args : List String) (act : Given → Act Nat) : Act Nat :=
  withOptions (flagsOf letters.toList) false 1 args act

/-! ## Input -/

/-- The bytes of a file, or of the input for `-`, all of them or at most so many. -/
def readPart (limit : Option Nat) (path : String) : Act (Except Reason String) := do
  let result ← if path = "-" then Act.readStream limit 0 else Act.readFile limit path
  return result.map Octets.ofBytes

/-- The bytes of a file, or of the input for `-`. -/
def readInput (path : String) : Act (Except Reason String) := readPart none path

/-- The text of the input; empty if there is none. -/
def readAllInput : Act String := do
  match ← readInput "-" with
  | .ok text => return text
  | .error _ => return ""

/-- How long an answer can be. -/
def maxAnswer : Nat := 10000

/-- The line that comes next in the input, at most so long. -/
def answerLine : Nat → Act (List Char)
  | 0 => return []
  | bound + 1 => do
    match ← Act.readByte 0 with
    | none => return []
    | some byte =>
      if byte = 10 then return [] else return Char.ofNat byte.toNat :: (← answerLine bound)

/-- Ask on the stream of complaints. The answer is yes if it begins so. -/
def confirm (question : String) : Act Bool := do
  Act.say 2 ((← calledName) ++ ": " ++ question)
  let answer ← answerLine maxAnswer
  return answer.head? = some 'y' || answer.head? = some 'Y'

/-- Do something with the text of each file, or of the input if no file is named. What is said about
a file that cannot be read is given. -/
def eachInputOr (complaint : String → Reason → String) (paths : List String)
    (act : String → String → Act Unit) : Act Nat := do
  (if paths.isEmpty then ["-"] else paths).foldlM (fun status path => do
    match ← readInput path with
    | .ok text =>
      act path text
      return status
    | .error reason =>
      complain (complaint path reason)
      return 1) 0

/-- Do something with the text of each file, or of the input if no file is named. The status is
that of a failure if some file cannot be read. -/
def eachInput (failure : Nat) (paths : List String)
    (act : String → String → Act Unit) : Act Nat := do
  (if paths.isEmpty then ["-"] else paths).foldlM (fun status path => do
    match ← readInput path with
    | .ok text =>
      act path text
      return status
    | .error reason =>
      complain (path ++ ": " ++ reason.text)
      return failure) 0

/-- The texts of all files one after another. -/
def allInput (failure : Nat) (paths : List String) : Act (String × Nat) := do
  (if paths.isEmpty then ["-"] else paths).foldlM (fun (all, status) path => do
    match ← readInput path with
    | .ok text => return (all ++ text, status)
    | .error reason =>
      complain (path ++ ": " ++ reason.text)
      return (all, failure)) ("", 0)

/-- The lines of a text. The last one need not end. -/
def linesOf (text : String) : List String :=
  let pieces := text.splitOn "\n"
  if pieces.getLast? = some "" then pieces.dropLast else pieces

def markedLines (text : String) : List (String × Bool) :=
  let lines := linesOf text
  let isComplete := text.endsWith "\n"
  match lines.getLast? with
  | some last => lines.dropLast.map (fun line => (line, true)) ++ [(last, isComplete)]
  | none => []

/-- Lines as a text. -/
def unlines (lines : List String) : String := String.join (lines.map fun line => line ++ "\n")

/-- A number that a text spells. -/
def natural? (text : String) : Option Nat :=
  if !text.isEmpty && text.toList.all Char.isDigit then text.toNat? else none

/-- A size with a suffix for its unit. -/
def size? (text : String) : Option Nat :=
  let digits := text.toList.takeWhile Char.isDigit
  let unit := String.ofList (text.toList.drop digits.length)
  let factor? := [("", 1), ("c", 1), ("w", 2), ("b", 512), ("k", 1024), ("K", 1024), ("KiB", 1024),
    ("kB", 1000), ("KB", 1000), ("M", 1048576), ("MiB", 1048576), ("MB", 1000000)].lookup unit
  if digits.isEmpty then none
  else factor?.map fun factor => Expression.numberOf 10 digits * factor

/-- A text brought to a width with blanks in front. -/
def padLeft (width : Nat) (text : String) : String :=
  String.ofList (List.replicate (width - text.length) ' ') ++ text

/-- The status of several things: that of a failure if one failed. -/
def forEach {α : Type} (items : List α) (act : α → Act Bool) : Act Nat :=
  items.foldlM (fun status item => do
    if ← act item then return status else return 1) 0

end Utility

end TestCursor
