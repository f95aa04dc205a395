import TestCursor.Shell.Builtin.Basic
import TestCursor.Shell.Redirection
import TestCursor.Utility.Basic

/-!
# Programs

A file is a program of the system, a script with the path of its interpreter on the first line, or
a script for the shell. A program of the system is a file with a mark and the name of the program.
-/

namespace TestCursor

namespace Shell

/-- What the file of a program of the system begins with. -/
def programMark : String := "\x7fELF"

def shellPath : String := "/bin/sh"

/-- A program of the system with its words: the name that it is called by and its arguments. -/
structure Executable where
  program : String
  words : List String
  deriving Repr, Inhabited

/-- A blank in the line that names an interpreter. -/
def isLineBlank (c : Char) : Bool := c == ' ' || c == '\t'

/-- The interpreter that a script names on its first line, and the argument that it gets. -/
def interpreterOf? (text : List Char) : Option (String × List String) :=
  match text with
  | '#' :: '!' :: text =>
    let line := (text.takeWhile (· != '\n')).dropWhile isLineBlank
    let path := line.takeWhile fun c => !isLineBlank c
    let argument := ((line.drop path.length).dropWhile isLineBlank).reverse.dropWhile isLineBlank
    if path.isEmpty then none
    else
      some (String.ofList path,
        if argument.isEmpty then [] else [String.ofList argument.reverse])
  | _ => none

/-- How many interpreters of interpreters are looked for. -/
def maxInterpreters : Nat := 5

/-- How the system calls the shells. -/
def shellPrograms : List String := ["bash", "dash", "sh"]

namespace Act

/-- What runs the file of a path that was called with some words. -/
def executableUpTo : Nat → String → List String → Act (Except Reason Executable)
  | 0, _, _ => return .error .tooManyLinks
  | bound + 1, path, words => do
    match ← find .target path with
    | .error reason => return .error reason
    | .ok (_, .file content mode) =>
      if mode &&& 0o111 == 0 then return .error .denied
      else
        let text := Octets.ofBytes content
        if text.startsWith programMark then
          return .ok ⟨(text.drop programMark.length).toString, words⟩
        else
          match interpreterOf? text.toList with
          | some (interpreter, argument) =>
            executableUpTo bound interpreter
              (interpreter :: argument ++ path :: words.drop 1)
          | none => executableUpTo bound shellPath (shellPath :: path :: words.drop 1)
    | .ok _ => return .error .denied

/-- What runs the file of a path that was called with some words. -/
def executableAt (path : String) (words : List String) : Act (Except Reason Executable) :=
  executableUpTo maxInterpreters path words

/-- Where programs are looked up if no path is set. -/
def barePath : List String := ["/bin", "/usr/bin"]

/-- What runs a command that is a program. `isBare` tells that a path need not be set. -/
def executableOf (isBare : Bool) (words : List String) : Act (Except Reason Executable) := do
  let name := words.headD ""
  if name.contains '/' then executableAt name words
  else
    let hasPath := ((← process).valueOf? "PATH").isSome
    let path ← if isBare && !hasPath then pure barePath else searchPath
    match ← searchIn name .notFound path with
    | .ok path => executableAt path words
    | .error reason => return .error reason

/-- Run programs for another program. -/
def host (run : Runner) : Host where
  prepare words := do
    match ← executableOf true words with
    | .ok _ => return none
    | .error reason => return some reason
  invoke words := inChild run (execute words)
  become words := execute words
  settle := settle run
where
  /-- A program runs in the place of the shell. -/
  execute (words : List String) : Act Unit := do
    if ((← process).valueOf? "PATH").isNone then
      modifyProcess fun p => p.define "PATH" (":".intercalate barePath) false
    run ⟨true, false⟩ (.simple 0 [] ((["command", "exec", "--"] ++ words).map literal) [])

/-! ## A shell as a program -/

/-- The search path of a shell whose environment has none. -/
def defaultPath : String := "/usr/local/sbin:/usr/local/bin:/usr/sbin:/usr/bin:/sbin:/bin"

/-- The path of the current directory, in the way in which the environment spells it if that is
right. -/
def directoryText : Act String := do
  let p ← process
  match p.valueOf? "PWD" with
  | some text =>
    if text.startsWith "/" then
      match ← find .target text with
      | .ok (place, _) =>
        return if place = p.cwd then text else Octets.encode (FileTree.pathOf p.cwd)
      | .error _ => return Octets.encode (FileTree.pathOf p.cwd)
    else return Octets.encode (FileTree.pathOf p.cwd)
  | none => return Octets.encode (FileTree.pathOf p.cwd)

/-- A process becomes a new shell. It keeps its environment, its streams and what it ignores. -/
def becomeShell (name : String) : Act Unit := do
  modifyProcess fun p =>
    let kept := p.bindings.filter fun (name, slot) =>
      slot.isExported && slot.value.isSome && isVariableName name && name != "IFS" &&
        name != "OPTIND" && name != "PPID"
    let fresh : Process :=
      { p with
        shell := p.number, name := name, arguments := []
        bindings := kept.map fun (name, slot) => (name, { slot with isReadonly := false })
        frames := [], functions := [], aliases := [], options := []
        traps := []
        ignored := p.ignored ++ (p.traps.filter fun entry => entry.2.isEmpty).map Prod.fst
        status := 0, outputStatus := 0, loops := 0, calls := 0, line := 1, scriptLine := 1
        command := none, jobs := [], lastJob := none, programs := []
        optionIndex := 1, optionOffset := none
        savedStatus := none }
    let fresh := fresh.define "IFS" defaultSeparators false
    let fresh := fresh.define "OPTIND" "1" false
    let fresh := fresh.define "PPID" (toString p.parent) false
    let fresh := fresh.define "PS1" "# " false
    let fresh := fresh.define "PS2" "> " false
    let fresh := fresh.define "PS4" "+ " false
    if (fresh.valueOf? "PATH").isSome then fresh else fresh.define "PATH" defaultPath false
  let directory ← directoryText
  modifyProcess fun p => { p with cwdText := directory }.define "PWD" directory true

/-- What a shell is asked to run. -/
inductive ScriptSource
  | text (text : String)
  | file (path : String)
  | input
  deriving Repr

/-- The letters among the options of a shell: whether a script follows, and whether it is read
from the input. The arguments behind the options. -/
def shellLetters (isOn : Bool) :
    List Char → List String → Bool × Bool → Act (List String × Bool × Bool)
  | [], args, found => return (args, found)
  | 'c' :: letters, args, (_, isInput) => shellLetters isOn letters args (true, isInput)
  | 'l' :: letters, args, found => shellLetters isOn letters args found
  | 'o' :: letters, args, found => do
    match args with
    | [] =>
      let _ ← Builtin.listOptions isOn
      shellLetters isOn letters [] found
    | name :: rest =>
      Builtin.setNamed name isOn
      shellLetters isOn letters rest found
  | letter :: letters, args, (isText, isInput) => do
    let _ ← Builtin.setLetters isOn [letter] []
    shellLetters isOn letters args (isText, isInput || (letter == 's' && isOn))

/-- The options in front of the arguments of a shell. -/
def shellOptions : Nat → List String → Bool × Bool → Act (List String × Bool × Bool)
  | 0, args, found => return (args, found)
  | _, [], found => return ([], found)
  | bound + 1, arg :: rest, found => do
    match arg.toList with
    | ['-'] | ['-', '-'] => return (rest, found)
    | '-' :: letters =>
      let (rest, found) ← shellLetters true letters rest found
      shellOptions bound rest found
    | '+' :: letters =>
      let (rest, found) ← shellLetters false letters rest found
      shellOptions bound rest found
    | _ => return (arg :: rest, found)

def takeShellArguments (args : List String) : Act ScriptSource := do
  let (args, isText, isInput) ← shellOptions args.length args (false, false)
  let setArguments (args : List String) : Act Unit :=
    modifyProcess fun p => { p with arguments := args }
  let setName : List String → Act Unit
    | [] => return
    | name :: args => modifyProcess fun p => { p with name := name, arguments := args }
  match isText, args with
  | true, [] => fail "-c requires an argument"
  | true, text :: rest =>
    setName rest
    return .text text
  | false, [] =>
    setArguments []
    return .input
  | false, path :: rest =>
    if isInput then
      setArguments args
      return .input
    else
      setArguments rest
      return .file path

/-- Run a new shell in a process. -/
def runShell (run : Runner) (words : List String) : Act Unit := do
  becomeShell (words.headD "sh")
  modifyProcess fun p => { p with line := 0 }
  match ← takeShellArguments (words.drop 1) with
  | .text text => runText run ⟨true, false⟩ text
  | .file path =>
    match ← readFile none path with
    | .ok bytes =>
      enter path
      runFile run bytes
    | .error .isDirectory => setStatus 0
    | .error reason => fail (openingComplaint .read path reason)
  | .input =>
    match ← readStream none 0 with
    | .ok bytes => runFile run bytes
    | .error _ => setStatus 0
where
  /-- The shell takes the name of its script. -/
  enter (path : String) : Act Unit :=
    modifyProcess fun p => { p with name := path }

/-- Run a program as the rest of a process. -/
def become {α : Type} (utilities : String → Option Utility) (run : Runner)
    (executable : Executable) : Act α := do
  let jobs := (← process).jobs
  if shellPrograms.contains executable.program then
    let ending ← toEnd run (runShell run executable.words)
    modifyProcess fun p => { p with jobs := jobs }
    endAs ending
  else
    let name := executable.program
    match utilities name with
    | some utility =>
      modifyProcess fun p => { p with name := executable.words.headD name, lost := none }
      let status ← utility (host run) (executable.words.drop 1)
      modifyProcess fun p => { p with jobs := jobs }
      endAs (.exited status)
    | none => endAs (.exited 127)

end Act

end Shell

end TestCursor
