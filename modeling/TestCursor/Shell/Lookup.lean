import TestCursor.Shell.Script

/-!
# Looking up commands

A command is a keyword, an alias, a function, a builtin or a program. A program is a file; its name
is looked up in the directories of a path.
-/

namespace TestCursor

namespace Shell

/-- The builtin commands that are not special. -/
def regularNames : List String :=
  ["[", "alias", "bg", "cd", "chdir", "command", "echo", "false", "fg", "getopts", "hash", "jobs",
   "kill", "printf", "pwd", "read", "test", "true", "type", "ulimit", "umask", "unalias", "wait"]

/-- A command is built into the shell. -/
def isBuiltin (name : String) : Bool := specialNames.contains name || regularNames.contains name

/-- The builtins whose arguments can be assignments. -/
def assigningNames : List String := ["alias", "export", "local", "readonly"]

/-- A text in quotes that the shell reads as it is. -/
def quotedText (text : String) : String :=
  go (text.length + 1) text.toList
where
  /-- The text between quotes, and the quotes in it between others. -/
  go : Nat → List Char → String
    | 0, _ => ""
    | fuel + 1, text =>
      let plain := text.takeWhile (· != '\'')
      let rest := text.drop plain.length
      let marks := rest.takeWhile (· == '\'')
      let here := "'" ++ String.ofList plain ++ "'" ++
        (if marks.isEmpty then "" else "\"" ++ String.ofList marks ++ "\"")
      let after := rest.drop marks.length
      if after.isEmpty then here else here ++ go fuel after

/-- What a word stands for as a command. -/
inductive Meaning
  | keyword
  | aliased (text : String)
  | function (body : Command)
  | special
  | regular
  /-- A program, with its path; and whether it was looked up before. -/
  | program (path : String) (isKnown : Bool)
  /-- No command, and why. -/
  | missing (reason : Reason)

def pathIn (directory name : String) : String :=
  if directory.isEmpty then name else directory ++ "/" ++ name

namespace Act

/-- The directories in which programs are looked up. -/
def searchPath : Act (List String) := do
  let path := ((← process).valueOf? "PATH").getD ""
  return (splitOn ':' path.toList).map String.ofList

/-- The file of a name in the first of some directories that has it. A file that cannot be run
does not count. -/
def searchIn (name : String) : Reason → List String → Act (Except Reason String)
  | reason, [] => return .error reason
  | reason, directory :: directories => do
    let path := pathIn directory name
    match ← node? path with
    | some (.file _ mode) =>
      if mode &&& 0o111 != 0 then return .ok path
      else searchIn name .denied directories
    | some _ => searchIn name .denied directories
    | none => searchIn name reason directories

def searchProgram (name : String) : Act (Except Reason String) := do
  searchIn name .notFound (← searchPath)

/-! ## Programs that were looked up -/

/-- The program of a name that was looked up before. -/
def knownProgram? (name : String) : Act (Option KnownProgram) :=
  return (← process).programs.find? fun program => program.name == name

def forgetProgram (name : String) : Act Unit := modifyProcess fun p =>
  { p with programs := p.programs.filter fun program => program.name != name }

/-- Remember a program, in the place of the one of its name. -/
def rememberProgram (new : KnownProgram) : Act Unit := modifyProcess fun p =>
  let isOld := p.programs.any fun program => program.name == new.name
  { p with
    programs := if isOld then
        p.programs.map fun program => if program.name == new.name then new else program
      else p.programs ++ [new] }

/-- What was found before depends on the directory of the shell, which has changed. -/
def doubtPrograms : Act Unit := modifyProcess fun p =>
  { p with programs := p.programs.map fun program => { program with isStale := true } }

/-- Look for a program that was found before, but not in the directories in front of the one that
had it, unless they depend on the directory of the shell. -/
def searchAgain (program : KnownProgram) (directories : List String) :
    Act (Except Reason String) := do
  let (before, after) := directories.splitAt program.index
  let relative := before.filter fun directory => !directory.startsWith "/"
  match ← searchIn program.name .notFound relative with
  | .ok path => return .ok path
  | .error reason =>
    if (after.headD "").startsWith "/" then return .ok program.path
    else searchIn program.name reason after

/-- The program of a name, which is remembered from now on. -/
def lookUp (name : String) : Act (Except Reason String) := do
  let directories ← searchPath
  let known ← knownProgram? name
  if let some program := known then
    if !program.isStale then return .ok program.path
  let found ← match known with
    | some program => searchAgain program directories
    | none => searchIn name .notFound directories
  match found with
  | .ok path =>
    let index := directories.findIdx fun directory => pathIn directory name == path
    rememberProgram ⟨name, path, index, false⟩
    return .ok path
  | .error reason =>
    forgetProgram name
    return .error reason

/-- The path at which a program that was found is run. If it is gone, another one behind it is
taken. -/
def runnablePath (name path : String) : Act String := do
  match ← node? path with
  | some _ => return path
  | none =>
    let directories ← searchPath
    let index := directories.findIdx fun directory => pathIn directory name == path
    match ← searchIn name .notFound (directories.drop (index + 1)) with
    | .ok other => return other
    | .error _ => return path

/-- What a word stands for. Keywords and aliases count only where a script is read, and functions
not where they are passed over. -/
def meaningOf (isText usesFunctions : Bool) (word : String) : Act Meaning := do
  let p ← process
  if isText && keywords.contains word then return .keyword
  else
    match if isText then p.aliases.lookup word else none with
    | some text => return .aliased text
    | none =>
      match if usesFunctions then p.functions.lookup word else none with
      | some body => return .function body
      | none =>
        if word.contains '/' then return .program word false
        else if specialNames.contains word then return .special
        else if regularNames.contains word then return .regular
        else
          match ← knownProgram? word with
          | some program => return .program program.path true
          | none =>
            match ← lookUp word with
            | .ok path => return .program path false
            | .error reason => return .missing reason

/-- How the shell tells that a program cannot be run. -/
def reasonText : Reason → String
  | .notFound | .notDirectory => "not found"
  | reason => reason.text

end Act

end Shell

end TestCursor
