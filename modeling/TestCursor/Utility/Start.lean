import TestCursor.Shell.Builtin.Condition
import TestCursor.Utility.Basic
import TestCursor.Utility.Format

/-!
# Starting programs

Programs that start others, in another environment or with arguments that they read, and the
smallest programs there are.
-/

namespace TestCursor

open Shell

namespace Utility

/-! ## Small programs -/

/-- End well. -/
def succeed : Utility := fun _ _ => return 0

/-- End badly. -/
def failQuietly : Utility := fun _ _ => return 1

/-- The letters of the options of printing arguments: whether a line break follows, and whether
escapes are replaced. The arguments behind them. -/
def echoOptions : Bool × Bool → List String → (Bool × Bool) × List String
  | found, [] => (found, [])
  | found, arg :: rest =>
    match arg.toList with
    | '-' :: c :: letters =>
      if (c :: letters).all "neE".toList.contains then
        echoOptions ((c :: letters).foldl
          (fun (hasBreak, unescapes) letter =>
            if letter = 'n' then (false, unescapes) else (hasBreak, letter == 'e')) found) rest
      else (found, arg :: rest)
    | _ => (found, arg :: rest)

/-- Print arguments. -/
def echo : Utility := fun _ args => do
  let ((hasBreak, unescapes), args) := echoOptions (true, false) args
  let text := " ".intercalate args
  let (text, isEnd) := if unescapes then Format.unescape text else (text.toList, false)
  print (String.ofList (if hasBreak && !isEnd then text ++ ['\n'] else text))
  return 0

/-- Print arguments in a format. -/
def printf : Utility := fun _ args => do
  let args := if args.head? = some "--" then args.drop 1 else args
  match args with
  | [] => usage "missing operand"
  | format :: args =>
    let result := Format.print format args
    print result.text
    (result.complaints.map Format.Complaint.programText ++ result.failure.toList).forM complain
    return if result.complaints.isEmpty && result.failure.isNone then 0 else 1

/-- Print the current directory. -/
def pwd : Utility := fun _ _ => do
  let p ← Act.process
  match (← get).tree.get? p.cwd with
  | some _ =>
    print (Octets.encode (FileTree.pathOf p.cwd) ++ "\n")
    return 0
  | none =>
    complain "couldn't find directory entry in '..' with matching i-node"
    return 1

/-- The status of a condition. One that cannot be read has a status of its own. -/
def conditionStatus (act : Act Nat) : Act Nat := do
  try act
  catch interrupt => if interrupt = .failed then return 2 else throw interrupt

/-- Ask about texts, numbers and files. -/
def test : Utility := fun _ args => conditionStatus (testCondition args)

/-- Ask about texts, numbers and files, between brackets. -/
def testBracketed : Utility := fun _ args => conditionStatus (Shell.testBracketed args)

/-- How long a word says to wait, in thousandths of a second. -/
def duration? (word : String) : Option Nat :=
  let digits := word.toList.takeWhile fun c => c.isDigit || c == '.'
  let unit := String.ofList (word.toList.drop digits.length)
  let factor? := [("", 1), ("s", 1), ("m", 60), ("h", 3600), ("d", 86400)].lookup unit
  let whole := digits.takeWhile Char.isDigit
  let fraction := ((digits.drop (whole.length + 1)) ++ ['0', '0', '0']).take 3
  if word = "inf" || word = "infinity" then some 1000000000000
  else if !digits.any Char.isDigit || !fraction.all Char.isDigit then none
  else factor?.map fun factor => Expression.numberOf 10 (whole ++ fraction) * factor

/-- Wait. What is in the background has its turn meanwhile. -/
def sleep : Utility := fun host args => do
  let args := if args.head? = some "--" then args.drop 1 else args
  if args.isEmpty then
    complain "missing operand"
    hint
    return 1
  else
    match args.find? fun word => (duration? word).isNone with
    | some bad =>
      complain ("invalid time interval " ++ quoted bad)
      hint
      return 1
    | none =>
      if args.any fun word => duration? word != some 0 then
        host.settle
        Act.modifyAttributes Attributes.wait
      return 0

/-- Print a line again and again. -/
def yes : Utility := fun _ args =>
  withOptions [] true 1 args fun given => do
    let words := given.operands
    let line := (if words.isEmpty then "y" else " ".intercalate words) ++ "\n"
    let rec go : Nat → Act Nat
      | 0 => return 1
      | bound + 1 => do
        match ← Act.writeStream 1 (Octets.toBytes line) with
        | none => go bound
        | some reason =>
          complain ("standard output: " ++ reason.text)
          return 1
    go (2 * maxPipeWrites)

/-- Print the user. -/
def whoami : Utility := fun _ args => withLetters "" args fun given => do
  match given.operands with
  | [] =>
    print "root\n"
    return 0
  | extra :: _ => usage ("extra operand " ++ quoted extra)

def groupName (number : Nat) : String :=
  if number = 65534 then "nogroup"
  else ((User.all.find? fun user => user.number == number).map User.name).getD (toString number)

/-- What is told about a user. -/
def identityText (given : Given) (user : User) : String :=
  let isNamed := given.has 'n'
  if given.has 'u' then if isNamed then user.name else toString user.number
  else if given.has 'g' || given.has 'G' then
    if isNamed then groupName user.group else toString user.group
  else
    let pair (number : Nat) (name : String) : String := toString number ++ "(" ++ name ++ ")"
    let group := pair user.group (groupName user.group)
    "uid=" ++ pair user.number user.name ++ " gid=" ++ group ++ " groups=" ++ group

/-- Print who a user is. -/
def identity : Utility := fun _ args => withLetters "ugGnr" args fun given => do
  let kinds := (given.options.map Prod.fst).filter "ugG".toList.contains
  let isFull := kinds.isEmpty
  if 1 < kinds.eraseDups.length then
    complain "cannot print \"only\" of more than one choice"
    return 1
  else if isFull && (given.has 'n' || given.has 'r') then
    complain "cannot print only names or real IDs in default format"
    return 1
  else
    forEach (if given.operands.isEmpty then ["root"] else given.operands) fun word => do
      let named := User.find? word <|>
        (natural? word).bind fun number => User.all.find? fun user => user.number == number
      match named with
      | some user =>
        print (identityText given user ++ "\n")
        return true
      | none =>
        complain (quoted word ++ ": no such user")
        return false

/-- Print the groups of users. -/
def groups : Utility := fun _ args => withLetters "" args fun given => do
  if given.operands.isEmpty then
    print "root\n"
    return 0
  else
    forEach given.operands fun word => do
      match User.find? word with
      | some user =>
        print (word ++ " : " ++ groupName user.group ++ "\n")
        return true
      | none =>
        complain (quoted word ++ ": no such user")
        return false

/-- Print the name of the system. -/
def uname : Utility := fun _ args => withLetters "asnrvmpio" args fun given => do
  let known := [('s', "Linux"), ('n', "localhost"), ('r', "6.1.0"), ('v', "#1 SMP"),
    ('m', "x86_64"), ('o', "GNU/Linux")]
  let shown := known.filter fun (letter, _) => given.has 'a' || given.has letter
  print ((if shown.isEmpty then "Linux" else " ".intercalate (shown.map Prod.snd)) ++ "\n")
  return 0

/-- Print the name of the machine. -/
def hostname : Utility := fun _ _ => do
  print "localhost\n"
  return 0

/-- Print the kind of the machine. -/
def arch : Utility := fun _ _ => do
  print "x86_64\n"
  return 0

/-- Print how many processes can run at the same time. -/
def nproc : Utility := fun _ _ => do
  print "1\n"
  return 0

/-- Say that nobody logged in. -/
def logname : Utility := fun _ _ => do
  complain "no login name"
  return 1

/-- Say that the input is no terminal. -/
def tty : Utility := fun _ _ => do
  print "not a tty\n"
  return 1

/-- Print the paths of programs. -/
def which : Utility := fun _ args => withLetters "as" args fun given =>
  forEach given.operands fun name => do
    let found ← if name.contains '/' then do
        match ← Act.node? name with
        | some (.file _ mode) =>
          pure (if mode &&& 0o111 != 0 then Except.ok name else .error Reason.denied)
        | _ => pure (.error .notFound)
      else Act.searchProgram name
    match found with
    | .ok path =>
      print (path ++ "\n")
      return true
    | .error _ => return false

/-! ## Other environments -/

/-- Run a command in the place of a program. -/
def becomeCommand (describes : String → String) (host : Host)
    (command : List String) : Act Nat := do
  match ← host.prepare command with
  | none =>
    host.become command
    Act.status
  | some reason =>
    complain (describes (quoted (command.headD "")) ++ ": " ++ reason.text)
    return if reason = .notFound then 127 else 126

def printEnvironment (finish : String) : Act Unit := do
  let p ← Act.process
  print (String.join (p.environment.map fun (name, value) => name ++ "=" ++ value ++ finish))

/-- Run a command in another environment. -/
def env : Utility := fun host args =>
  let flags := flagsOf "i0vu:C:S:".toList ++
    [⟨'i', "ignore-environment", false⟩, ⟨'u', "unset", true⟩, ⟨'C', "chdir", true⟩,
     ⟨'0', "null", false⟩]
  withOptions flags true 125 args fun given => do
    let isBare := given.operands.head? = some "-"
    let operands := if isBare then given.operands.drop 1 else given.operands
    if given.has 'i' || isBare then
      Act.modifyProcess fun p =>
        { p with bindings := p.bindings.filter fun entry => !entry.2.isExported }
    (given.values 'u').forM fun name =>
      Act.modifyProcess fun p => { p with bindings := dropPair name p.bindings }
    let isSetting (word : String) : Bool := word.contains '='
    (operands.takeWhile isSetting).forM fun word => do
      let name := String.ofList (word.toList.takeWhile (· != '='))
      let value := String.ofList (word.toList.drop (name.length + 1))
      Act.modifyProcess fun p => p.define name value true
    let command := operands.dropWhile isSetting
    let hasPlace ← match given.value? 'C' with
      | none => pure true
      | some path => do
        match ← Act.find .target path with
        | .ok (place, .dir _) =>
          Act.modifyProcess fun p => { p with cwd := place }
          pure true
        | _ =>
          complain ("cannot change directory to " ++ quoted path ++
            ": No such file or directory")
          pure false
    if !hasPlace then return 125
    else if command.isEmpty then
      printEnvironment (if given.has '0' then "\x00" else "\n")
      return 0
    else becomeCommand id host command

/-- Print variables of the environment. -/
def printenv : Utility := fun _ args => do
  if args.isEmpty then
    printEnvironment "\n"
    return 0
  else
    let environment := (← Act.process).environment
    forEach args fun name => do
      match environment.lookup name with
      | some value =>
        print (value ++ "\n")
        return true
      | none => return false

/-- Run a command that outlives the terminal. -/
def nohup : Utility := fun host args => do
  let command := if args.head? = some "--" then args.drop 1 else args
  if command.isEmpty then
    complain "missing operand"
    hint
    return 125
  else
    Act.modifyProcess fun p => { p with traps := (1, "") :: p.traps }
    becomeCommand (fun command => "failed to run command " ++ command) host command

/-- Run a command with another priority. -/
def nice : Utility := fun host args =>
  let flags := flagsOf "n:".toList ++ [⟨'n', "adjustment", true⟩]
  withOptions flags true 125 args fun given => do
    let isNumber (text : String) : Bool :=
      (natural? (text.dropWhile fun c => c == '-' || c == '+').toString).isSome
    match (given.value? 'n').filter (!isNumber ·) with
    | some value =>
      complain ("invalid adjustment " ++ quoted value)
      return 125
    | none =>
      if given.operands.isEmpty then
        print "0\n"
        return 0
      else becomeCommand id host given.operands

/-- Run a command for a time. Only one that waits takes time. -/
def timeout : Utility := fun host args =>
  let flags := flagsOf "s:k:vp".toList ++
    [⟨'s', "signal", true⟩, ⟨'k', "kill-after", true⟩, ⟨'f', "foreground", false⟩,
     ⟨'p', "preserve-status", false⟩, ⟨'v', "verbose", false⟩]
  withOptions flags true 125 args fun given => do
    match given.operands with
    | limit :: command :: rest =>
      match duration? limit with
      | none =>
        complain ("invalid time interval " ++ quoted limit)
        hint
        return 125
      | some limit =>
        let waits := (rest.filterMap duration?).foldl (· + ·) 0
        if command = "sleep" && limit != 0 && limit < waits then return 124
        else
          becomeCommand (fun command => "failed to run command " ++ command) host
            (command :: rest)
    | _ =>
      hint
      return 125

/-! ## Arguments from the input -/

/-- The arguments in a text, which stand between blanks or quotes, each with whether it is the last
one on its line. An error names the quote that nothing closes. -/
def wordsOf : Nat → Option (List Char) → List Char → Except String (List (String × Bool))
  | 0, _, _ => .ok []
  | _, word, [] =>
    .ok (match word with
      | some word => [(String.ofList word.reverse, true)]
      | none => [])
  | bound + 1, word, c :: rest =>
    let close (isEnd : Bool) (rest : List Char) : Except String (List (String × Bool)) :=
      match word with
      | some word =>
        (wordsOf bound none rest).map ((String.ofList word.reverse, isEnd) :: ·)
      | none => wordsOf bound none rest
    let add (text rest : List Char) : Except String (List (String × Bool)) :=
      wordsOf bound (some (text.reverse ++ word.getD [])) rest
    if c = '\n' then close true rest
    else if Expression.isSpace c then
      close (rest.head? == some '\n') rest
    else if c = '\'' || c = '"' then
      let inside := rest.takeWhile fun d => d != c && d != '\n'
      let kind := if c = '"' then "double" else "single"
      match rest.drop inside.length with
      | d :: after => if d = c then add inside after else .error kind
      | [] => .error kind
    else if c = '\\' then
      match rest with
      | d :: after => add [d] after
      | [] => close true []
    else add [c] rest

/-- A list in parts of a length. -/
def chunks {α : Type} (size : Nat) : Nat → List α → List (List α)
  | 0, _ => []
  | _, [] => []
  | bound + 1, items => items.take size :: chunks size bound (items.drop size)

/-- The arguments on so many lines each. -/
def chunksOfLines (size : Nat) (words : List (String × Bool)) : List (List String) :=
  let lines := words.foldr
    (fun (word, isEnd) (lines : List (List String)) =>
      match isEnd, lines with
      | false, line :: lines => (word :: line) :: lines
      | _, lines => [word] :: lines) []
  (chunks size (lines.length + 1) lines).map List.flatten

/-- Run a command whose failures count together. The status so far, and whether no more commands
are run. -/
def runCounted (host : Host) (command : List String) (status : Nat × Bool) :
    Act (Nat × Bool) := do
  if status.2 then return status
  else
    let name := command.headD ""
    match ← host.prepare command with
    | some reason =>
      complain (name ++ ": " ++ reason.text)
      return (if reason = .notFound then 127 else 126, true)
    | none =>
      match ← host.invoke command with
      | .killed signal =>
        complain (name ++ ": terminated by signal " ++ toString signal)
        return (125, true)
      | .exited 0 => return status
      | .exited 255 =>
        complain (name ++ ": exited with status 255; aborting")
        return (124, true)
      | .exited _ => return (123, false)

/-- The arguments in which the option to replace a text has that text. -/
def replaceArguments (args : List String) : List String :=
  args.map fun arg =>
    match arg.toList with
    | '-' :: 'i' :: text => "-I" ++ (if text.isEmpty then "\x7b\x7d" else String.ofList text)
    | _ => arg

/-- Run a command with arguments from the input. -/
def xargs : Utility := fun host args =>
  let flags := flagsOf "0rtpxn:L:I:d:P:s:E:a:".toList ++
    [⟨'0', "null", false⟩, ⟨'r', "no-run-if-empty", false⟩, ⟨'t', "verbose", false⟩,
     ⟨'n', "max-args", true⟩, ⟨'L', "max-lines", true⟩, ⟨'I', "replace", true⟩,
     ⟨'d', "delimiter", true⟩, ⟨'P', "max-procs", true⟩, ⟨'a', "arg-file", true⟩]
  withOptions flags true 1 (replaceArguments args) fun given => do
    let badSize := ['n', 'L'].find? fun letter =>
      ((given.value? letter).map fun text => ((natural? text).filter (0 < ·)).isNone).getD false
    match badSize with
    | some letter =>
      let text := (given.value? letter).getD ""
      complain (if (natural? text).isSome then
          "value " ++ text ++ " for -" ++ String.ofList [letter] ++ " option should be >= 1"
        else
          "invalid number \"" ++ text ++ "\" for -" ++ String.ofList [letter] ++ " option")
      hint
      return 1
    | none =>
      match ← readInput ((given.value? 'a').getD "-") with
      | .error reason =>
        complain ("Cannot open input file: " ++ reason.text)
        return 1
      | .ok text =>
        let command := if given.operands.isEmpty then ["echo"] else given.operands
        let separator? := if given.has '0' then some "\x00"
          else (given.value? 'd').map fun text => String.ofList (Format.unescape text).1
        let lines (separator : String) : List (String × Bool) :=
          let pieces := text.splitOn separator
          (if pieces.getLast? = some "" then pieces.dropLast else pieces).map fun piece =>
            (piece, true)
        let isReplacing := given.has 'I'
        let words : Except String (List (String × Bool)) := match separator? with
          | some separator => .ok (lines separator)
          | none =>
            if isReplacing then
              .ok ((lines "\n").filterMap fun (line, _) =>
                let line := String.ofList (line.toList.dropWhile Expression.isSpace)
                if line.isEmpty then none else some (line, true))
            else wordsOf (text.length + 1) none text.toList
        match words with
        | .error quote =>
          complain ("unmatched " ++ quote ++ " quote; by default quotes are special to " ++
            "xargs unless you use the -0 option")
          return 1
        | .ok words =>
          let plain := words.map Prod.fst
          let groups := match given.value? 'I', (given.value? 'n').bind natural?,
              (given.value? 'L').bind natural? with
            | some mark, _, _ => plain.map fun word =>
              command.map fun (part : String) => part.replace mark word
            | none, some size, _ =>
              (chunks size (plain.length + 1) plain).map fun group => command ++ group
            | none, none, some size => (chunksOfLines size words).map fun group => command ++ group
            | none, none, none => if plain.isEmpty then [] else [command ++ plain]
          let groups := if groups.isEmpty && !given.has 'r' && !isReplacing then [command]
            else groups
          let null ← Act.addOpening ⟨.device .null, 0, false, true, false⟩
          if !given.has 'a' then Act.bind 0 (some null)
          let (status, _) ← groups.foldlM (fun status group => do
            if given.has 't' then Act.say 2 (" ".intercalate group ++ "\n")
            runCounted host group status) (0, false)
          return status

end Utility

end TestCursor
