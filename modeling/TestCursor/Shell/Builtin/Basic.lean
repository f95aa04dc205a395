import TestCursor.Shell.Lookup
import TestCursor.Utility.Format
import TestCursor.Utility.Permission

/-!
# Builtin commands

A builtin command takes its arguments, changes the shell and gives a status.
-/

namespace TestCursor

namespace Shell

namespace Builtin

/-- What a builtin command prints. -/
def print (text : String) : Act Nat := do
  match ← Act.writeStream 1 (Octets.toBytes text) with
  | none => return 0
  | some _ =>
    Act.complain (((← Act.process).command.getD "") ++ ": I/O error")
    return 1

/-- The number that an argument spells. -/
def number (text : String) : Act Nat := do
  let bad : Act Nat := Act.fail ("Illegal number: " ++ text)
  if text.isEmpty || !text.toList.all Char.isDigit then bad
  else
    match text.toNat? with
    | some value => if value ≤ 2147483647 then return value else bad
    | none => bad

/-- The options in front of some arguments: letters, of which those in `valued` have a value; and
the arguments behind them. -/
def optionsUpTo (known valued : List Char) :
    Nat → List String → Act (List (Char × String) × List String)
  | 0, args => return ([], args)
  | _, [] => return ([], [])
  | bound + 1, arg :: rest => do
    match arg.toList with
    | ['-'] => return ([], arg :: rest)
    | ['-', '-'] => return ([], rest)
    | '-' :: letters =>
      let (found, rest) ← inWord letters rest
      let (more, args) ← optionsUpTo known valued bound rest
      return (found ++ more, args)
    | _ => return ([], arg :: rest)
where
  /-- The options of one argument. -/
  inWord : List Char → List String → Act (List (Char × String) × List String)
    | [], rest => return ([], rest)
    | letter :: letters, rest => do
      if valued.contains letter then
        match letters, rest with
        | [], [] => Act.fail ("No arg for -" ++ String.ofList [letter] ++ " option")
        | [], value :: rest => return ([(letter, value)], rest)
        | letters, rest => return ([(letter, String.ofList letters)], rest)
      else if known.contains letter then
        let (found, rest) ← inWord letters rest
        return ((letter, "") :: found, rest)
      else Act.fail ("Illegal option -" ++ String.ofList [letter])

/-- The options in front of some arguments, and the arguments behind them. -/
def options (known valued : String) (args : List String) :
    Act (List (Char × String) × List String) :=
  optionsUpTo known.toList valued.toList args.length args

/-- Print arguments with their escapes replaced. -/
def echo (args : List String) : Act Nat := do
  let (hasBreak, args) := match args with
    | "-n" :: rest => (false, rest)
    | rest => (true, rest)
  let rec go : List String → List Char × Bool
    | [] => ([], false)
    | arg :: rest =>
      let (text, isEnd) := Format.unescape arg
      if isEnd then (text, true)
      else if rest.isEmpty then (text, false)
      else
        let (more, isEnd) := go rest
        (text ++ ' ' :: more, isEnd)
  let (text, isEnd) := go args
  print (String.ofList (if hasBreak && !isEnd then text ++ ['\n'] else text))

/-- Print arguments in a format. -/
def printf (args : List String) : Act Nat := do
  let (_, args) ← options "" "" args
  match args with
  | [] => Act.fail "usage: printf format [arg ...]"
  | format :: args =>
    let result := Format.print format args
    result.complaints.forM fun complaint => Act.complain complaint.text
    match result.failure with
    | some reason =>
      let _ ← print result.text
      Act.fail reason
    | none =>
      let status ← print result.text
      return if result.complaints.isEmpty then status else 1

/-- Print the current directory. -/
def pwd (args : List String) : Act Nat := do
  let (found, _) ← options "LP" "" args
  let p ← Act.process
  let isPhysical := (found.getLast?.map Prod.fst) == some 'P'
  print ((if isPhysical then Octets.encode (FileTree.pathOf p.cwd) else p.cwdText) ++ "\n")

/-- A path without its `.` and `..`, behind the pieces of the current one. The last piece of each
list stands in front. -/
def logicalPieces : List String → List String → List String
  | done, [] => done
  | done, piece :: rest =>
    if piece = "" || piece = "." then logicalPieces done rest
    else if piece = ".." then logicalPieces (done.drop 1) rest
    else logicalPieces (piece :: done) rest

/-- The path of a directory that is reached from another one. -/
def logicalPath (here path : String) : String :=
  let base := if path.toList.head? = some '/' then [] else (splitString '/' here).reverse
  let base := base.filter fun piece => piece != ""
  let pieces := (logicalPieces base (splitString '/' path)).reverse
  "/" ++ "/".intercalate pieces

/-- Make a directory the current one. Whether that was possible. -/
def changeDirectory (isPhysical : Bool) (path : String) : Act Bool := do
  let p ← Act.process
  let target := if isPhysical then path else logicalPath p.cwdText path
  match ← Act.find .target target with
  | .ok (place, .dir _) =>
    let text := if isPhysical then Octets.encode (FileTree.pathOf place) else target
    Act.modifyProcess fun p => { p with cwd := place, cwdText := text }
    Act.assign "OLDPWD" p.cwdText
    Act.exportVariable "OLDPWD"
    Act.assign "PWD" text
    Act.exportVariable "PWD"
    Act.doubtPrograms
    return true
  | _ => return false

/-- The path begins with a name, so that it is also looked for elsewhere. -/
def isSearched (path : String) : Bool :=
  match splitString '/' path with
  | first :: _ => first != "" && first != "." && first != ".."
  | [] => false

/-- Go to another directory. -/
def cd (args : List String) : Act Nat := do
  let (found, args) ← options "LP" "" args
  let isPhysical := (found.getLast?.map Prod.fst) == some 'P'
  let p ← Act.process
  let path := match args with
    | [] => (p.valueOf? "HOME").getD ""
    | "-" :: _ => (p.valueOf? "OLDPWD").getD ""
    | path :: _ => path
  let isBack := args.head? == some "-"
  let roads := if isSearched path then
      (splitString ':' ((p.valueOf? "CDPATH").getD "")).filter (· != "")
    else []
  let elsewhere : Option String ← roads.findSomeM? fun road => do
    let candidate := road ++ "/" ++ path
    match ← Act.node? candidate with
    | some (.dir _) => return some candidate
    | _ => return none
  let goal := elsewhere.getD (if path.isEmpty then "." else path)
  if ← changeDirectory isPhysical goal then
    if isBack || elsewhere.isSome then print ((← Act.process).cwdText ++ "\n") else return 0
  else Act.fail ("can't cd to " ++ (if path.isEmpty then "." else path))

def listMarked (word : String) (isMarked : Variable → Bool) : Act Nat := do
  let p ← Act.process
  let marked := (p.bindings.filter fun entry => isMarked entry.2).mergeSort
    fun x y => decide (x.1 ≤ y.1)
  print (String.join (marked.map fun (name, slot) =>
    word ++ " " ++ name ++ (match slot.value with
      | some value => "=" ++ quotedText value
      | none => "") ++ "\n"))

/-- Mark variables, and set those with a value. -/
def mark (word : String) (isMarked : Variable → Bool) (change : Variable → Variable)
    (args : List String) : Act Nat := do
  let (found, args) ← options "p" "" args
  if !found.isEmpty || args.isEmpty then listMarked word isMarked
  else
    args.forM fun arg => do
      let name := String.ofList (arg.toList.takeWhile (· != '='))
      if !isVariableName name then Act.fail (name ++ ": bad variable name")
      else
        if arg.contains '=' then
          Act.assign name (String.ofList (arg.toList.drop (name.length + 1)))
        Act.modifyProcess fun p =>
          let old := (p.bindings.lookup name).getD ⟨none, false, false⟩
          { p with bindings := putPair name (change old) p.bindings }
    return 0

/-- Mark variables for the commands that are run. -/
def exportAll (args : List String) : Act Nat :=
  mark "export" Variable.isExported (fun v => { v with isExported := true }) args

/-- Fix the values of variables. -/
def fixAll (args : List String) : Act Nat :=
  mark "readonly" Variable.isReadonly (fun v => { v with isReadonly := true }) args

/-- Put variables or the options aside until the function ends. -/
def localise (args : List String) : Act Nat := do
  if (← Act.process).frames.isEmpty then Act.fail "not in a function"
  else
    args.forM fun arg => do
      let name := String.ofList (arg.toList.takeWhile (· != '='))
      if arg = "-" then Act.makeOptionsLocal
      else if !isVariableName name then Act.fail (name ++ ": bad variable name")
      else
        Act.makeLocal name
        if arg.contains '=' then
          Act.assign name (String.ofList (arg.toList.drop (name.length + 1)))
    return 0

/-- Forget variables or functions. -/
def unsetAll (args : List String) : Act Nat := do
  let (found, args) ← options "vf" "" args
  let isFunction := (found.getLast?.map Prod.fst) == some 'f'
  args.forM fun name =>
    if isFunction then
      Act.modifyProcess fun p => { p with functions := dropPair name p.functions }
    else if isVariableName name then Act.unset name
    else Act.fail (name ++ ": bad variable name")
  return 0

/-- Drop arguments of the shell at the front. -/
def shift (args : List String) : Act Nat := do
  let count ← match args with
    | [] => pure 1
    | arg :: _ => number arg
  let p ← Act.process
  if p.arguments.length < count then Act.fail "can't shift that many"
  else
    Act.modifyProcess fun p =>
      { p with
        arguments := p.arguments.drop count, optionIndex := 1, optionOffset := none }
    return 0

def shellOptions : List (String × Option Char) :=
  [("errexit", some 'e'), ("noglob", some 'f'), ("ignoreeof", some 'I'),
   ("interactive", some 'i'), ("monitor", some 'm'), ("noexec", some 'n'), ("stdin", some 's'),
   ("xtrace", some 'x'), ("verbose", some 'v'), ("vi", some 'V'), ("emacs", some 'E'),
   ("noclobber", some 'C'), ("allexport", some 'a'), ("notify", some 'b'),
   ("nounset", some 'u'), ("privileged", some 'p'), ("nolog", none), ("debug", none)]

/-- The letters of the options, in the order in which a shell tells them. -/
def optionLetters : List Char := (shellOptions.filterMap Prod.snd).reverse

/-- Turn an option on or off. Without a terminal, jobs cannot be controlled. -/
def setOption (letter : Char) (isOn : Bool) : Act Unit := do
  if letter = 'm' && isOn then Act.complain "can't access tty; job control turned off"
  else
    Act.modifyProcess fun p =>
      let others := p.options.filter (· != letter)
      { p with
        options := if isOn then
            optionLetters.filter fun c => c == letter || others.contains c
          else others }

def listOptions (isOn : Bool) : Act Nat := do
  let p ← Act.process
  let isSet (letter : Option Char) : Bool := (letter.map p.options.contains).getD false
  if isOn then
    print ("Current option settings\n" ++ String.join (shellOptions.map fun (name, letter) =>
      name ++ String.ofList (List.replicate (16 - name.length) ' ') ++
        (if isSet letter then "on" else "off") ++ "\n"))
  else
    print (String.join (shellOptions.map fun (name, letter) =>
      "set " ++ (if isSet letter then "-" else "+") ++ "o " ++ name ++ "\n"))

/-- Turn an option on or off by its name. -/
def setNamed (name : String) (isOn : Bool) : Act Unit := do
  match shellOptions.lookup name with
  | some (some letter) => setOption letter isOn
  | some none => return
  | none => Act.fail ("Illegal option " ++ (if isOn then "-" else "+") ++ "o " ++ name)

/-- Turn options on or off by letters. What is left of the arguments, and whether options were
only listed. -/
def setLetters (isOn : Bool) : List Char → List String → Act (List String)
  | [], args => return args
  | 'o' :: letters, args => do
    match args with
    | [] =>
      let _ ← listOptions isOn
      setLetters isOn letters []
    | name :: rest =>
      setNamed name isOn
      setLetters isOn letters rest
  | letter :: letters, args => do
    if optionLetters.contains letter then
      setOption letter isOn
      setLetters isOn letters args
    else Act.fail ("Illegal option -" ++ String.ofList [letter])

/-- Turn options on or off. The arguments behind them, and whether there was an end of the
options. -/
def setOptions : Nat → List String → Act (List String × Bool)
  | 0, args => return (args, false)
  | _, [] => return ([], false)
  | bound + 1, arg :: rest => do
    match arg.toList with
    | ['-'] =>
      setOption 'x' false
      setOption 'v' false
      return (rest, !rest.isEmpty)
    | ['-', '-'] => return (rest, true)
    | '-' :: letters => setOptions bound (← setLetters true letters rest)
    | '+' :: letters => setOptions bound (← setLetters false letters rest)
    | _ => return (arg :: rest, true)

def listVariables : Act Nat := do
  let p ← Act.process
  let known := (p.bindings.filterMap fun (name, slot) =>
    slot.value.map fun value => (name, value)).mergeSort fun x y => decide (x.1 ≤ y.1)
  print (String.join (known.map fun (name, value) => name ++ "=" ++ quotedText value ++ "\n"))

/-- Turn options on or off, and set the arguments of the shell. -/
def setAll (args : List String) : Act Nat := do
  if args.isEmpty then listVariables
  else
    let (args, hasArguments) ← setOptions args.length args
    if hasArguments then
      Act.modifyProcess fun p =>
        { p with arguments := args, optionIndex := 1, optionOffset := none }
    return 0

/-- Define aliases, or show them. -/
def aliasAll (args : List String) : Act Nat := do
  let p ← Act.process
  let shown (name text : String) : String := name ++ "=" ++ quotedText text ++ "\n"
  if args.isEmpty then
    let all := p.aliases.mergeSort fun x y => decide (x.1 ≤ y.1)
    print (String.join (all.map fun (name, text) => shown name text))
  else
    args.foldlM (fun status arg => do
      match arg.toList with
      | c :: rest =>
        if rest.contains '=' then
          let name := String.ofList (c :: rest.takeWhile (· != '='))
          let text := String.ofList (arg.toList.drop (name.length + 1))
          Act.modifyProcess fun p => { p with aliases := putPair name text p.aliases }
          return status
        else
          match (← Act.process).aliases.lookup arg with
          | some text =>
            let _ ← print (shown arg text)
            return status
          | none =>
            Act.say 2 ("alias: " ++ arg ++ " not found\n")
            return 1
      | [] =>
        Act.say 2 ("alias: " ++ arg ++ " not found\n")
        return 1) 0

/-- Forget aliases. -/
def unaliasAll (args : List String) : Act Nat := do
  let (found, args) ← options "a" "" args
  if !found.isEmpty then
    Act.modifyProcess fun p => { p with aliases := [] }
    return 0
  else
    args.foldlM (fun status name => do
      if ((← Act.process).aliases.lookup name).isSome then
        Act.modifyProcess fun p => { p with aliases := dropPair name p.aliases }
        return status
      else
        Act.say 2 ("unalias: " ++ name ++ " not found\n")
        return 1) 0

/-- The characters of a line of the input, each with whether a backslash quotes it, and whether
the line ended properly. -/
def inputLine (isRaw : Bool) : Nat → Act (List (Char × Bool) × Bool)
  | 0 => return ([], false)
  | bound + 1 => do
    match ← Act.readByte 0 with
    | none => return ([], false)
    | some byte =>
      let c := Char.ofNat byte.toNat
      if c = '\n' then return ([], true)
      else if c = '\x00' then inputLine isRaw bound
      else if c = '\\' && !isRaw then
        match ← Act.readByte 0 with
        | none => return ([], false)
        | some byte =>
          let (rest, isEnd) ← inputLine isRaw bound
          if byte = 10 then return (rest, isEnd)
          else return ((Char.ofNat byte.toNat, true) :: rest, isEnd)
      else
        let (rest, isEnd) ← inputLine isRaw bound
        return ((c, false) :: rest, isEnd)

/-- How many characters a line of the input can have. -/
def maxLine : Nat := 1000000

def readLine (args : List String) : Act Nat := do
  let (found, names) ← options "r" "pt" args
  if names.isEmpty then Act.fail "arg count"
  else
    let (line, isEnd) ← inputLine (found.any fun entry => entry.1 == 'r') maxLine
    let values := fieldsUpTo (← Act.process).separators names.length line
    let rec assignAll : List String → List String → Act Unit
      | [], _ => return
      | name :: names, values => do
        Act.assign name (values.head?.getD "")
        assignAll names (values.drop 1)
    assignAll names values
    return if isEnd then 0 else 1

/-- A mask with three octal digits or more. -/
def maskText (mask : Nat) : String :=
  String.ofList (Floating.padded 4 (Nat.toDigits 8 mask))

/-- The permissions that a mask leaves. -/
def maskNames (mask : Nat) : String :=
  let granted (shift : Nat) : String :=
    let bits := 7 - mask / Nat.pow 8 shift % 8
    (if bits &&& 4 != 0 then "r" else "") ++ (if bits &&& 2 != 0 then "w" else "") ++
      (if bits &&& 1 != 0 then "x" else "")
  "u=" ++ granted 2 ++ ",g=" ++ granted 1 ++ ",o=" ++ granted 0

/-- Show or set the permissions that new files do not get. -/
def umask (args : List String) : Act Nat := do
  let (found, args) ← options "S" "" args
  match args with
  | [] =>
    let mask := (← Act.process).mask
    print ((if found.isEmpty then maskText mask else maskNames mask) ++ "\n")
  | arg :: _ =>
    let set (mask : Nat) : Act Nat := do
      Act.modifyProcess fun p => { p with mask := mask }
      return 0
    if (arg.toList.head?.map Char.isDigit).getD false then
      if arg.toList.all (Expression.isDigitOf 8) then
        set (Expression.numberOf 8 arg.toList % 512)
      else Act.fail ("Illegal number: " ++ arg)
    else
      match Permission.changeMask? (← Act.process).mask arg with
      | some mask => set mask
      | none => Act.fail ("Illegal mode: " ++ arg)

/-! ## Limits -/

/-- The kinds of limits: the letter, the name with the unit, and the limit of a new process. -/
def limitKinds : List (Char × String × Limit) :=
  [('t', "time(seconds)", ⟨none, none⟩), ('f', "file(blocks)", ⟨none, none⟩),
   ('d', "data(kbytes)", ⟨none, none⟩), ('s', "stack(kbytes)", ⟨some 8192, none⟩),
   ('c', "coredump(blocks)", ⟨none, none⟩), ('m', "memory(kbytes)", ⟨none, none⟩),
   ('l', "locked memory(kbytes)", ⟨some 64, some 64⟩), ('p', "process", ⟨none, none⟩),
   ('n', "nofiles", ⟨some 1048576, some 1048576⟩), ('v', "vmemory(kbytes)", ⟨none, none⟩),
   ('w', "locks", ⟨none, none⟩), ('r', "rtprio", ⟨some 0, some 0⟩)]

def limitOf (letter : Char) : Act Limit := do
  match (← Act.process).limits.lookup letter with
  | some limit => return limit
  | none => return ((limitKinds.lookup letter).map Prod.snd).getD ⟨none, none⟩

def limitText (isSoft : Bool) (limit : Limit) : String :=
  match if isSoft then limit.soft else limit.hard with
  | some value => toString value
  | none => "unlimited"

/-- A limit allows no more than another one. -/
def fitsLimit (limit bound : Option Nat) : Bool :=
  match limit, bound with
  | _, none => true
  | none, some _ => false
  | some limit, some bound => limit ≤ bound

/-- Set a limit. The upper one can only be lowered. -/
def setLimit (letter : Char) (isSoft isHard : Bool) (value : Option Nat) : Act Nat := do
  let old ← limitOf letter
  let new : Limit := ⟨if isSoft then value else old.soft, if isHard then value else old.hard⟩
  let refuse (reason : Reason) : Act Nat :=
    Act.fail ("error setting limit (" ++ reason.text ++ ")")
  if !fitsLimit new.soft new.hard then refuse .invalid
  else if !fitsLimit new.hard old.hard then refuse .notPermitted
  else
    Act.modifyProcess fun p =>
      { p with limits := (letter, new) :: p.limits.filter fun entry => entry.1 != letter }
    return 0

/-- Show or set the limits of the shell. -/
def ulimit (args : List String) : Act Nat := do
  let (found, args) ← options "HSatfdsmcnplvwr" "" args
  let given := found.map Prod.fst
  let reach := given.filter fun letter => letter == 'H' || letter == 'S'
  let isSoft := reach.getLast? != some 'H'
  let isHard := reach.getLast? != some 'S'
  let isAll := given.contains 'a'
  let letter := ((given.filter fun letter => !"HSa".toList.contains letter).getLast?).getD 'f'
  match args with
  | [] =>
    if isAll then
      let lines ← limitKinds.mapM fun (letter, name, _) => do
        let blanks := String.ofList (List.replicate (20 - name.length) ' ')
        return name ++ blanks ++ " " ++ limitText isSoft (← limitOf letter) ++ "\n"
      print (String.join lines)
    else print (limitText isSoft (← limitOf letter) ++ "\n")
  | [value] =>
    if isAll then Act.fail "too many arguments"
    else if value = "unlimited" then setLimit letter isSoft isHard none
    else if value.toList.all Char.isDigit then
      setLimit letter isSoft isHard (some (value.toNat?.getD 0))
    else Act.fail "bad number"
  | _ => Act.fail "too many arguments"

/-! ## Options of scripts -/

/-- What a step of reading options gives: the letter, its value if it has one, the complaint, the
number of the next argument and the next letter in the one before it; or the end of the options. -/
structure OptionStep where
  letter : String
  value : Option (Option String)
  complaint : Option String
  index : Nat
  offset : Option Nat
  isEnd : Bool

/-- The next option among some arguments. -/
def nextOption (spec : List Char) (args : List String) (index : Nat) (offset : Option Nat) :
    OptionStep :=
  let isQuiet := spec.head? == some ':'
  let inWord := match offset with
    | some offset =>
      if 1 < index then ((args[index - 2]?).getD "").toList.drop offset else []
    | none => []
  let start : Option (List Char × Nat) :=
    if !inWord.isEmpty then some (inWord, index)
    else
      match (args[index - 1]?).map String.toList with
      | some ['-', '-'] => none
      | some ('-' :: c :: rest) => some (c :: rest, index + 1)
      | _ => none
  let ended : Nat :=
    if inWord.isEmpty && args[index - 1]? == some "--" then index + 1 else index
  match start with
  | none => ⟨"?", none, none, ended, none, true⟩
  | some ([], next) => ⟨"?", none, none, next, none, true⟩
  | some (c :: rest, next) =>
    let letter := String.ofList [c]
    let behind := if rest.isEmpty then none
      else some (((args[next - 2]?).getD "").length - rest.length)
    let known := (spec.dropWhile (· != c))
    if c = ':' || known.isEmpty then
      if isQuiet then ⟨"?", some (some letter), none, next, behind, false⟩
      else ⟨"?", some none, some ("Illegal option -" ++ letter), next, behind, false⟩
    else if known.drop 1 |>.head? |> (· == some ':') then
      if !rest.isEmpty then
        ⟨letter, some (some (String.ofList rest)), none, next, none, false⟩
      else
        match args[next - 1]? with
        | some value => ⟨letter, some (some value), none, next + 1, none, false⟩
        | none =>
          if isQuiet then ⟨":", some (some letter), none, next, none, false⟩
          else ⟨"?", some none, some ("No arg for -" ++ letter ++ " option"), next, none, false⟩
    else ⟨letter, some (some ""), none, next, behind, false⟩

/-- Take the next option out of arguments into a variable. -/
def getopts (args : List String) : Act Nat := do
  match args with
  | spec :: name :: given =>
    let p ← Act.process
    let words := if given.isEmpty then p.arguments else given
    let (index, offset) := if words.length + 1 < p.optionIndex then (1, none)
      else (p.optionIndex, p.optionOffset)
    let step := nextOption spec.toList words index offset
    match step.complaint with
    | some text => Act.say 2 (text ++ "\n")
    | none => pure ()
    match step.value with
    | some (some value) => Act.assign "OPTARG" value
    | some none => Act.unset "OPTARG"
    | none => pure ()
    Act.assign "OPTIND" (toString step.index)
    Act.modifyProcess fun p => { p with optionIndex := step.index, optionOffset := step.offset }
    Act.assign name step.letter
    return if step.isEnd then 1 else 0
  | _ => Act.fail "Usage: getopts optstring var [arg...]"

end Builtin

end Shell

end TestCursor
