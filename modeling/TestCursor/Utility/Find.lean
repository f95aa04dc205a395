import TestCursor.Regex.Reader
import TestCursor.Utility.Files
import TestCursor.Utility.Listing

/-!
# Looking for files

A program that walks along directories and asks about each file that it meets. Asking can also
print the file, run a command or remove the file.
-/

namespace TestCursor

open Shell

namespace Seek

/-- How a number is compared with another one. -/
inductive Bound
  | more (number : Nat)
  | fewer (number : Nat)
  | just (number : Nat)
  deriving Repr

/-- The number is as the bound says. -/
def Bound.holds (bound : Bound) (value : Nat) : Bool :=
  match bound with
  | .more number => number < value
  | .fewer number => value < number
  | .just number => value == number

/-- How the bits of a file are compared with others. -/
inductive Bits
  | just (bits : Nat)
  | all (bits : Nat)
  | some (bits : Nat)
  deriving Repr

/-- What is asked about a file. -/
inductive Question
  | always (answer : Bool)
  | name (glob : String) (ignoresCase : Bool)
  | path (glob : String) (ignoresCase : Bool)
  | regex (regex : Regex)
  | kind (letters : List Char)
  | empty
  | size (bound : Bound) (unit : Nat)
  | bits (bits : Bits)
  /-- It changed later than another file. -/
  | newer (path : String)
  /-- It changed so many units of seconds ago. -/
  | age (bound : Bound) (unit : Nat)
  | names (bound : Bound)
  /-- It is another name of a file. -/
  | same (path : String)
  | print (finish : String)
  | show (format : List Char)
  /-- Run a command for the file. -/
  | run (command : List String)
  /-- Run a command of that number for all files. -/
  | collect (number : Nat) (command : List String)
  | delete
  | prune
  | quit
  | not (question : Question)
  | both (first second : Question)
  | either (first second : Question)
  /-- Both are asked, and the second one counts. -/
  | list (first second : Question)
  deriving Inhabited

structure Walk where
  low : Nat
  high : Option Nat
  /-- What is in a directory comes before it. -/
  isDeep : Bool
  /-- The program prints what it finds, because no question does anything. -/
  prints : Bool
  follows : Bool
  question : Question
  deriving Inhabited

/-! ## Reading questions -/

/-- How far reading has come. -/
structure Reading where
  words : List String
  low : Nat
  high : Option Nat
  isDeep : Bool
  acts : Bool
  follows : Bool
  commands : Nat
  /-- How expressions are written. -/
  dialect : Regex.Dialect

/-- The dialect of expressions if none is named. -/
def plainDialect : Regex.Dialect :=
  { isExtended := false, hasPlainMarks := true, hasCounts := false, allowsEmptyRange := true }

def dialects : List (String × Regex.Dialect) :=
  let basic : Regex.Dialect := { isExtended := false }
  let strictBasic : Regex.Dialect := { basic with isStrict := true }
  let extended : Regex.Dialect := { isExtended := true, allowsCloser := true }
  let strictExtended : Regex.Dialect := { extended with isStrict := true }
  [("findutils-default", plainDialect), ("ed", strictBasic), ("emacs", plainDialect),
   ("gnu-awk", extended), ("grep", basic), ("posix-awk", strictExtended),
   ("awk", { extended with hasCounts := false }), ("posix-basic", strictBasic),
   ("posix-egrep", extended), ("egrep", extended), ("posix-extended", strictExtended),
   ("posix-minimal-basic", basic), ("sed", strictBasic)]

/-- What reads questions. An error tells what is wrong. -/
abbrev Reader := StateT Reading (Except String)

namespace Reader

def next? : Reader (Option String) := do
  let reading ← get
  match reading.words with
  | [] => return none
  | word :: words =>
    set { reading with words := words }
    return some word

def argument (question : String) : Reader String := do
  match ← next? with
  | some word => return word
  | none => throw ("missing argument to \x60" ++ question ++ "'")

def acting (question : Question) : Reader Question := do
  modify fun reading => { reading with acts := true }
  return question

/-- The number that an argument spells, with a bound and a unit behind it. -/
def boundOf? (text : String) : Option (Bound × String) :=
  let (make, digits) : (Nat → Bound) × List Char := match text.toList with
    | '+' :: rest => (Bound.more, rest)
    | '-' :: rest => (Bound.fewer, rest)
    | rest => (Bound.just, rest)
  let number := digits.takeWhile Char.isDigit
  if number.isEmpty then none
  else some (make (Expression.numberOf 10 number), String.ofList (digits.drop number.length))

/-- The words of a command up to its end, and whether it is for all files. -/
def commandUpTo : Nat → String → Reader (List String × Bool)
  | 0, question => throw ("missing argument to \x60" ++ question ++ "'")
  | bound + 1, question => do
    let word ← argument question
    if word = ";" then return ([], false)
    else if word = "\x7b\x7d" && (← get).words.head? = some "+" then
      modify fun reading => { reading with words := reading.words.drop 1 }
      return ([], true)
    else
      let (words, isForAll) ← commandUpTo bound question
      return (word :: words, isForAll)

/-- A number as an argument. -/
def natural (question : String) : Reader Nat := do
  let text ← argument question
  match Utility.natural? text with
  | some number => return number
  | none => throw ("Expected a positive decimal integer argument to " ++ question ++
      ", but got " ++ Utility.quoted text)

/-- A number with a bound as an argument. -/
def compared (question : String) : Reader Bound := do
  let text ← argument question
  match boundOf? text with
  | some (bound, _) => return bound
  | none => throw ("invalid argument \x60" ++ text ++ "' to \x60" ++ question ++ "'")

def named (word : String) : Reader Question := do
  match word with
  | "-name" => return .name (← argument word) false
  | "-iname" => return .name (← argument word) true
  | "-path" | "-wholename" => return .path (← argument word) false
  | "-ipath" | "-iwholename" => return .path (← argument word) true
  | "-regex" | "-iregex" => do
    let text ← argument word
    let dialect := { (← get).dialect with ignoresCase := word == "-iregex" }
    match Regex.ofText dialect text.toList with
    | .ok (regex, _) => return .regex regex
    | .error fault =>
      throw ("failed to compile regular expression " ++ Utility.quoted text ++ ": " ++ fault.text)
  | "-regextype" => do
    let name ← argument word
    match dialects.lookup name with
    | some dialect =>
      modify fun reading => { reading with dialect := dialect }
      return .always true
    | none =>
      throw ("Unknown regular expression type " ++ Utility.quoted name ++ "; valid types are " ++
        ", ".intercalate (dialects.map fun entry => Utility.quoted entry.1) ++ ".")
  | "-type" => do
    let letters := (← argument word).toList.filter (· != ',')
    match letters.find? fun c => !"bcdpflsD".toList.contains c with
    | some c => throw ("Unknown argument to -type: " ++ String.ofList [c])
    | none => return .kind letters
  | "-empty" => return .empty
  | "-true" => return .always true
  | "-false" => return .always false
  | "-size" => do
    let text ← argument word
    match boundOf? text with
    | some (bound, unit) =>
      match [("", 512), ("b", 512), ("c", 1), ("w", 2), ("k", 1024), ("M", 1048576),
          ("G", 1073741824)].lookup unit with
      | some unit => return .size bound unit
      | none => throw ("invalid -size type \x60" ++ text ++ "'")
    | none => throw ("invalid -size type \x60" ++ text ++ "'")
  | "-perm" => do
    let text ← argument word
    let (make, digits) : (Nat → Bits) × List Char := match text.toList with
      | '-' :: rest => (Bits.all, rest)
      | '/' :: rest => (Bits.some, rest)
      | rest => (Bits.just, rest)
    if !digits.isEmpty && digits.all (Expression.isDigitOf 8) then
      return .bits (make (Expression.numberOf 8 digits))
    else throw ("invalid mode " ++ Utility.quoted text)
  | "-newer" => return .newer (← argument word)
  | "-samefile" => return .same (← argument word)
  | "-mtime" | "-atime" | "-ctime" => return .age (← compared word) 86400
  | "-mmin" | "-amin" | "-cmin" => return .age (← compared word) 60
  | "-links" => return .names (← compared word)
  | "-user" | "-group" => return .always ((← argument word) == "root")
  | "-maxdepth" => do
    let high ← natural word
    modify fun reading => { reading with high := some high }
    return .always true
  | "-mindepth" => do
    let low ← natural word
    modify fun reading => { reading with low := low }
    return .always true
  | "-depth" | "-d" => do
    modify fun reading => { reading with isDeep := true }
    return .always true
  | "-follow" => do
    modify fun reading => { reading with follows := true }
    return .always true
  | "-xdev" | "-mount" | "-noleaf" | "-warn" | "-nowarn" => return .always true
  | "-print" => acting (.print "\n")
  | "-print0" => acting (.print "\x00")
  | "-printf" => do
    let format ← argument word
    acting (.show format.toList)
  | "-delete" => do
    modify fun reading => { reading with isDeep := true }
    acting .delete
  | "-prune" => return .prune
  | "-quit" => acting .quit
  | "-exec" | "-execdir" | "-ok" => do
    let (command, isForAll) ← commandUpTo ((← get).words.length + 1) word
    if command.isEmpty then throw ("missing argument to \x60" ++ word ++ "'")
    else if isForAll then
      let number := (← get).commands
      modify fun reading => { reading with commands := number + 1 }
      acting (.collect number command)
    else acting (.run command)
  | word => throw ("unknown predicate \x60" ++ word ++ "'")

/-- A question that is not joined with others. -/
def simple (whole : Reader Question) : Nat → Reader Question
  | 0 => throw "expected an expression"
  | bound + 1 => do
    match ← next? with
    | none => throw "expected an expression"
    | some "!" | some "-not" => return .not (← simple whole bound)
    | some "(" =>
      let question ← whole
      match ← next? with
      | some ")" => return question
      | _ =>
        throw "invalid expression; I was expecting to find a ')' somewhere but did not see one."
    | some word => named word

/-- Questions of which all must be answered with yes. -/
def conjunction (part : Reader Question) : Nat → Question → Reader Question
  | 0, first => return first
  | bound + 1, first => do
    match (← get).words with
    | [] | ")" :: _ | "-o" :: _ | "-or" :: _ | "," :: _ => return first
    | word :: words =>
      if word = "-a" || word = "-and" then modify fun reading => { reading with words := words }
      let second ← part
      conjunction part bound (.both first second)

/-- Questions joined by words of one kind. -/
def joined (part : Reader Question) (marks : List String)
    (join : Question → Question → Question) : Nat → Question → Reader Question
  | 0, first => return first
  | bound + 1, first => do
    match (← get).words with
    | word :: words =>
      if marks.contains word then
        modify fun reading => { reading with words := words }
        joined part marks join bound (join first (← part))
      else return first
    | [] => return first

/-- Questions in brackets at most so deep. -/
def whole : Nat → Reader Question
  | 0 => throw "expected an expression"
  | depth + 1 => do
    let bound := (← get).words.length + 1
    let one := simple (whole depth) bound
    let all : Reader Question := do conjunction one bound (← one)
    let some' : Reader Question := do joined all ["-o", "-or"] .either bound (← all)
    joined some' [","] .list bound (← some')

end Reader

def walkOf (follows : Bool) (words : List String) : Except String Walk := do
  let start : Reading := ⟨words, 0, none, false, false, follows, 0, plainDialect⟩
  if words.isEmpty then return ⟨0, none, false, true, follows, .always true⟩
  else
    let (question, reading) ← (Reader.whole (words.length + 1)).run start
    match reading.words with
    | [] =>
      return ⟨reading.low, reading.high, reading.isDeep, !reading.acts, reading.follows, question⟩
    | word :: _ =>
      throw (if word = ")" then "you have too many ')'" else "unexpected argument " ++ word)

/-! ## Walking -/

structure Met where
  path : String
  /-- The argument below which it was met. -/
  start : String
  place : Location
  node : FileTree
  depth : Nat

/-- What is known while directories are walked. -/
structure Progress where
  isPruned : Bool
  hasQuit : Bool
  collected : List (Nat × List String × List String)
  status : Nat

/-- What asks about files. -/
abbrev Asking := StateT Progress Act

def kindOf : FileTree → Char
  | .file _ _ => 'f'
  | .dir _ => 'd'
  | .link _ => 'l'
  | .device (.stream _) => 'p'
  | .device _ => 'c'

/-- The path of a file below the argument. -/
def belowStart (met : Met) : String :=
  let rest := met.path.toList.drop met.start.length
  String.ofList (rest.dropWhile (· == '/'))

/-- A file in a format. -/
def shown (attributes : Attributes) (met : Met) : Nat → List Char → String
  | 0, _ => ""
  | _, [] => ""
  | bound + 1, '%' :: c :: rest =>
    let here := match c with
      | 'p' => met.path
      | 'f' => Utility.baseOf met.path
      | 'h' => Utility.parentPath met.path
      | 'P' => belowStart met
      | 'H' => met.start
      | 's' => toString (Utility.sizeOf met.node)
      | 'd' => toString met.depth
      | 'y' => String.ofList [kindOf met.node]
      | 'm' => String.ofList (Nat.toDigits 8 (attributes.bitsOf met.place met.node))
      | 'M' => Utility.modeText met.node (attributes.bitsOf met.place met.node)
      | 'l' => match met.node with
        | .link target => Octets.encode target
        | _ => ""
      | 'u' | 'g' => "root"
      | 'n' => toString (attributes.nameCount met.place met.node)
      | '%' => "%"
      | c => String.ofList ['%', c]
    here ++ shown attributes met bound rest
  | bound + 1, '\\' :: rest =>
    match rest with
    | 'c' :: _ => ""
    | rest =>
      let (c, rest) := Format.escape rest
      String.ofList [c] ++ shown attributes met bound rest
  | bound + 1, c :: rest => String.ofList [c] ++ shown attributes met bound rest

def fits (glob text : String) (ignoresCase : Bool) : Bool :=
  if ignoresCase then (Glob.ofText (glob.map Char.toLower)).fits (text.map Char.toLower).toList
  else (Glob.ofText glob).fits text.toList

/-- Run a command with paths. Whether it ended well. -/
def runCommand (host : Host) (command : List String) : Asking Bool := do
  match ← StateT.lift (host.prepare command) with
  | some reason =>
    StateT.lift (Utility.complain
      (Utility.quoted (command.headD "") ++ ": " ++ reason.text))
    return false
  | none =>
    match ← StateT.lift (host.invoke command) with
    | .exited 0 => return true
    | _ => return false

/-- Ask about a file. -/
def ask (host : Host) (met : Met) : Question → Asking Bool
  | .always answer => return answer
  | .name glob ignoresCase => return fits glob (Utility.baseOf met.path) ignoresCase
  | .path glob ignoresCase => return fits glob met.path ignoresCase
  | .regex regex =>
    let text := met.path.toList.toArray
    let found := regex.reach text regex.looksBack ⟨0, []⟩
    return found.any fun spot => spot.position == text.size
  | .kind letters => return letters.contains (kindOf met.node)
  | .empty => return match met.node with
    | .file content _ => content.isEmpty
    | .dir entries => entries.isEmpty
    | _ => false
  | .size bound unit => return bound.holds ((Utility.sizeOf met.node + unit - 1) / unit)
  | .bits bits => do
    let own := (← StateT.lift get).attributes.bitsOf met.place met.node
    return match bits with
      | .just wanted => own == wanted
      | .all wanted => own &&& wanted == wanted
      | .some wanted => wanted == 0 || own &&& wanted != 0
  | .newer reference => do
    match ← StateT.lift (Act.find .target reference) with
    | .ok (place, _) =>
      let attributes := (← StateT.lift get).attributes
      return (attributes.timeOf met.place).isAfter (attributes.timeOf place)
    | .error _ => return false
  | .age bound unit => do
    let attributes := (← StateT.lift get).attributes
    let age := attributes.now.seconds - (attributes.timeOf met.place).seconds
    return bound.holds (age.toNat / unit)
  | .names bound => do
    return bound.holds ((← StateT.lift get).attributes.nameCount met.place met.node)
  | .same path => do
    match ← StateT.lift (Act.find .entry path) with
    | .ok (place, _) =>
      return ((← StateT.lift get).attributes.placesOf met.place).contains place
    | .error _ => return false
  | .print finish => do
    StateT.lift (Utility.print (met.path ++ finish))
    return true
  | .show format => do
    let attributes := (← StateT.lift get).attributes
    StateT.lift (Utility.print (shown attributes met (format.length + 1) format))
    return true
  | .run command => runCommand host (command.map fun part => part.replace "\x7b\x7d" met.path)
  | .collect number command => do
    modify fun progress =>
      let paths := ((progress.collected.lookup number).map Prod.snd).getD []
      { progress with
        collected := putCollected number command (paths ++ [met.path]) progress.collected }
    return true
  | .delete => do
    match met.node with
    | .dir (_ :: _) =>
      StateT.lift (Utility.complain
        ("cannot delete " ++ Utility.quoted met.path ++ ": Directory not empty"))
      modify fun progress => { progress with status := 1 }
      return false
    | _ =>
      if met.path != "." then StateT.lift (Act.remove met.place)
      return true
  | .prune => do
    modify fun progress => { progress with isPruned := true }
    return true
  | .quit => do
    modify fun progress => { progress with hasQuit := true }
    return true
  | .not question => return !(← ask host met question)
  | .both first second => do
    if ← ask host met first then
      if (← get).hasQuit then return false else ask host met second
    else return false
  | .either first second => do
    if ← ask host met first then return true
    else if (← get).hasQuit then return false
    else ask host met second
  | .list first second => do
    let _ ← ask host met first
    if (← get).hasQuit then return false else ask host met second
where
  /-- The paths for a command, in the place of those before. -/
  putCollected (number : Nat) (command paths : List String) :
      List (Nat × List String × List String) → List (Nat × List String × List String)
    | [] => [(number, command, paths)]
    | (other, rest) :: more =>
      if other = number then (number, command, paths) :: more
      else (other, rest) :: putCollected number command paths more

/-- The files that a question compares others with. -/
def Question.references : Question → List String
  | .newer reference | .same reference => [reference]
  | .not question => question.references
  | .both first second | .either first second | .list first second =>
    first.references ++ second.references
  | _ => []

/-- How deep directories are walked. -/
def maxDepth : Nat := 200

/-- Walk along a file and what is below it. -/
def visit (host : Host) (walk : Walk) (start : String) : Nat → Nat → String → Asking Unit
  | 0, _, _ => return
  | bound + 1, depth, path => do
    if (← get).hasQuit then return
    else
      let found ← StateT.lift do
        match ← Act.find (if walk.follows then .target else .entry) path with
        | .ok found => return Except.ok found
        | .error reason =>
          if walk.follows then
            return (← Act.find .entry path).mapError fun _ => reason
          else return .error reason
      match found with
      | .error reason =>
        StateT.lift (Utility.complain (Utility.quoted path ++ ": " ++ reason.text))
        modify fun progress => { progress with status := 1 }
      | .ok (place, node) =>
        let consider : Asking Unit := do
          if walk.low ≤ depth then
            match ← StateT.lift (return (← get).tree.get? place) with
            | some node =>
              let isFitting ← ask host ⟨path, start, place, node, depth⟩ walk.question
              if isFitting && walk.prints then StateT.lift (Utility.print (path ++ "\n"))
            | none => return
        let goesDown := (walk.high.map fun high => decide (depth < high)).getD true
        modify fun progress => { progress with isPruned := false }
        if !walk.isDeep then consider
        let isPruned := (← get).isPruned && !walk.isDeep
        if goesDown && !isPruned then
          match node with
          | .dir _ =>
            let names := node.sortedEntries.map Prod.fst
            names.forM fun name =>
              visit host walk start bound (depth + 1)
                ((if path.endsWith "/" then path else path ++ "/") ++ Octets.encode name)
          | _ => pure ()
        if walk.isDeep && !(← get).hasQuit then consider

end Seek

namespace Utility

def beginsQuestion (word : String) : Bool :=
  match word.toList with
  | '-' :: _ :: _ => true
  | ['('] | ['!'] => true
  | _ => false

/-- Look for files. -/
def find : Utility := fun host args => do
  let follows := (args.takeWhile fun word => ["-L", "-H", "-P"].contains word).contains "-L"
  let args := args.dropWhile fun word => ["-L", "-H", "-P"].contains word
  let paths := args.takeWhile fun word => !beginsQuestion word
  let words := args.drop paths.length
  match Seek.walkOf follows words with
  | .error reason =>
    complain reason
    return 1
  | .ok walk =>
    let missing ← walk.question.references.filterM fun path =>
      return (← Act.node? path).isNone
    match missing with
    | path :: _ =>
      complain (quoted path ++ ": No such file or directory")
      return 1
    | [] =>
      let visitAll : Seek.Asking Unit :=
        (if paths.isEmpty then ["."] else paths).forM fun path =>
          Seek.visit host walk path Seek.maxDepth 0 path
      let (_, progress) ← visitAll.run ⟨false, false, [], 0⟩
      progress.collected.foldlM (fun status (_, command, paths) => do
        match ← host.prepare (command ++ paths) with
        | some reason =>
          complain (quoted (command.headD "") ++ ": " ++ reason.text)
          return 1
        | none =>
          match ← host.invoke (command ++ paths) with
          | .exited 0 => return status
          | _ => return 1) progress.status

end Utility

end TestCursor
