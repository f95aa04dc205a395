import TestCursor.Utility.Date
import TestCursor.Utility.Floating
import TestCursor.Utility.Listing
import TestCursor.Utility.Path
import TestCursor.Utility.Permission

/-!
# Files and directories

Programs that make and remove the entries of directories, and change who can use them.
-/

namespace TestCursor

open Shell

namespace Utility

/-- The time that options give to files. -/
def givenTime (given : Given) : Act (Except String ChangeTime) := do
  let attributes := (← get).attributes
  let now := attributes.now
  let ofMoment (text : String) (moment : Option Moment) : Except String ChangeTime :=
    match moment with
    | some moment =>
      .ok (if moment.seconds = now.seconds then now else ⟨moment.seconds, 0⟩)
    | none => .error ("invalid date format " ++ quoted text)
  match given.value? 'd', given.value? 't', given.value? 'r' with
  | some text, _, _ => return ofMoment text (Moment.ofText? now.seconds text)
  | none, some text, _ => return ofMoment text (Moment.ofDigits? now.seconds text)
  | none, none, some path =>
    match ← Act.find .target path with
    | .ok (place, _) => return .ok (attributes.timeOf place)
    | .error reason =>
      return .error ("failed to get attributes of " ++ quoted path ++ ": " ++ reason.text)
  | none, none, none => return .ok now

/-- Make missing files, and set the times of all. -/
def touch : Utility := fun _ args =>
  let flags := flagsOf "acmhr:d:t:f".toList ++
    [⟨'c', "no-create", false⟩, ⟨'r', "reference", true⟩, ⟨'d', "date", true⟩]
  withOptions flags false 1 args fun given => do
    match ← givenTime given with
    | .error reason =>
      complain reason
      return 1
    | .ok time =>
      if given.operands.isEmpty then usage "missing file operand"
      else
        let mark (path : String) : Act Unit := do
          match ← Act.find .target path with
          | .ok (place, _) =>
            Act.modifyAttributes fun attributes =>
              attributes.touch (attributes.placesOf place) time
          | .error _ => return
        forEach given.operands fun path => do
          if (← Act.node? path).isSome then
            mark path
            return true
          else if given.has 'c' then return true
          else
            match ← Act.writeFile path .append ByteArray.empty with
            | none =>
              mark path
              return true
            | some reason =>
              complain ("cannot touch " ++ quoted path ++ ": " ++
                (if reason == .isDirectory then Reason.notFound else reason).text)
              return false

def makeDirectory (path : String) (bits : Nat) : Act (Except Reason Unit) := do
  match ← Act.arrive .entry (trimmed path) with
  | .ok (.absent parent name) =>
    Act.place (parent ++ [name]) FileTree.empty
    Act.modifyAttributes fun attributes =>
      attributes.setDirectoryBits (parent ++ [name]) bits
    return .ok ()
  | .ok (.here _) => return .error .exists
  | .error reason => return .error reason

/-- Make directories. -/
def mkdir : Utility := fun _ args =>
  let flags := flagsOf "pvm:Z".toList ++
    [⟨'p', "parents", false⟩, ⟨'v', "verbose", false⟩, ⟨'m', "mode", true⟩]
  withOptions flags false 1 args fun given => do
    let mask := (← Act.process).mask
    let usual ← Act.freshMode 0o777
    let wanted := match given.value? 'm' with
      | some mode => Permission.change? mask true 0o777 mode
      | none => some usual
    let make (path : String) (bits : Nat) : Act (Option Reason) := do
      match ← makeDirectory path bits with
      | .ok _ =>
        if given.has 'v' then
          announce ("created directory " ++ quoted path)
        return none
      | .error reason => return some reason
    match wanted with
    | none =>
      complain ("invalid mode " ++ quoted ((given.value? 'm').getD ""))
      return 1
    | some wanted =>
      if given.operands.isEmpty then return ← usage "missing operand"
      forEach given.operands fun path => do
        let fail (path : String) (reason : Reason) : Act Bool := do
          complain ("cannot create directory " ++ quoted path ++ ": " ++ reason.text)
          return false
        if given.has 'p' then
          let failure : Option (String × Reason) ← (stepsOf path).findSomeM? fun step => do
            match ← Act.node? step with
            | some (.dir _) => return none
            | some _ => return some (step, if step = trimmed path then .exists else .notDirectory)
            | none =>
              let bits := if step = trimmed path then wanted else usual ||| 0o300
              return (← make step bits).map fun reason => (step, reason)
          match failure with
          | none => return true
          | some (step, reason) => fail step reason
        else
          match ← make path wanted with
          | none => return true
          | some reason => fail path reason

def removeDirectory (path : String) : Act (Except Reason Unit) := do
  match ← Act.find .entry path with
  | .ok (place, .dir []) =>
    if place.isEmpty then return .error .busy
    else if baseOf path = "." then return .error .invalid
    else
      Act.remove place
      return .ok ()
  | .ok (_, .dir _) => return .error .notEmpty
  | .ok _ => return .error .notDirectory
  | .error reason => return .error reason

/-- Remove empty directories. -/
def rmdir : Utility := fun _ args =>
  let flags := flagsOf "pv".toList ++
    [⟨'p', "parents", false⟩, ⟨'v', "verbose", false⟩, ⟨'!', "ignore-fail-on-non-empty", false⟩]
  withOptions flags false 1 args fun given => do
    if given.operands.isEmpty then usage "missing operand"
    else
      forEach given.operands fun path => do
        let steps := if given.has 'p' then (stepsOf path).reverse else [path]
        let failure : Option (String × Reason) ← steps.findSomeM? fun step => do
          if given.has 'v' then announce ("removing directory, " ++ quoted step)
          match ← removeDirectory step with
          | .ok _ => return none
          | .error reason => return some (step, reason)
        match failure with
        | none => return true
        | some (step, reason) =>
          if given.has '!' && reason == .notEmpty then return true
          else
            complain ("failed to remove " ++ (if step = path then "" else "directory ") ++
              quoted step ++ ": " ++ reason.text)
            return false

mutual

/-- The paths of a node and of all below it, each behind what it contains. -/
def pathsBelow (path : String) : FileTree → List (String × Bool)
  | .dir entries => pathsAmong path entries ++ [(path, true)]
  | _ => [(path, false)]

/-- The paths of the entries of a directory and of all below them. -/
def pathsAmong (path : String) : List (String × FileTree) → List (String × Bool)
  | [] => []
  | (name, node) :: rest =>
    pathsBelow (childPath path (Octets.encode name)) node ++ pathsAmong path rest

end

/-- What became of a file that was to be removed. -/
inductive Removal
  | gone
  /-- The file was not to be removed after all. -/
  | kept
  /-- The directory was not entered. Those around it are not asked about. -/
  | passed
  | failed
  deriving DecidableEq, Repr

mutual

/-- Remove a node after asking. -/
def removeAsking (isVerbose : Bool) (place : Location) (path : String) : FileTree → Act Removal
  | .dir entries => do
    let isEntered ← if entries.isEmpty then pure true
      else confirm ("descend into directory " ++ quoted path ++ "? ")
    if !isEntered then return .passed
    else
      let removals ← removeAmongAsking isVerbose place path entries
      if removals.contains .failed then return .failed
      else if removals.contains .passed then return .passed
      else if !(← confirm ("remove directory " ++ quoted path ++ "? ")) then return .kept
      else if removals.contains .kept then
        complain ("cannot remove " ++ quoted path ++ ": " ++ Reason.notEmpty.text)
        return .failed
      else
        Act.remove place
        if isVerbose then print ("removed directory " ++ quoted path ++ "\n")
        return .gone
  | node => do
    if ← confirm ("remove " ++ kindText node ++ " " ++ quoted path ++ "? ") then
      Act.remove place
      if isVerbose then print ("removed " ++ quoted path ++ "\n")
      return .gone
    else return .kept

/-- Remove the entries of a directory after asking. -/
def removeAmongAsking (isVerbose : Bool) (place : Location) (path : String) :
    List (String × FileTree) → Act (List Removal)
  | [] => return []
  | (name, node) :: rest => do
    let removal ← removeAsking isVerbose (place ++ [name])
      (childPath path (Octets.encode name)) node
    return removal :: (← removeAmongAsking isVerbose place path rest)

end

/-- Say how a file is removed whose name was taken for an option. -/
def hintAtName (args : List String) : Act Unit := do
  let named ← args.findM? fun arg => do
    return arg.startsWith "-" && 1 < arg.length && (← Act.find .entry arg).isOk
  match named with
  | some name =>
    Act.say 2 ("Try '" ++ (← calledName) ++ " ./" ++ name ++ "' to remove the file " ++
      quoted name ++ ".\n")
  | none => pure ()
  hint

/-- Remove files, and directories when asked to. -/
def rm : Utility := fun _ args =>
  let flags := flagsOf "rRfdiIv".toList ++
    [⟨'r', "recursive", false⟩, ⟨'f', "force", false⟩, ⟨'d', "dir", false⟩,
     ⟨'v', "verbose", false⟩, ⟨'!', "preserve-root", false⟩, ⟨'!', "no-preserve-root", false⟩,
     ⟨'!', "one-file-system", false⟩]
  withOptionsOr (hintAtName args) flags false 1 args fun given => do
    let isDeep := given.has 'r' || given.has 'R'
    let manner := (given.options.reverse.find? fun entry =>
      "fiI".toList.contains entry.1).map Prod.fst
    let isForced := manner == some 'f'
    let count := given.operands.length
    let askAll : Act Bool := do
      if manner == some 'I' && (isDeep || 3 < count) then
        confirm ("remove " ++ toString count ++
          (if count = 1 then " argument" else " arguments") ++
          (if isDeep then " recursively? " else "? "))
      else return true
    if given.operands.isEmpty then
      if isForced then return 0 else usage "missing operand"
    else if !(← askAll) then return 0
    else
      forEach given.operands fun path => do
        let fail (text : String) : Act Bool := do
          complain text
          return false
        let cannot (reason : Reason) : Act Bool :=
          fail ("cannot remove " ++ quoted path ++ ": " ++ reason.text)
        if isDeep && (baseOf path = "." || baseOf path = "..") then
          fail ("refusing to remove '.' or '..' directory: skipping " ++ quoted path)
        else
          match ← Act.find .entry path with
          | .error reason =>
            if isForced && (reason == .notFound || reason == .notDirectory) then return true
            else cannot reason
          | .ok (place, node) =>
            if place.isEmpty then
              let _ ← fail ("it is dangerous to operate recursively on " ++ quoted path)
              fail "use --no-preserve-root to override this failsafe"
            else if isDeep && path.endsWith "/" && (← isLink path) then cannot .notDirectory
            else
              match node with
              | .dir entries =>
                if !isDeep && !(given.has 'd' && entries.isEmpty) then
                  cannot (if given.has 'd' then .notEmpty else .isDirectory)
                else if manner == some 'i' then
                  return (← removeAsking (given.has 'v') place path node) != .failed
                else
                  Act.remove place
                  if given.has 'v' then
                    print (String.join ((pathsBelow path node).map fun (path, isDir) =>
                      "removed " ++ (if isDir then "directory " else "") ++ quoted path ++ "\n"))
                  return true
              | _ =>
                if manner == some 'i' then
                  return (← removeAsking (given.has 'v') place path node) != .failed
                else
                  Act.remove place
                  if given.has 'v' then print ("removed " ++ quoted path ++ "\n")
                  return true
where
  /-- A path names a link if what ends it is left out. -/
  isLink (path : String) : Act Bool := do
    match ← Act.find .entry (trimmed path) with
    | .ok (_, .link _) => return true
    | _ => return false

/-- Remove the one file that a path names. -/
def unlink : Utility := fun _ args => withLetters "" args fun given => do
  match given.operands with
  | [] => usage "missing operand"
  | [path] =>
    let fail (reason : Reason) : Act Nat := do
      complain ("cannot unlink " ++ quoted path ++ ": " ++ reason.text)
      return 1
    match ← Act.find .entry path with
    | .error reason => fail reason
    | .ok (_, .dir _) => fail .isDirectory
    | .ok (place, _) =>
      Act.remove place
      return 0
  | _ :: extra :: _ => usage ("extra operand " ++ quoted extra)

/-- Make a file or a directory with a name that is not in use. -/
def mktemp : Utility := fun _ args =>
  withOptions (flagsOf "duqp:t".toList) false 1 args fun given => do
    let template := given.operands.headD "/tmp/tmp.XXXXXXXXXX"
    let template := match given.value? 'p' with
      | some directory => childPath directory template
      | none => template
    let count := (template.toList.reverse.takeWhile (· == 'X')).length
    let stem := String.ofList (template.toList.take (template.length - count))
    if count < 3 then
      complain ("too few X's in template " ++ quoted template)
      return 1
    else
      let number := (← get).lastNumber
      let digits := Floating.padded count (toString number).toList
      let path := stem ++ String.ofList (digits.drop (digits.length - count))
      modify fun machine => { machine with lastNumber := machine.lastNumber + 1 }
      let failure ← if given.has 'u' then pure none
        else if given.has 'd' then do
          match ← makeDirectory path 0o700 with
          | .ok _ => pure none
          | .error reason => pure (some reason)
        else do
          let failure ← Act.writeFile path .write ByteArray.empty
          match ← Act.find .target path with
          | .ok (place, _) => Act.putNode place (.file ByteArray.empty 0o600)
          | .error _ => pure ()
          pure failure
      match failure with
      | none =>
        print (path ++ "\n")
        return 0
      | some reason =>
        complain ("failed to create file via template " ++ quoted template ++ ": " ++
          reason.text)
        return 1


/-! ## Permissions -/

mutual

def placesBelow (place : Location) (path : String) :
    FileTree → List (Location × String × FileTree)
  | .dir entries => (place, path, .dir entries) :: placesAmong place path entries
  | node => [(place, path, node)]

/-- The places of the entries of a directory and of all below them, with their paths. -/
def placesAmong (place : Location) (path : String) :
    List (String × FileTree) → List (Location × String × FileTree)
  | [] => []
  | (name, node) :: rest =>
    placesBelow (place ++ [name]) (childPath path (Octets.encode name)) node ++
      placesAmong place path rest

end

/-- Give a node at a place other permission bits. -/
def setBits (place : Location) (bits : Nat) : FileTree → Act Unit
  | .file content _ => modify fun machine =>
    { machine with
      tree := (machine.attributes.placesOf place).foldl
        (fun tree place => tree.put place (.file content bits)) machine.tree }
  | .dir _ => Act.modifyAttributes fun attributes => attributes.setDirectoryBits place bits
  | _ => return

/-- Change permissions. -/
def chmod : Utility := fun _ args => do
  let isMode (arg : String) : Bool :=
    arg.startsWith "-" && 1 < arg.length && (arg.toList.drop 1).all "rwxXst,+-=ugoa".toList.contains
  let modeFirst := args.find? isMode
  let args := if modeFirst.isSome then args.filter fun arg => !isMode arg else args
  let flags := flagsOf "Rvcf".toList ++
    [⟨'R', "recursive", false⟩, ⟨'v', "verbose", false⟩, ⟨'c', "changes", false⟩,
     ⟨'f', "quiet", false⟩, ⟨'f', "silent", false⟩, ⟨'F', "reference", true⟩]
  withOptions flags false 1 args fun given => do
    let operands := modeFirst.toList ++ given.operands
    match operands with
    | [] => usage "missing operand"
    | [mode] => usage ("missing operand after " ++ quoted mode)
    | mode :: paths =>
      let umask := (← Act.process).mask
      match Permission.change? umask false 0 mode with
      | none => usage ("invalid mode: " ++ quoted mode)
      | some _ =>
        let change (isDir : Bool) (bits : Nat) : Nat :=
          (Permission.change? umask isDir bits mode).getD bits
        forEach paths fun path => do
          match ← Act.find .target path with
          | .error reason =>
            complain ("cannot access " ++ quoted path ++ ": " ++ reason.text)
            return false
          | .ok (place, node) =>
            let all := if given.has 'R' then placesBelow place path node else [(place, path, node)]
            all.forM fun (place, path, node) => do
              let old := (← get).attributes.bitsOf place node
              match node with
              | .link _ => return
              | node =>
                let new := change node.isDir old
                setBits place new node
                if given.has 'v' || (given.has 'c' && new != old) then
                  print (changeRemark path old new)
            return true
where
  /-- What is told about permission bits. -/
  changeRemark (path : String) (old new : Nat) : String :=
    let shown (bits : Nat) : String :=
      String.ofList (Floating.padded 4 (Nat.toDigits 8 bits)) ++ " (" ++ bitsText bits ++ ")"
    "mode of " ++ quoted path ++
      (if old = new then " retained as " ++ shown new
        else " changed from " ++ shown old ++ " to " ++ shown new) ++ "\n"

end Utility

end TestCursor
