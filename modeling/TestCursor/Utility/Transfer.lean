import TestCursor.Utility.Files

/-!
# Moving and copying

Programs that bring files and directories to other places, and that link to them.
-/

namespace TestCursor

open Shell

namespace Utility

/-- Where files go that are moved or copied. -/
structure Goal where
  /-- Into a directory, under their names. -/
  isInto : Bool
  path : String

/-- The sources and the goal that operands name. A link to a directory is a directory if links are
followed. -/
def goalOf (given : Given) (follows : Bool) : Act (Option (List String × Goal)) := do
  let fail (act : Act Nat) : Act (Option (List String × Goal)) := do
    let _ ← act
    return none
  match given.value? 't', given.operands.reverse with
  | some directory, _ =>
    if given.operands.isEmpty then fail (usage "missing file operand")
    else return some (given.operands, ⟨true, directory⟩)
  | none, [] => fail (usage "missing file operand")
  | none, [single] => fail (usage ("missing destination file operand after " ++ quoted single))
  | none, last :: sources =>
    let isDir := ((← Act.node? last).map FileTree.isDir).getD false
    if given.has 'T' then
      match sources with
      | [_] => return some (sources, ⟨false, last⟩)
      | _ => fail (usage ("extra operand " ++ quoted last))
    else if isDir then
      let isLink := match ← Act.find .entry last with
        | .ok (_, .link _) => true
        | _ => false
      if isLink && !follows then return some (sources.reverse, ⟨false, last⟩)
      else return some (sources.reverse, ⟨true, last⟩)
    else if 1 < sources.length then
      let reason := if (← Act.node? last).isSome then Reason.notDirectory else .notFound
      complain ("target " ++ quoted last ++ ": " ++ reason.text)
      return none
    else return some (sources.reverse, ⟨false, last⟩)

/-- The options of programs that move, copy or link. -/
def transferFlags (letters : String) : List Flag :=
  flagsOf letters.toList ++
    ([⟨'r', "recursive", false⟩, ⟨'a', "archive", false⟩, ⟨'f', "force", false⟩,
      ⟨'n', "no-clobber", false⟩, ⟨'v', "verbose", false⟩, ⟨'T', "no-target-directory", false⟩,
      ⟨'t', "target-directory", true⟩, ⟨'p', "preserve", false⟩, ⟨'i', "interactive", false⟩,
      ⟨'u', "update", false⟩, ⟨'l', "link", false⟩, ⟨'s', "symbolic-link", false⟩,
      ⟨'s', "symbolic", false⟩, ⟨'n', "no-dereference", false⟩, ⟨'L', "dereference", false⟩,
      ⟨'S', "suffix", true⟩] : List Flag).filter fun flag => letters.contains flag.letter

/-- What happens to what is in the way of a file that is moved, copied or linked. -/
inductive Clobber
  | replaces
  | asks
  | keeps
  deriving DecidableEq, Repr

/-- What options tell about what is in the way. The last of them counts. -/
def clobberOf (given : Given) : Clobber :=
  match given.options.reverse.find? fun entry => "fin".toList.contains entry.1 with
  | some ('i', _) => .asks
  | some ('n', _) => .keeps
  | _ => .replaces

/-- What is behind the name of a file that is put aside, if files are. -/
def backupOf (given : Given) : Option String :=
  if given.has 'b' || given.has 'S' then some ((given.value? 'S').getD "~") else none

/-- What is at a path, if there is something, can be replaced. -/
def mayReplace (target : String) (isThere : Bool) (clobber : Clobber) : Act Bool :=
  match isThere, clobber with
  | false, _ | true, .replaces => return true
  | true, .keeps => return false
  | true, .asks => confirm ("overwrite " ++ quoted target ++ "? ")

/-- Put what is at a place aside, and tell so. -/
def putAside (suffix : Option String) (place : Location) (target : String) : Act String := do
  match suffix, (← get).tree.get? place with
  | some suffix, some _ =>
    Act.move place (place.dropLast ++ [place.getLast?.getD "" ++ suffix])
    return " (backup: " ++ quoted (target ++ suffix) ++ ")"
  | _, _ => return ""

/-- Move one file or directory to a path. -/
def moveTo (given : Given) (source target : String) : Act Bool := do
  let fail (text : String) : Act Bool := do
    complain text
    return false
  match ← Act.find .entry source with
  | .error reason => fail ("cannot stat " ++ quoted source ++ ": " ++ reason.text)
  | .ok (place, node) =>
    match ← Act.arrive .entry (if node.isDir then trimmed target else target) with
    | .error reason =>
      fail ("cannot move " ++ quoted source ++ " to " ++ quoted target ++ ": " ++
        (if reason == .isDirectory then Reason.notDirectory else reason).text)
    | .ok arrival =>
      let goal := match arrival with
        | .here goal => goal
        | .absent parent name => parent ++ [name]
      let old := (← get).tree.get? goal
      if goal = place then
        fail (quoted source ++ " and " ++ quoted target ++ " are the same file")
      else if place.isPrefixOf goal then
        fail ("cannot move " ++ quoted source ++ " to a subdirectory of itself, " ++ quoted target)
      else
        match node, old with
        | .dir _, some (.dir (_ :: _)) =>
          fail ("cannot overwrite " ++ quoted target ++ ": Directory not empty")
        | .dir _, some (.dir []) =>
          Act.move place goal
          if given.has 'v' then
            print ("renamed " ++ quoted source ++ " -> " ++ quoted target ++ "\n")
          return true
        | .dir _, some _ =>
          fail ("cannot overwrite non-directory " ++ quoted target ++ " with directory " ++
            quoted source)
        | _, some (.dir _) =>
          fail ("cannot overwrite directory " ++ quoted target ++ " with non-directory")
        | _, _ =>
          let attributes := (← get).attributes
          let isOlder := given.has 'u' && old.isSome &&
            !(attributes.timeOf place).isAfter (attributes.timeOf goal)
          if isOlder then return true
          else if ← mayReplace target old.isSome (clobberOf given) then
            let remark ← putAside (backupOf given) goal target
            Act.move place goal
            if given.has 'v' then
              print ("renamed " ++ quoted source ++ " -> " ++ quoted target ++ remark ++ "\n")
          return true

/-- Where a source goes. -/
def Goal.targetOf (goal : Goal) (source : String) : String :=
  if goal.isInto then childPath goal.path (baseOf source) else goal.path

/-- Move files and directories. -/
def mv : Utility := fun _ args =>
  withOptions (transferFlags "finvuTt:bS:") false 1 args fun given => do
    match ← goalOf given true with
    | none => return 1
    | some (sources, goal) =>
      forEach sources fun source => moveTo given source (goal.targetOf source)

/-- What leads to a file by another name. -/
inductive LinkKind
  | hard
  | symbolic
  deriving DecidableEq, Repr

/-- How nodes are copied. -/
structure CopyStyle where
  isDeep : Bool
  keepsLinks : Bool
  clobber : Clobber
  backup : Option String
  isVerbose : Bool
  /-- Copies keep the permission bits and times of what is copied. -/
  keepsAttributes : Bool
  /-- Only what changed later than what is in the way is copied. -/
  isUpdate : Bool
  /-- What is made in the place of copies of files, if anything. -/
  linkKind : Option LinkKind

/-- Give a copy of a node at a place the permission bits and the time of that node. -/
def keepAttributes (place : Location) (node : FileTree) (copy : Location) : Act Unit := do
  let attributes := (← get).attributes
  match (← get).tree.get? copy with
  | some new =>
    setBits copy (attributes.bitsOf place node) new
    Act.modifyAttributes fun later => later.touch [copy] (attributes.timeOf place)
  | none => return

/-- Copy a node to a path, with all below it, at most so deep. -/
def copyNode (style : CopyStyle) :
    Nat → Location → FileTree → String → String → Act Bool
  | 0, _, _, _, _ => return false
  | depth + 1, place, node, source, target => do
    let fail (text : String) : Act Bool := do
      complain text
      return false
    let sayWith (remark : String) : Act Unit := do
      if style.isVerbose then print (quoted source ++ " -> " ++ quoted target ++ remark ++ "\n")
    let say : Act Unit := sayWith ""
    match node with
    | .link text =>
      match ← Act.arrive .entry target with
      | .error reason =>
        fail ("cannot create symbolic link " ++ quoted target ++ ": " ++ reason.text)
      | .ok (.absent parent name) =>
        Act.place (parent ++ [name]) (.link text)
        say
        return true
      | .ok (.here goal) =>
        Act.remove goal
        Act.place goal (.link text)
        say
        return true
    | .dir entries =>
      let copyAll : Act Bool := entries.foldlM (fun isGood (name, child) => do
        let name := Octets.encode name
        let good ← copyNode style depth (place ++ [Octets.decode name]) child
          (childPath source name) (childPath target name)
        return isGood && good) true
      let finish (isGood : Bool) : Act Bool := do
        match ← Act.find .target target with
        | .ok (copy, _) =>
          if style.keepsAttributes then keepAttributes place node copy
          return isGood
        | .error _ => return isGood
      match ← Act.find .target target with
      | .ok (_, .dir _) => finish (← copyAll)
      | .ok _ =>
        fail ("cannot overwrite non-directory " ++ quoted target ++ " with directory " ++
          quoted source)
      | .error _ =>
        let bits ← Act.freshMode ((← get).attributes.bitsOf place node)
        match ← makeDirectory target bits with
        | .ok _ =>
          say
          finish (← copyAll)
        | .error reason =>
          fail ("cannot create directory " ++ quoted target ++ ": " ++ reason.text)
    | node =>
      match ← Act.find .target target with
      | .ok (_, .dir _) =>
        fail ("cannot overwrite directory " ++ quoted target ++ " with non-directory")
      | found =>
        let isSame := match found with
          | .ok (goal, _) => goal == place
          | .error _ => false
        if isSame then fail (quoted source ++ " and " ++ quoted target ++ " are the same file")
        else if !(← mayReplace target found.isOk style.clobber) then return true
        else if style.isUpdate && (← isOlder place found) then return true
        else if style.linkKind == some .hard && !found.isOk then
          match ← Act.arrive .entry target with
          | .ok (.absent parent name) =>
            Act.place (parent ++ [name]) node
            Act.modifyAttributes fun attributes => attributes.share place (parent ++ [name])
            say
            return true
          | _ => return false
        else if style.linkKind == some .symbolic then
          match found, ← Act.arrive .entry target with
          | .error _, .ok (.absent parent name) =>
            Act.place (parent ++ [name]) (.link (Act.pathOf source))
            say
            return true
          | _, _ =>
            fail ("cannot create symbolic link " ++ quoted target ++ " to " ++ quoted source ++
              ": File exists")
        else
          let remark ← match found with
            | .ok (goal, _) => putAside style.backup goal target
            | .error _ => pure ""
          let bytes := match node with
            | .file content _ => content
            | _ => ByteArray.empty
          let isNew := !found.isOk
          match ← Act.writeFile target .write bytes with
          | some reason =>
            let reason := if reason == .isDirectory then Reason.notDirectory else reason
            fail ("cannot create regular file " ++ quoted target ++ ": " ++ reason.text)
          | none =>
            match isNew, ← Act.find .target target with
            | true, .ok (goal, .file content _) =>
              Act.putNode goal (.file content (← Act.freshMode node.mode))
            | _, _ => pure ()
            match ← Act.find .target target with
            | .ok (goal, _) => if style.keepsAttributes then keepAttributes place node goal
            | .error _ => pure ()
            sayWith remark
            return true
where
  /-- A file did not change later than what is in the way of its copy. -/
  isOlder (place : Location) (found : Except Reason (Location × FileTree)) : Act Bool := do
    match found with
    | .ok (goal, _) =>
      let attributes := (← get).attributes
      return !(attributes.timeOf place).isAfter (attributes.timeOf goal)
    | .error _ => return false

/-- Copy one file or directory to a path. -/
def copyTo (style : CopyStyle) (source target : String) : Act Bool := do
  let fail (text : String) : Act Bool := do
    complain text
    return false
  match ← Act.find (if style.keepsLinks then .entry else .target) source with
  | .error reason => fail ("cannot stat " ++ quoted source ++ ": " ++ reason.text)
  | .ok (place, node) =>
    if node.isDir && !style.isDeep then
      fail ("-r not specified; omitting directory " ++ quoted source)
    else
      let goal := match ← Act.arrive .target (trimmed target) with
        | .ok (.here goal) => some goal
        | .ok (.absent parent name) => some (parent ++ [name])
        | .error _ => none
      match node, goal with
      | .dir _, some goal =>
        if goal = place then
          fail (quoted source ++ " and " ++ quoted target ++ " are the same file")
        else if place.isPrefixOf goal then
          let _ ← copyNode style maxTreeDepth place node source target
          fail ("cannot copy a directory, " ++ quoted source ++ ", into itself, " ++ quoted target)
        else copyNode style maxTreeDepth place node source target
      | node, _ => copyNode style maxTreeDepth place node source target

/-- The path below a directory that has all of a path in it. Its directories are made. -/
def parentedTarget (directory source : String) : Act String := do
  let target := childPath directory (trimmed source)
  (stepsOf (parentPath target)).forM fun step => do
    if (← Act.node? step).isNone then
      let _ ← makeDirectory step (← Act.freshMode 0o777)
  return target

/-- Copy files and directories. -/
def cp : Utility := fun _ args =>
  let flags := transferFlags "rRafinpvuLPHdTt:bS:xls" ++
    [⟨'!', "parents", false⟩, ⟨'p', "no-preserve", true⟩]
  withOptions flags false 1 args fun given => do
    match ← goalOf given true with
    | none => return 1
    | some (sources, goal) =>
      let isDeep := given.has 'r' || given.has 'R' || given.has 'a'
      let keepsLinks := (isDeep || given.has 'P' || given.has 'd') && !given.has 'L'
      let style : CopyStyle :=
        { isDeep := isDeep, keepsLinks := keepsLinks, clobber := clobberOf given
          backup := backupOf given, isVerbose := given.has 'v'
          keepsAttributes := given.has 'p' || given.has 'a', isUpdate := given.has 'u'
          linkKind := if given.has 's' then some .symbolic
            else if given.has 'l' then some .hard else none }
      if given.has '!' && !goal.isInto then
        usage "with --parents, the destination must be a directory"
      else
        forEach sources fun source => do
          let target ← if given.has '!' then parentedTarget goal.path source
            else pure (goal.targetOf source)
          copyTo style source target

/-- Make a link to a source at a path. -/
def linkTo (kind : LinkKind) (given : Given) (source target : String) : Act Bool := do
  let fail (text : String) : Act Bool := do
    complain text
    return false
  let node : Except (Act Bool) (Option Location × FileTree) ← match kind with
    | .symbolic => pure (.ok (none, .link (Act.pathOf source)))
    | .hard => do
      match ← Act.find (if given.has 'L' then .target else .entry) source with
      | .ok (_, .dir _) =>
        pure (.error (fail (source ++ ": hard link not allowed for directory")))
      | .ok (place, node) => pure (.ok (some place, node))
      | .error reason =>
        pure (.error (fail ("failed to access " ++ quoted source ++ ": " ++ reason.text)))
  match node with
  | .error failure => failure
  | .ok (own, node) =>
    let cannot (reason : Reason) : Act Bool :=
      fail (match kind with
        | .symbolic => "failed to create symbolic link " ++ quoted target ++ ": " ++ reason.text
        | .hard =>
          if reason == .exists then
            "failed to create hard link " ++ quoted target ++ ": " ++ reason.text
          else
            "failed to create hard link " ++ quoted target ++ " => " ++ quoted source ++ ": " ++
              reason.text)
    let putAt (place : Location) (remark : String) : Act Bool := do
      let time := own.map (← get).attributes.timeOf
      Act.place place node
      match own, time with
      | some own, some time =>
        Act.modifyAttributes fun attributes =>
          (attributes.share own place).touch (attributes.placesOf own ++ [place]) time
      | _, _ => pure ()
      if given.has 'v' then
        print (quoted target ++ (if kind == .symbolic then " -> " else " => ") ++
          quoted source ++ remark ++ "\n")
      return true
    match ← Act.arrive .entry target with
    | .error reason => cannot reason
    | .ok (.absent parent name) => putAt (parent ++ [name]) ""
    | .ok (.here place) =>
      let isDir := (((← get).tree.get? place).map FileTree.isDir).getD false
      let isWanted : Act Bool :=
        if clobberOf given == .asks then confirm ("replace " ++ quoted target ++ "? ")
        else return true
      if isDir && (given.has 'f' || given.has 'i' || given.has 'b') then
        fail (quoted target ++ ": cannot overwrite directory")
      else if !(← isWanted) then return false
      else if given.has 'b' then
        let remark ← putAside (backupOf given) place target
        putAt place remark
      else if given.has 'f' || given.has 'i' then
        Act.remove place
        putAt place ""
      else cannot .exists

/-- Make links. -/
def ln : Utility := fun _ args =>
  withOptions (transferFlags "sfnvTt:rbS:iLPd") false 1 args fun given => do
    let kind := if given.has 's' then LinkKind.symbolic else .hard
    let link (source target : String) : Act Bool := do
      let source ← if given.has 'r' && kind == .symbolic then
          pure (relativeText (← realText (parentPath target)) (← realText source))
        else pure source
      linkTo kind given source target
    match given.operands, given.value? 't' with
    | [single], none => forEach [single] fun source => link source (childPath "." (baseOf source))
    | _, _ =>
      match ← goalOf given !(given.has 'n') with
      | none => return 1
      | some (sources, goal) => forEach sources fun source => link source (goal.targetOf source)

/-- Make one hard link. -/
def link : Utility := fun _ args => withLetters "" args fun given => do
  match given.operands with
  | [] => usage "missing operand"
  | [single] => usage ("missing operand after " ++ quoted single)
  | [source, target] =>
    let fail (reason : Reason) : Act Nat := do
      complain
        ("cannot create link " ++ quoted target ++ " to " ++ quoted source ++ ": " ++ reason.text)
      return 1
    match ← Act.find .entry source, ← Act.arrive .entry target with
    | .error reason, _ => fail reason
    | .ok (_, .dir _), _ => fail .notPermitted
    | _, .error reason => fail reason
    | _, .ok (.here _) => fail .exists
    | .ok (place, node), .ok (.absent parent name) =>
      Act.place (parent ++ [name]) node
      Act.modifyAttributes fun attributes => attributes.share place (parent ++ [name])
      return 0
  | _ :: _ :: extra :: _ => usage ("extra operand " ++ quoted extra)

/-- Copy files and set their permissions, or make directories. -/
def install : Utility := fun _ args =>
  let flags := flagsOf "bcdDg:m:o:psS:t:TvZ".toList ++
    [⟨'d', "directory", false⟩, ⟨'m', "mode", true⟩, ⟨'v', "verbose", false⟩,
     ⟨'t', "target-directory", true⟩, ⟨'T', "no-target-directory", false⟩]
  withOptions flags false 1 args fun given => do
    let makeWay (path : String) : Act Unit := (stepsOf path).forM fun step => do
      if (← Act.node? step).isNone then
        match ← makeDirectory step 0o755 with
        | .ok _ =>
          if given.has 'v' then announce ("creating directory " ++ quoted step)
        | .error reason =>
          complain ("cannot create directory " ++ quoted step ++ ": " ++ reason.text)
    let mode := (given.value? 'm').getD "755"
    match Permission.change? 0 false 0 mode with
    | none =>
      complain ("invalid mode " ++ quoted mode)
      return 1
    | some bits =>
      if given.has 'd' then
        if given.operands.isEmpty then usage "missing file operand"
        else
          given.operands.forM makeWay
          forEach given.operands fun path => do
            match ← Act.find .target path with
            | .ok (place, .dir entries) =>
              setBits place bits (.dir entries)
              return true
            | _ => return false
      else
        if given.has 'D' then
          match given.value? 't', given.operands.getLast? with
          | some directory, _ => makeWay directory
          | none, some target => makeWay (parentPath target)
          | none, none => pure ()
        match ← goalOf given true with
        | none => return 1
        | some (sources, goal) =>
          forEach sources fun source => do
            let target := goal.targetOf source
            match ← Act.find .target source with
            | .error reason =>
              complain ("cannot stat " ++ quoted source ++ ": " ++ reason.text)
              return false
            | .ok (_, .dir _) =>
              complain ("omitting directory " ++ quoted source)
              return false
            | .ok (_, node) =>
              let content := match node with
                | .file content _ => content
                | _ => ByteArray.empty
              match ← Act.writeFile target .write content with
              | some reason =>
                complain
                  ("cannot create regular file " ++ quoted target ++ ": " ++ reason.text)
                return false
              | none =>
                match ← Act.find .target target with
                | .ok (place, .file content _) => Act.putNode place (.file content bits)
                | _ => pure ()
                if given.has 'v' then print (quoted source ++ " -> " ++ quoted target ++ "\n")
                return true

end Utility

end TestCursor
