import TestCursor.Utility.Basic

/-!
# Paths

Programs that take paths apart, and that tell where links lead.
-/

namespace TestCursor

open Shell

namespace Utility

/-- A path without the separators at its end. -/
def trimmed (path : String) : String :=
  let chars := (path.toList.reverse.dropWhile (· == '/')).reverse
  if chars.isEmpty && !path.isEmpty then "/" else String.ofList chars

/-- The last piece of a path. -/
def baseOf (path : String) : String :=
  let path := trimmed path
  if path = "/" then path
  else String.ofList (path.toList.reverse.takeWhile (· != '/')).reverse

/-- A path without its last piece. -/
def parentPath (path : String) : String :=
  let chars := (trimmed path).toList.reverse
  let rest := chars.dropWhile (· != '/')
  if chars = ['/'] then "/"
  else if rest.isEmpty then "."
  else trimmed (String.ofList rest.reverse)

def childPath (directory name : String) : String :=
  if directory.endsWith "/" then directory ++ name else directory ++ "/" ++ name

/-- A text without an ending that is not all of it. -/
def dropEnding (ending text : String) : String :=
  if !ending.isEmpty && text.endsWith ending && text != ending then
    String.ofList (text.toList.take (text.length - ending.length))
  else text

/-- Print last pieces of paths. -/
def basename : Utility := fun _ args =>
  let flags := flagsOf "as:z".toList ++ [⟨'a', "multiple", false⟩, ⟨'s', "suffix", true⟩]
  withOptions flags true 1 args fun given => do
    let ending := (given.value? 's').getD ""
    match given.operands with
    | [] => usage "missing operand"
    | path :: rest =>
      if given.has 'a' || given.has 's' then
        print (unlines ((path :: rest).map fun path => dropEnding ending (baseOf path)))
        return 0
      else
        match rest with
        | [] =>
          print (baseOf path ++ "\n")
          return 0
        | [ending] =>
          print (dropEnding ending (baseOf path) ++ "\n")
          return 0
        | _ :: extra :: _ => usage ("extra operand " ++ quoted extra)

/-- Print paths without their last pieces. -/
def dirname : Utility := fun _ args => withLetters "z" args fun given => do
  if given.operands.isEmpty then usage "missing operand"
  else
    print (unlines (given.operands.map parentPath))
    return 0

/-- How deep directories are walked along. -/
def maxTreeDepth : Nat := 100

/-- The directories of a path from the first one on, as paths. -/
def stepsOf (path : String) : List String :=
  let pieces := (splitString '/' path).filter (· != "")
  let start := if path.startsWith "/" then "/" else ""
  (List.range pieces.length).map fun count =>
    start ++ "/".intercalate (pieces.take (count + 1))

/-- A path from a directory, without `.` and `..`. -/
def absoluteText (here path : String) : String :=
  let pieces := splitString '/' (if path.startsWith "/" then path else here ++ "/" ++ path)
  let done := pieces.foldl
    (fun done piece =>
      if piece = "" || piece = "." then done
      else if piece = ".." then done.drop 1
      else piece :: done)
    ([] : List String)
  "/" ++ "/".intercalate done.reverse

/-- A path without links, as far as it leads anywhere. -/
def realText (path : String) : Act String := do
  match ← Act.find .target path, ← Act.arrive .target path with
  | .ok (place, _), _ | _, .ok (.here place) => return Octets.encode (FileTree.pathOf place)
  | _, .ok (.absent parent name) => return Octets.encode (FileTree.pathOf (parent ++ [name]))
  | _, .error _ =>
    let here := Octets.encode (FileTree.pathOf (← Act.process).cwd)
    return absoluteText here path

/-- An absolute path as it is seen from a directory. -/
def relativeText (start path : String) : String :=
  let names (text : String) : List String := (splitString '/' text).filter (· != "")
  let (behind, ahead) := (names start, names path)
  let shared := ((behind.zip ahead).takeWhile fun (x, y) => x == y).length
  let steps := List.replicate (behind.length - shared) ".." ++ ahead.drop shared
  if steps.isEmpty then "." else "/".intercalate steps

/-- The target of a link, or the path without links. -/
def readlink : Utility := fun _ args =>
  withOptions (flagsOf "fenmqsvz".toList) false 1 args fun given => do
    let stop := if given.has 'n' && given.operands.length ≤ 1 then "" else "\n"
    if given.operands.isEmpty then usage "missing operand"
    else
      forEach given.operands fun path => do
        if given.has 'f' || given.has 'e' || given.has 'm' then
          match ← Act.arrive .target path with
          | .error _ =>
            if given.has 'm' then
              print ((← realText path) ++ stop)
              return true
            else return false
          | .ok (.absent _ _) =>
            if given.has 'e' then return false
            else
              print ((← realText path) ++ stop)
              return true
          | .ok (.here _) =>
            print ((← realText path) ++ stop)
            return true
        else
          match ← Act.find .entry path with
          | .ok (_, .link target) =>
            print (Octets.encode target ++ stop)
            return true
          | _ => return false

/-- Print paths without links. -/
def realpath : Utility := fun _ args =>
  let flags := flagsOf "emsqLPz".toList ++
    [⟨'e', "canonicalize-existing", false⟩, ⟨'m', "canonicalize-missing", false⟩,
     ⟨'s', "strip", false⟩, ⟨'s', "no-symlinks", false⟩, ⟨'q', "quiet", false⟩,
     ⟨'R', "relative-to", true⟩, ⟨'B', "relative-base", true⟩]
  withOptions flags false 1 args fun given => do
    let base ← (given.value? 'R').mapM realText
    let say (path : String) : Act Bool := do
      print ((match base with
        | some base => relativeText base path
        | none => path) ++ "\n")
      return true
    if given.operands.isEmpty then usage "missing operand"
    else
      forEach given.operands fun path => do
        let fail (reason : Reason) : Act Bool := do
          if !given.has 'q' then complain (path ++ ": " ++ reason.text)
          return false
        if given.has 's' then
          say (absoluteText (Octets.encode (FileTree.pathOf (← Act.process).cwd)) path)
        else
          match ← Act.arrive .target path with
          | .ok (.here _) => say (← realText path)
          | .ok (.absent _ _) => if given.has 'e' then fail .notFound else say (← realText path)
          | .error reason => if given.has 'm' then say (← realText path) else fail reason

end Utility

end TestCursor
