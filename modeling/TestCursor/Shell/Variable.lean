import TestCursor.Shell.Stream

/-!
# Variables and parameters
-/

namespace TestCursor

namespace Shell

/-- The value put under a name in a list of pairs, in the place of the one that is there. -/
def putPair {α : Type} (name : String) (value : α) : List (String × α) → List (String × α)
  | [] => [(name, value)]
  | (other, old) :: rest =>
    if other = name then (name, value) :: rest else (other, old) :: putPair name value rest

/-- A list of pairs without those of a name. -/
def dropPair {α : Type} (name : String) (pairs : List (String × α)) : List (String × α) :=
  pairs.filter fun pair => pair.1 != name

/-- The variable with the directories in which programs are looked up. Those that were found are
forgotten when it changes. -/
def searchPathName : String := "PATH"

namespace Process

/-- Set a variable to a value. It keeps its marks. -/
def assign (process : Process) (name value : String) : Process :=
  let old := (process.bindings.lookup name).getD ⟨none, process.options.contains 'a', false⟩
  let process :=
    { process with bindings := putPair name { old with value := some value } process.bindings }
  if name = "OPTIND" then
    { process with optionIndex := max 1 (value.toNat?.getD 1), optionOffset := none }
  else if name = searchPathName then { process with programs := [] }
  else process

/-- A shell variable that its environment gives or that it has by itself. -/
def define (process : Process) (name value : String) (isExported : Bool) : Process :=
  { process with bindings := putPair name ⟨some value, isExported, false⟩ process.bindings }

end Process

def argument? (process : Process) (number : Nat) : Option String :=
  if number = 0 then some process.name else process.arguments[number - 1]?

/-- The value of a parameter that is not the list of the arguments. -/
def parameter? (process : Process) (name : String) : Option String :=
  match name with
  | "?" => some (toString process.status)
  | "#" => some (toString process.arguments.length)
  | "$" => some (toString process.shell)
  | "!" => process.lastJob.map toString
  | "-" => some (String.ofList process.options)
  | name =>
    if !name.isEmpty && name.toList.all Char.isDigit then
      name.toNat?.bind (argument? process)
    else process.valueOf? name

namespace Act

/-- Set a variable, which must have a proper name and must not be fixed. -/
def assign (name value : String) : Act Unit := do
  if !isVariableName name then fail (name ++ ": bad variable name")
  else if (((← process).bindings.lookup name).map Variable.isReadonly).getD false then
    fail (name ++ ": is read only")
  else modifyProcess fun p => p.assign name value

/-- Mark a variable for the commands that are run. -/
def exportVariable (name : String) : Act Unit := modifyProcess fun p =>
  let old := (p.bindings.lookup name).getD ⟨none, false, false⟩
  { p with bindings := putPair name { old with isExported := true } p.bindings }

/-- Put a variable aside until the function that is run ends. -/
def makeLocal (name : String) : Act Unit := modifyProcess fun p =>
  match p.frames with
  | frame :: frames =>
    if (frame.hidden.lookup name).isSome then p
    else
      let hidden := (name, p.bindings.lookup name) :: frame.hidden
      { p with frames := { frame with hidden := hidden } :: frames }
  | [] => p

/-- Put the options aside until the function that is run ends. -/
def makeOptionsLocal : Act Unit := modifyProcess fun p =>
  match p.frames with
  | frame :: frames =>
    { p with frames := { frame with options := frame.options.or (some p.options) } :: frames }
  | [] => p

/-- Forget a variable. -/
def unset (name : String) : Act Unit := do
  if (((← process).bindings.lookup name).map Variable.isReadonly).getD false then
    fail (name ++ ": is read only")
  else modifyProcess fun p =>
    { p with
      bindings := dropPair name p.bindings
      programs := if name = searchPathName then [] else p.programs }

/-- Run something, and bring back what was put aside meanwhile. -/
def withFrame {α : Type} (act : Act α) : Act α := do
  modifyProcess fun p => { p with frames := ⟨[], none⟩ :: p.frames }
  andAlways act <| modifyProcess fun p =>
    match p.frames with
    | frame :: frames =>
      let bindings := frame.hidden.foldl
        (fun bindings (name, old) =>
          match old with
          | some old => putPair name old bindings
          | none => dropPair name bindings)
        p.bindings
      { p with
        frames := frames, bindings := bindings, options := frame.options.getD p.options
        programs := if (frame.hidden.lookup searchPathName).isSome then [] else p.programs }
    | [] => p

end Act

end Shell

end TestCursor
