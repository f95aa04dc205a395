import TestCursor.Shell.Program

/-!
# Builtin commands for the processes in the background

They show the jobs of the shell and wait for them. The shell brings no job to the foreground.
-/

namespace TestCursor

namespace Shell

namespace Builtin

/-- The job that a word names: the last one, the one before it, or the one of a number. -/
def jobOf (word : String) : Act Job := do
  let jobs := (← Act.process).jobs.reverse
  let orFail (job : Option Job) (complaint : String) : Act Job :=
    match job with
    | some job => return job
    | none => Act.fail complaint
  match word.toList with
  | ['%'] | ['%', '+'] | ['%', '%'] => orFail jobs.head? "No current job"
  | ['%', '-'] => orFail jobs[1]? "No previous job"
  | '%' :: digits =>
    let slot := (String.ofList digits).toNat?
    orFail (jobs.find? fun job => some job.slot == slot) ("No such job: " ++ word)
  | _ => Act.fail ("No such job: " ++ word)

/-! ## Showing jobs -/

/-- How a job ended, or that it runs. -/
def jobState (job : Job) : Act String := do
  if !job.isNoticed then return "Running"
  else
    match (← get).ended.lookup job.process with
    | some (.killed signal) => return Signal.ending signal
    | some (.exited 0) | none => return "Done"
    | some (.exited status) => return "Done(" ++ toString status ++ ")"

/-- How wide the state of a job is written. -/
def stateWidth : Nat := 33

def jobLine (job : Job) (mark : Char) (hasNumber : Bool) : Act String := do
  let number := if hasNumber then toString job.process ++ " " else ""
  let start :=
    "[" ++ toString job.slot ++ "] " ++ String.ofList [mark, ' '] ++ number ++ (← jobState job)
  let blanks := max 1 (stateWidth - start.length)
  return start ++ String.ofList (List.replicate blanks ' ') ++
    String.join (List.replicate (job.members - 1) " | ") ++ "\n"

/-- Show a job. One that has ended is forgotten. -/
def showJob (given : List Char) (job : Job) : Act Unit := do
  if given.getLast? = some 'p' then
    let _ ← print (toString job.process ++ "\n")
  else
    let jobs := (← Act.process).jobs.reverse
    let isAt (index : Nat) : Bool := (jobs[index]?).any fun other => other.slot == job.slot
    let mark := if isAt 0 then '+' else if isAt 1 then '-' else ' '
    let _ ← print (← jobLine job mark (given.contains 'l'))
    if job.isNoticed then
      Act.modifyJobs fun jobs => jobs.filter fun other => other.slot != job.slot

/-- Show some jobs, or all of them, the last one first. -/
def jobs (args : List String) : Act Nat := do
  let (found, args) ← options "lp" "" args
  let given := found.map Prod.fst
  if args.isEmpty then
    Act.noticeEnds
    (← Act.process).jobs.reverse.forM (showJob given)
  else args.forM fun word => do showJob given (← jobOf word)
  return 0

/-! ## Waiting -/

/-- Wait for a job. What is said about its end is said only to who waits for it first. -/
def waitFor (run : Runner) (job : Job) : Act Nat := do
  Act.runWaiting run (Act.toEnd run) job.process
  let ending := (← get).ended.lookup job.process
  if !job.isNoticed then ending.forM Act.announce
  Act.noticeEnds
  Act.markAwaited fun other => other.slot == job.slot
  return (ending.map Ending.status).getD 127

/-- Wait for some processes in the background, or for all of them. -/
def wait (run : Runner) (args : List String) : Act Nat := do
  let (_, args) ← options "" "" args
  if args.isEmpty then
    (← Act.process).jobs.forM fun job => Act.runWaiting run (Act.toEnd run) job.process
    Act.noticeEnds
    Act.markAwaited fun _ => true
    return 0
  else
    args.foldlM (fun _ word => do
      match word.toList with
      | '%' :: _ => waitFor run (← jobOf word)
      | _ =>
        let target ← number word
        match (← Act.process).jobs.find? fun job => job.process == target with
        | some job => waitFor run job
        | none => return 127) 0

/-- Refuse to bring a job to the foreground, or to let it go on. -/
def resume (args : List String) : Act Nat := do
  let (_, args) ← options "" "" args
  let word := args.headD "%%"
  let _ ← jobOf word
  Act.fail ("job " ++ args.headD "(null)" ++ " not created under job control")

end Builtin

end Shell

end TestCursor
