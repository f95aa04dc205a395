import TestCursor.Shell.Variable

/-!
# Jobs

A shell keeps a list of the processes that it put in the background. Their numbers are the free
ones from 1 on. Every process that a shell starts takes a number; a job that ended and that the
script has waited for gives up its number, and is forgotten, when another process takes it.
-/

namespace TestCursor

namespace Shell

namespace Job

/-- Another process can take the number of the job. -/
def isSpent (job : Job) : Bool := job.isNoticed && job.isAwaited

/-- The number that the next process takes: the first one that no job has, or that of a job that
is spent. -/
def nextSlot (jobs : List Job) : Nat :=
  let isFree (slot : Nat) : Bool := jobs.all fun job => job.slot != slot || job.isSpent
  let last := jobs.foldl (fun last job => max last job.slot) 0
  ((List.range last).find? fun slot => isFree (slot + 1)).getD last + 1

/-- The jobs without the one whose number the next process takes. -/
def withoutSpent (jobs : List Job) : List Job :=
  let slot := nextSlot jobs
  jobs.filter fun job => job.slot != slot

end Job

namespace Act

def modifyJobs (change : List Job → List Job) : Act Unit :=
  modifyProcess fun p => { p with jobs := change p.jobs }

def noticeEnds : Act Unit := do
  let ended := (← get).ended
  modifyJobs fun jobs => jobs.map fun job =>
    { job with isNoticed := job.isNoticed || (ended.lookup job.process).isSome }

/-- Remember that the script has waited for the jobs that ended and for which something holds. -/
def markAwaited (holds : Job → Bool) : Act Unit :=
  modifyJobs fun jobs => jobs.map fun job =>
    { job with isAwaited := job.isAwaited || (job.isNoticed && holds job) }

/-- A process is started. -/
def takeSlot : Act Unit := modifyJobs Job.withoutSpent

/-- A process is put in the background. -/
def addJob (number members : Nat) : Act Unit := modifyProcess fun p =>
  let job : Job := ⟨Job.nextSlot p.jobs, number, members, false, false⟩
  { p with jobs := Job.withoutSpent p.jobs ++ [job], lastJob := some number }

end Act

end Shell

end TestCursor
