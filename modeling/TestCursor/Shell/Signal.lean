/-!
# Signals
-/

namespace TestCursor

namespace Shell

namespace Signal

def last : Nat := 64

/-- The names of the signals, from number 1 on. Some have only their number. -/
def names : List String :=
  ["HUP", "INT", "QUIT", "ILL", "TRAP", "ABRT", "BUS", "FPE", "KILL", "USR1", "SEGV", "USR2",
   "PIPE", "ALRM", "TERM", "16", "CHLD", "CONT", "STOP", "TSTP", "TTIN", "TTOU", "URG",
   "XCPU", "XFSZ", "VTALRM", "PROF", "WINCH", "IO", "PWR", "SYS", "32", "33",
   "RTMIN"] ++
    (List.range 15).map (fun count => "RTMIN+" ++ toString (count + 1)) ++
    (List.range 14).reverse.map (fun count => "RTMAX-" ++ toString (count + 1)) ++ ["RTMAX"]

/-- What is said about a process that a signal ended, by the number of the signal. -/
def endings : List String :=
  ["Hangup", "Interrupt", "Quit", "Illegal instruction", "Trace/breakpoint trap", "Aborted",
   "Bus error", "Floating point exception", "Killed", "User defined signal 1",
   "Segmentation fault", "User defined signal 2", "Broken pipe", "Alarm clock", "Terminated",
   "Stack fault", "Child exited", "Continued", "Stopped (signal)", "Stopped",
   "Stopped (tty input)", "Stopped (tty output)", "Urgent I/O condition",
   "CPU time limit exceeded", "File size limit exceeded", "Virtual timer expired",
   "Profiling timer expired", "Window changed", "I/O possible", "Power failure",
   "Bad system call"]

/-- The name of a signal; that of the end of the shell is 0. -/
def name? (number : Nat) : Option String :=
  if number = 0 then some "EXIT" else names[number - 1]?

/-- The signal of a name; the end of the shell counts as 0. -/
def ofName? (name : String) : Option Nat :=
  let name := name.map Char.toUpper
  if name = "EXIT" then some 0 else (names.findIdx? (· == name)).map (· + 1)

/-- The signal that a number or a name stands for. -/
def number? (word : String) : Option Nat :=
  if !word.isEmpty && word.toList.all Char.isDigit then
    word.toNat?.bind fun number => if number ≤ last then some number else none
  else ofName? word

/-- The signal that a number or a name stands for, which can have its full form. -/
def ofWord? (word : String) : Option Nat :=
  let word := word.map Char.toUpper
  number? (if word.startsWith "SIG" then (word.drop 3).toString else word)

/-- What is said about a process that a signal ended. -/
def ending (number : Nat) : String := (endings[number - 1]?).getD ("Signal " ++ toString number)

/-- The signal of a process that uses up its stack. -/
def segmentation : Nat := 11

/-- The signal of a process that writes what nobody reads. -/
def brokenPipe : Nat := 13

/-- The signal that tells a process that one ended that it had started. -/
def child : Nat := 17

/-- The signals from the keyboard that a process in the background does not heed. -/
def keyboard : List Nat := [2, 3]

/-- The signal that a process cannot outlive. -/
def kill : Nat := 9

/-- The signal that is sent if none is named. -/
def terminate : Nat := 15

/-- A process that does nothing about the signal lives on. -/
def isHarmless (number : Nat) : Bool := [17, 18, 19, 20, 21, 22, 23, 28].contains number

end Signal

end Shell

end TestCursor
