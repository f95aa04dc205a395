import TestCursor.Utility.Column
import TestCursor.Utility.Compare
import TestCursor.Utility.Date
import TestCursor.Utility.Digest
import TestCursor.Utility.Edit.Run
import TestCursor.Utility.Files
import TestCursor.Utility.Find
import TestCursor.Utility.Grep
import TestCursor.Utility.Listing
import TestCursor.Utility.Number
import TestCursor.Utility.Path
import TestCursor.Utility.Piece
import TestCursor.Utility.Show
import TestCursor.Utility.Sort
import TestCursor.Utility.Start
import TestCursor.Utility.Transfer
import TestCursor.Utility.Translate

/-!
# The programs of the system by name

A line that asks for a program of another name finds it only if the tree has a file of that name.
-/

namespace TestCursor

open Shell

namespace Utility

def all : List (String × Utility) :=
  [("[", testBracketed), ("arch", arch), ("base64", base64), ("basename", basename), ("cat", cat),
   ("chmod", chmod), ("cksum", cksum), ("cmp", cmp), ("comm", comm), ("cp", cp), ("cut", cut),
   ("date", date), ("dd", dd), ("diff", diff), ("dir", dir), ("dirname", dirname), ("echo", echo),
   ("egrep", egrep), ("env", env), ("expand", expand), ("expr", expr), ("factor", factor),
   ("false", failQuietly), ("fgrep", fgrep), ("find", find), ("fold", fold), ("grep", grep),
   ("groups", groups), ("head", head), ("hostname", hostname), ("id", identity),
   ("install", install), ("join", join),
   ("link", link), ("ln", ln), ("logname", logname), ("ls", ls), ("md5sum", md5sum),
   ("mkdir", mkdir), ("mktemp", mktemp), ("mv", mv), ("nice", nice), ("nl", nl), ("nohup", nohup),
   ("nproc", nproc), ("od", od), ("paste", paste), ("printenv", printenv), ("printf", printf),
   ("pwd", pwd), ("readlink", readlink), ("realpath", realpath), ("rev", rev), ("rm", rm),
   ("rmdir", rmdir), ("sed", sed), ("seq", seq), ("sha1sum", sha1sum), ("sha224sum", sha224sum),
   ("sha256sum", sha256sum), ("shuf", shuf), ("sleep", sleep), ("sort", sort), ("split", split),
   ("stat", stat), ("sum", sum), ("sync", succeed), ("tac", tac), ("tail", tail), ("tee", tee),
   ("test", test), ("timeout", timeout), ("touch", touch), ("tr", tr), ("true", succeed),
   ("truncate", truncate), ("tty", tty), ("uname", uname), ("unexpand", unexpand), ("uniq", uniq),
   ("unlink", unlink), ("wc", wc), ("which", which), ("whoami", whoami), ("xargs", xargs),
   ("yes", yes)]

/-- What a program says about output that could not be written, and its status then. -/
def lossReport (name : String) (reason : Reason) : List String × Nat :=
  let why := ": " ++ reason.text
  let isClosed := reason == .badStream
  match name with
  | "cat" => ([(if isClosed then "standard output" else "write error") ++ why], 1)
  | "dir" | "egrep" | "fgrep" | "grep" | "ls" | "printenv" => (["write error" ++ why], 2)
  | "sort" => (["fflush failed: 'standard output'" ++ why, "write error"], 2)
  | "sed" => (["couldn't " ++ (if isClosed then "close" else "flush") ++ " stdout" ++ why], 4)
  | "cmp" | "diff" => (["standard output" ++ why], 2)
  | "hostname" => ([], 0)
  | "expr" | "tty" => (["write error" ++ why], 3)
  | "env" => (["write error" ++ why], 125)
  | "find" => (["'standard output'" ++ why, "write error" ++ if isClosed then why else ""], 1)
  | "tee" => (["'standard output'" ++ why], 1)
  | "dd" =>
    (("error writing 'standard output'" ++ why) ::
      (if isClosed then ["closing output file 'standard output'" ++ why] else []), 1)
  | "cksum" | "md5sum" | "sha1sum" | "sha224sum" | "sha256sum" | "sum" | "wc" =>
    (["write error" ++ if isClosed then why else ""], 1)
  | _ => (["write error" ++ why], 1)

/-- A program that tells at its end that output could not be written. Two programs need their
output to be open even if there is none. -/
def tellingLoss (name : String) (utility : Utility) : Utility := fun host args => do
  let status ← utility host args
  let lost ← if (name = "cat" || name = "sed") && (← Act.opening? 1).isNone then
      pure (some Reason.badStream)
    else do pure (← Act.process).lost
  match lost with
  | none => return status
  | some reason =>
    let (complaints, status) := lossReport name reason
    complaints.forM complain
    return status

def find? (name : String) : Option Utility := (all.lookup name).map (tellingLoss name)

end Utility

end TestCursor
