import TestCursor.Shell.Program
import TestCursor.Shell.User
import TestCursor.Utility.Table

/-!
# The files of a system

The tree of a system on which nobody worked yet: its programs, its devices, and some of the
directories and files that every system has. It stands in for the system on which lines are run.
-/

namespace TestCursor

namespace Shell

namespace Installation

def textFile (text : String) : FileTree := .file text.toUTF8 newFileMode

/-- A directory without entries. -/
def emptyDirectory : FileTree := .dir []

/-- The permission bits of a program. -/
def programMode : Nat := 0o755

def programFile (name : String) : FileTree := .file (programMark ++ name).toUTF8 programMode

def programs : FileTree := .dir <|
  ("bash", programFile "bash") :: ("dash", programFile "dash") :: ("sh", .link "dash") ::
    Utility.all.map fun (name, _) => (name, programFile name)

/-- Where the streams of a process lie. -/
def streamPlace : Location := ["proc", "self", "fd"]

def streams : FileTree := .dir ((List.range 10).map fun number =>
  (toString number, .device (.stream number)))

def streamLink (number : Nat) : FileTree :=
  .link (FileTree.pathOf (streamPlace ++ [toString number]))

def devices : FileTree := .dir
  [("null", .device .null), ("zero", .device .zero), ("full", .device .full),
   ("random", .device .zero), ("urandom", .device .zero),
   ("fd", .link (FileTree.pathOf streamPlace)), ("stdin", streamLink 0),
   ("stdout", streamLink 1), ("stderr", streamLink 2)]

def users : String := String.join (User.all.map User.line)

def groups : String := "root:x:0:\ndaemon:x:1:\nbin:x:2:\nnogroup:x:65534:\n"

/-- The files of a system. -/
def tree : FileTree := .dir
  [("bin", .link "usr/bin"), ("boot", emptyDirectory), ("dev", devices),
   ("etc", .dir [("group", textFile groups), ("hostname", textFile "localhost\n"),
     ("hosts", textFile "127.0.0.1\tlocalhost\n"), ("passwd", textFile users)]),
   ("home", emptyDirectory), ("lib", .link "usr/lib"), ("media", emptyDirectory),
   ("mnt", emptyDirectory), ("opt", emptyDirectory),
   ("proc", .dir [("self", .dir [("fd", streams)])]), ("root", emptyDirectory),
   ("run", emptyDirectory), ("sbin", .link "usr/sbin"),
   ("srv", emptyDirectory), ("sys", emptyDirectory), ("tmp", emptyDirectory),
   ("usr", .dir [("bin", programs), ("lib", emptyDirectory),
     ("local", .dir [("bin", emptyDirectory), ("lib", emptyDirectory), ("sbin", emptyDirectory)]),
     ("sbin", emptyDirectory), ("share", emptyDirectory)]),
   ("var", .dir [("lib", emptyDirectory), ("log", emptyDirectory), ("tmp", emptyDirectory)])]

/-- The permission bits of the directories that not everybody can read or change. -/
def directoryBits : List (Location × Nat) :=
  [(["root"], 0o700), (["tmp"], 0o1777), (["var", "tmp"], 0o1777)]

/-- The tree for a process whose input is empty. -/
def forEmptyInput (tree : FileTree) : FileTree :=
  tree.put (streamPlace ++ ["0"]) (.link "/dev/null")

end Installation

end Shell

end TestCursor
