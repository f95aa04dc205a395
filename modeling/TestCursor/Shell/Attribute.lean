import TestCursor.File.Tree

/-!
# Attributes of files

A tree tells what files hold and who can use them. Beside it is kept which names stand for one
file, who can use a directory, and when something changed.
-/

namespace TestCursor

namespace Shell

/-- When something changed. -/
structure ChangeTime where
  /-- The seconds since they began to be counted. -/
  seconds : Int
  /-- What came later in the same second has a larger number. -/
  order : Nat
  deriving DecidableEq, Repr, Inhabited

namespace ChangeTime

/-- A time is later than another one. -/
def isAfter (x y : ChangeTime) : Bool :=
  decide (y.seconds < x.seconds) || (x.seconds == y.seconds && decide (y.order < x.order))

/-- The second in which everything begins. -/
def startSeconds : Int := 1767225600

/-- When the files changed that are there from the beginning. -/
def start : ChangeTime := ⟨startSeconds, 0⟩

end ChangeTime

/-- The permission bits of a directory about which nothing is known. -/
def usualDirectoryBits : Nat := 0o755

/-- What is known about files beside their tree. -/
structure Attributes where
  /-- The places of each file that has several. -/
  shared : List (List Location)
  /-- The permission bits of directories. -/
  directoryBits : List (Location × Nat)
  times : List (Location × ChangeTime)
  now : ChangeTime
  deriving Inhabited

namespace Attributes

/-- What is known in the beginning: time went on since the files were made. -/
def start : Attributes := ⟨[], [], [], ⟨ChangeTime.startSeconds, 1⟩⟩

def placesOf (attributes : Attributes) (place : Location) : List Location :=
  (attributes.shared.find? fun places => places.contains place).getD [place]

def timeOf (attributes : Attributes) (place : Location) : ChangeTime :=
  (attributes.times.lookup place).getD ChangeTime.start

/-- The permission bits of a node at a place. -/
def bitsOf (attributes : Attributes) (place : Location) : FileTree → Nat
  | .file _ bits => bits
  | .dir _ => (attributes.directoryBits.lookup place).getD usualDirectoryBits
  | .link _ => 0o777
  | .device (.stream _) => 0o600
  | .device _ => 0o666

/-- How many names a node at a place has. A directory has one in each directory inside of it. -/
def nameCount (attributes : Attributes) (place : Location) : FileTree → Nat
  | .dir entries => 2 + (entries.filter fun entry => entry.2.isDir).length
  | _ => (attributes.placesOf place).length

def touch (attributes : Attributes) (places : List Location) (time : ChangeTime) : Attributes :=
  { attributes with
    times := places.map (fun place => (place, time)) ++
      attributes.times.filter fun entry => !places.contains entry.1 }

/-- A directory has other permission bits. -/
def setDirectoryBits (attributes : Attributes) (place : Location) (bits : Nat) : Attributes :=
  { attributes with
    directoryBits := (place, bits) ::
      attributes.directoryBits.filter fun entry => entry.1 != place }

/-- Nothing is known any more about a place and what is below it. -/
def forget (attributes : Attributes) (place : Location) : Attributes :=
  let isKept (other : Location) : Bool := !place.isPrefixOf other
  { attributes with
    shared := (attributes.shared.map fun places => places.filter isKept).filter fun places =>
      1 < places.length
    directoryBits := attributes.directoryBits.filter fun entry => isKept entry.1
    times := attributes.times.filter fun entry => isKept entry.1 }

/-- What was at a place, with all that is below it, is now at another one, where nothing was. -/
def move (attributes : Attributes) (place goal : Location) : Attributes :=
  let moved (other : Location) : Location :=
    if place.isPrefixOf other then goal ++ other.drop place.length else other
  { attributes with
    shared := attributes.shared.map fun places => places.map moved
    directoryBits := attributes.directoryBits.map fun (other, bits) => (moved other, bits)
    times := attributes.times.map fun (other, time) => (moved other, time) }

/-- The file at a place has another one, too. -/
def share (attributes : Attributes) (place another : Location) : Attributes :=
  let places := attributes.placesOf place
  { attributes with
    shared := (places ++ [another]) ::
      attributes.shared.filter fun others => !others.contains place
    times := (another, attributes.timeOf place) :: attributes.times }

/-- Time goes on. -/
def wait (attributes : Attributes) : Attributes :=
  { attributes with now := { attributes.now with order := attributes.now.order + 1 } }

end Attributes

end Shell

end TestCursor
