import TestCursor.Shell.Machine

/-!
# Streams and files

Streams are numbers that a process gives to what it has opened. Reading and writing move along the
opening, so that processes that share it go on where the others stopped. A file that is removed
while it is open keeps its content for those who have it open.
-/

namespace TestCursor

namespace Shell

/-- How often a pipe can be written to before the process that does so is ended. -/
def maxPipeWrites : Nat := 50000

namespace Act

def opening? (stream : Nat) : Act (Option Nat) := return (← process).streams.lookup stream

/-- Open something new. -/
def addOpening (opening : Opening) : Act Nat := do
  let machine ← get
  set { machine with openings := machine.openings.push opening }
  return machine.openings.size

/-- Put an opening behind a stream, or close the stream. -/
def bind (stream : Nat) (opening : Option Nat) : Act Unit := modifyProcess fun p =>
  let others := p.streams.filter fun entry => entry.1 != stream
  { p with
    streams := match opening with
      | some index => (stream, index) :: others
      | none => others }

/-- A new pipe: what reads from it and what writes to it. -/
def newPipe (content : ByteArray) : Act (Nat × Nat) := do
  let machine ← get
  let index := machine.pipes.size
  set { machine with pipes := machine.pipes.push ⟨content, 0, 0⟩ }
  let reading ← addOpening ⟨.pipe index, 0, false, true, false⟩
  let writing ← addOpening ⟨.pipe index, 0, true, false, true⟩
  return (reading, writing)

/-- The path of the system that a text of the shell spells. -/
def pathOf (text : String) : String := Octets.decode text

/-- Where a path leads. -/
def arrive (purpose : Purpose) (path : String) : Act (Except Reason Arrival) := do
  let machine ← get
  match machine.tree.arrive machine.process.cwd purpose (pathOf path) with
  | .ok arrival => return .ok arrival
  | .error e => return .error (.ofFile e)

/-- The name of a device among the devices, unless it is a stream. -/
def deviceName? : Device → Option String
  | .null => some "null"
  | .zero => some "zero"
  | .full => some "full"
  | .stream _ => none

/-- The place and the node behind a stream. A pipe is at the place of the stream. -/
def streamNode (place : Location) (stream : Nat) : Act (Except Reason (Location × FileTree)) := do
  match ← opening? stream with
  | none => return .error .notFound
  | some index =>
    let machine ← get
    match (machine.openings.getD index default).channel with
    | .pipe _ => return .ok (place, .device (.stream stream))
    | .device kind =>
      return .ok (((deviceName? kind).map fun name => ["dev", name]).getD place, .device kind)
    | .directory goal | .file goal =>
      match machine.tree.get? goal with
      | some node => return .ok (goal, node)
      | none => return .error .notFound

/-- The place and the node that a path names. -/
def find (purpose : Purpose) (path : String) : Act (Except Reason (Location × FileTree)) := do
  match ← arrive purpose path with
  | .ok (.here place) =>
    match (← get).tree.get? place with
    | some (.device (.stream number)) => streamNode place number
    | some node => return .ok (place, node)
    | none => return .error .notFound
  | .ok (.absent _ _) => return .error .notFound
  | .error e => return .error e

def node? (path : String) : Act (Option FileTree) := do
  match ← find .target path with
  | .ok (_, node) => return some node
  | .error _ => return none

/-- Put a node at a place, and at all places of the file that is there, which changes now. -/
def putNode (place : Location) (node : FileTree) : Act Unit := modify fun machine =>
  let places := machine.attributes.placesOf place
  { machine with
    tree := places.foldl (fun tree place => tree.put place node) machine.tree
    attributes := machine.attributes.touch places machine.attributes.now }

/-- Put a node at a place at which nothing was. The directory changes, too. -/
def place (place : Location) (node : FileTree) : Act Unit := do
  putNode place node
  modifyAttributes fun attributes => attributes.touch [place.dropLast] attributes.now

def openNode (place : Location) (node : FileTree) (access : Access) : Act (Except Reason Nat) := do
  let reads := access == .read || access == .readWrite
  let empties := access == .write || access == .force
  let opening (channel : Channel) : Act (Except Reason Nat) := do
    return .ok (← addOpening ⟨channel, 0, access == .append, reads, access != .read⟩)
  match node with
  | .dir _ => if access == .read then opening (.directory place) else return .error .isDirectory
  | .link _ => return .error .tooManyLinks
  | .device (.stream number) =>
    match ← opening? number with
    | none => return .error .notFound
    | some index =>
      match ((← get).openings.getD index default).channel with
      | .file place =>
        if empties then
          let bits := (((← get).tree.get? place).map FileTree.mode).getD newFileMode
          putNode place (.file ByteArray.empty bits)
        opening (.file place)
      | _ => return .ok index
  | .device kind => opening (.device kind)
  | .file _ mode =>
    if empties then putNode place (.file ByteArray.empty mode)
    opening (.file place)

/-- The permission bits of a file that the process makes. -/
def freshMode (bits : Nat) : Act Nat := do
  let mask := (← process).mask
  return bits &&& (0o7777 ^^^ mask)

/-- Open a path. Writing makes a missing file; `keeps` refuses to write over one. -/
def openPath (access : Access) (keeps : Bool) (path : String) : Act (Except Reason Nat) := do
  match ← arrive (if access == .read then .target else .writing) path with
  | .error e => return .error e
  | .ok (.absent parent name) =>
    if access == .read then return .error .notFound
    else
      let node := FileTree.file ByteArray.empty (← freshMode 0o666)
      Act.place (parent ++ [name]) node
      openNode (parent ++ [name]) node access
  | .ok (.here place) =>
    match (← get).tree.get? place with
    | none => return .error .notFound
    | some node =>
      if keeps && access == .write && node.isFile then return .error .exists
      else openNode place node access

/-- How many bytes are read from a device without end if nobody says how many. -/
def zeroCount : Nat := 65536

/-- How many bytes can be read from a device without end. -/
def maxZeroCount : Nat := 16777216

def deviceBytes (kind : Device) (limit : Option Nat) : ByteArray :=
  match kind with
  | .zero | .full => ⟨Array.replicate (min (limit.getD zeroCount) maxZeroCount) 0⟩
  | .null | .stream _ => ByteArray.empty

/-- The bytes that are left behind an opening, all of them or at most so many. They are taken. -/
def readOpening (limit : Option Nat) (index : Nat) : Act (Except Reason ByteArray) := do
  let machine ← get
  let opening := machine.openings.getD index default
  let finish (start size : Nat) : Nat := min size (start + limit.getD size)
  if !opening.reads then return .error .badStream
  else
    match opening.channel with
    | .device kind => return .ok (deviceBytes kind limit)
    | .directory _ => return .error .isDirectory
    | .pipe number =>
      let pipe := machine.pipes.getD number default
      let taken := max pipe.taken (finish pipe.taken pipe.content.size)
      set { machine with
        pipes := machine.pipes.setIfInBounds number { pipe with taken := taken } }
      return .ok (pipe.content.extract pipe.taken taken)
    | .file place =>
      match machine.tree.get? place with
      | some (.file content _) =>
        let offset := max opening.offset (finish opening.offset content.size)
        set { machine with
          openings := machine.openings.setIfInBounds index { opening with offset := offset } }
        return .ok (content.extract opening.offset offset)
      | _ => return .ok ByteArray.empty

/-- The bytes that are left in a stream, all of them or at most so many. -/
def readStream (limit : Option Nat) (stream : Nat) : Act (Except Reason ByteArray) := do
  match ← opening? stream with
  | none => return .error .badStream
  | some index => readOpening limit index

/-- Give bytes back that were read from a stream. A pipe does not take them. -/
def unread (stream count : Nat) : Act Unit := do
  match ← opening? stream with
  | none => return
  | some index => modify fun machine =>
    let opening := machine.openings.getD index default
    match opening.channel with
    | .file _ =>
      { machine with
        openings := machine.openings.setIfInBounds index
          { opening with offset := opening.offset - count } }
    | _ => machine

def readByte (stream : Nat) : Act (Option UInt8) := do
  match ← opening? stream with
  | none => return none
  | some index =>
    let machine ← get
    let opening := machine.openings.getD index default
    match opening.channel with
    | .pipe number =>
      let pipe := machine.pipes.getD number default
      if pipe.taken < pipe.content.size then
        set { machine with
          pipes := machine.pipes.setIfInBounds number { pipe with taken := pipe.taken + 1 } }
        return some (pipe.content.get! pipe.taken)
      else return none
    | .file place =>
      match machine.tree.get? place with
      | some (.file content _) =>
        if opening.offset < content.size then
          set { machine with
            openings := machine.openings.setIfInBounds index
              { opening with offset := opening.offset + 1 } }
          return some (content.get! opening.offset)
        else return none
      | _ => return none
    | _ => return none

/-- Bytes with others put over them from an offset on. -/
def overlay (old : ByteArray) (offset : Nat) (bytes : ByteArray) : ByteArray :=
  let gap := ByteArray.mk (Array.replicate (offset - old.size) 0)
  old.extract 0 offset ++ gap ++ bytes ++ old.extract (offset + bytes.size) old.size

/-- Write bytes to an opening. -/
def writeOpening (index : Nat) (bytes : ByteArray) : Act (Option Reason) := do
  let machine ← get
  let opening := machine.openings.getD index default
  if !opening.writes then return some .badStream
  else
    match opening.channel with
    | .device .full => return if bytes.isEmpty then none else some .noSpace
    | .device _ => return none
    | .directory _ => return some .isDirectory
    | .pipe number =>
      let pipe := machine.pipes.getD number default
      if maxPipeWrites < pipe.writes then throw (.killed Signal.brokenPipe)
      else
        modify fun machine =>
          { machine with
            pipes := machine.pipes.modify number fun pipe =>
              { pipe with content := pipe.content ++ bytes, writes := pipe.writes + 1 } }
        return none
    | .file place =>
      match machine.tree.get? place with
      | some (.file content mode) =>
        let offset := if opening.appends then content.size else opening.offset
        putNode place (.file (overlay content offset bytes) mode)
        modify fun machine =>
          { machine with
            openings := machine.openings.setIfInBounds index
              { opening with offset := offset + bytes.size } }
        return none
      | _ => return none

def writeStream (stream : Nat) (bytes : ByteArray) : Act (Option Reason) := do
  if bytes.isEmpty then return none
  else
    match ← opening? stream with
    | none => return some .badStream
    | some index => writeOpening index bytes

def say (stream : Nat) (text : String) : Act Unit := do
  let _ ← writeStream stream (Octets.toBytes text)

/-- A complaint of the shell, with its name, the line and the command. -/
def complain (text : String) : Act Unit := do
  let p ← process
  let command := match p.command with
    | some command => command ++ ": "
    | none => ""
  say 2 (p.name ++ ": " ++ toString p.line ++ ": " ++ command ++ text ++ "\n")

/-- A complaint that ends the command, or the shell. -/
def fail {α : Type} (text : String) : Act α := do
  complain text
  setStatus 2
  throw .failed

/-- Keep what is open at a place for those who opened it. A file that has other places is open
there. -/
def detach (place : Location) : Act Unit := modify fun machine =>
  let content := match machine.tree.get? place with
    | some (.file content _) => content
    | _ => ByteArray.empty
  let isOpen (opening : Opening) : Bool := match opening.channel with
    | .file other => place.isPrefixOf other
    | _ => false
  match (machine.attributes.placesOf place).filter (· != place) with
  | another :: _ =>
    { machine with
      openings := machine.openings.map fun opening =>
        if isOpen opening then { opening with channel := .file another } else opening }
  | [] =>
    if machine.openings.any isOpen then
      machine.openings.foldl
        (fun (machine : Machine) opening =>
          if isOpen opening then
            let channel := Channel.pipe machine.pipes.size
            { machine with
              pipes := machine.pipes.push ⟨content, opening.offset, 0⟩
              openings := machine.openings.push { opening with channel := channel } }
          else { machine with openings := machine.openings.push opening })
        { machine with openings := #[] }
    else machine

def remove (place : Location) : Act Unit := do
  detach place
  modify fun machine =>
    { machine with
      tree := machine.tree.remove place
      attributes :=
        (machine.attributes.forget place).touch [place.dropLast] machine.attributes.now }

def move (place goal : Location) : Act Unit := do
  if place = goal then return
  detach goal
  let machine ← get
  match machine.tree.get? place with
  | none => return
  | some node =>
    let moved (opening : Opening) : Opening := match opening.channel with
      | .file other =>
        if place.isPrefixOf other then
          { opening with channel := .file (goal ++ other.drop place.length) }
        else opening
      | _ => opening
    set { machine with
      tree := (machine.tree.remove place).put goal node
      attributes := ((machine.attributes.forget goal).move place goal).touch
        [place.dropLast, goal.dropLast] machine.attributes.now
      openings := machine.openings.map moved }

/-- The bytes of the file that a path names, all of them or at most so many. -/
def readFile (limit : Option Nat) (path : String) : Act (Except Reason ByteArray) := do
  match ← openPath .read false path with
  | .error e => return .error e
  | .ok index => readOpening limit index

def writeFile (path : String) (access : Access) (bytes : ByteArray) : Act (Option Reason) := do
  match ← openPath access false path with
  | .error e => return some e
  | .ok index => writeOpening index bytes

end Act

end Shell

end TestCursor
