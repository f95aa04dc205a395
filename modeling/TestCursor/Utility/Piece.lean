import TestCursor.Utility.Basic

/-!
# Pieces of files

Programs that cut files into pieces, change their lengths, and copy parts of them.
-/

namespace TestCursor

open Shell

namespace Utility

/-! ## Cutting files up -/

/-- The letters or digits that count the pieces, at so many places. -/
def pieceName (isNumeric : Bool) : Nat → Nat → String
  | 0, _ => ""
  | places + 1, number =>
    let base := if isNumeric then 10 else 26
    pieceName isNumeric places (number / base) ++
      String.ofList [Char.ofNat ((if isNumeric then '0' else 'a').toNat + number % base)]

/-- A list in runs of a length, the last of which can be shorter. -/
def inRuns {α : Type} (size : Nat) : Nat → List α → List (List α)
  | 0, _ => []
  | _, [] => []
  | bound + 1, items => items.take size :: inRuns size bound (items.drop size)

/-- A list in so many runs of the same length, of which the last one has what is left over. -/
def inShares {α : Type} (count : Nat) (items : List α) : List (List α) :=
  let size := items.length / count
  (List.range count).map fun index =>
    if index + 1 = count then items.drop (index * size) else (items.drop (index * size)).take size

/-- Write the pieces of a file to files of their own. -/
def split : Utility := fun _ args =>
  let args := args.map fun arg =>
    if 1 < arg.length && arg.startsWith "-" && (arg.toList.drop 1).all Char.isDigit then
      "-l" ++ (arg.drop 1).toString
    else arg
  let flags := flagsOf "l:b:n:a:dxC:t:eu".toList ++
    [⟨'l', "lines", true⟩, ⟨'b', "bytes", true⟩, ⟨'n', "number", true⟩,
     ⟨'a', "suffix-length", true⟩, ⟨'S', "additional-suffix", true⟩, ⟨'V', "verbose", false⟩,
     ⟨'d', "numeric-suffixes", false⟩]
  withOptions flags false 1 args fun given => do
    let fail (text : String) : Act Nat := do
      complain text
      return 1
    let amount (letter : Char) (what : String) (act : Nat → Act Nat) : Act Nat := do
      let text := (given.value? letter).getD "1000"
      match size? text with
      | none | some 0 => fail ("invalid number of " ++ what ++ ": " ++ quoted text)
      | some count => act count
    match given.operands with
    | _ :: _ :: extra :: _ => usage ("extra operand " ++ quoted extra)
    | operands =>
      let stem := operands.getD 1 "x"
      let places := ((given.value? 'a').bind natural?).getD 2
      match ← readInput (operands.headD "-") with
      | .error reason =>
        fail ("cannot open " ++ quoted (operands.headD "-") ++ " for reading: " ++ reason.text)
      | .ok text =>
        let save (pieces : List String) : Act Nat := do
          let limit := Nat.pow (if given.has 'd' then 10 else 26) places
          let failures ← ((pieces.take limit).zipIdx).filterMapM fun (piece, index) => do
            let path := stem ++ pieceName (given.has 'd') places index ++
              (given.value? 'S').getD ""
            if given.has 'V' then print ("creating file " ++ quoted path ++ "\n")
            return (← Act.writeFile path .write (Octets.toBytes piece)).map fun reason =>
              (path, reason)
          match failures with
          | (path, reason) :: _ => fail (path ++ ": " ++ reason.text)
          | [] =>
            if limit < pieces.length then fail "output file suffixes exhausted" else return 0
        if given.has 'b' then
          amount 'b' "bytes" fun count =>
            save ((inRuns count text.length text.toList).map String.ofList)
        else if given.has 'n' then
          amount 'n' "chunks" fun count => save ((inShares count text.toList).map String.ofList)
        else
          amount 'l' "lines" fun count => do
            let lines := (markedLines text).map fun (line, isEnded) =>
              if isEnded then line ++ "\n" else line
            save ((inRuns count lines.length lines).map String.join)

/-! ## Lengths -/

/-- The length that a text asks for, for a file of some length. -/
def newLength? (text : String) (old : Nat) : Option Nat :=
  let rest := (text.drop 1).toString
  match text.toList.head? with
  | some '+' => (size? rest).map fun count => old + count
  | some '-' => (size? rest).map fun count => old - count
  | some '<' => (size? rest).map fun count => min old count
  | some '>' => (size? rest).map fun count => max old count
  | some '/' => (size? rest).bind fun count =>
    if count = 0 then none else some (old / count * count)
  | some '%' => (size? rest).bind fun count =>
    if count = 0 then none else some ((old + count - 1) / count * count)
  | _ => size? text

/-- Bytes cut or filled up with zeros to a length. -/
def withLength (length : Nat) (bytes : ByteArray) : ByteArray :=
  if length ≤ bytes.size then bytes.extract 0 length
  else bytes ++ ByteArray.mk (Array.replicate (length - bytes.size) 0)

/-- Change the lengths of files. -/
def truncate : Utility := fun _ args =>
  let flags := flagsOf "cos:r:".toList ++
    [⟨'c', "no-create", false⟩, ⟨'s', "size", true⟩, ⟨'r', "reference", true⟩]
  withOptions flags false 1 args fun given => do
    let reference ← (given.value? 'r').mapM fun path => do
      match ← readInput path with
      | .ok text => return text.length
      | .error _ => return 0
    let text := (given.value? 's').getD ((reference.map toString).getD "")
    if text.isEmpty then usage "you must specify either '--size' or '--reference'"
    else if (newLength? text 0).isNone then
      complain ("Invalid number: " ++ quoted text)
      return 1
    else if given.operands.isEmpty then usage "missing file operand"
    else
      forEach given.operands fun path => do
        let isMissing := (← Act.node? path).isNone
        if isMissing && given.has 'c' then return true
        else
          let old ← if isMissing then pure ByteArray.empty
            else do
              match ← readInput path with
              | .ok text => pure (Octets.toBytes text)
              | .error _ => pure ByteArray.empty
          let length := (newLength? text old.size).getD old.size
          match ← Act.writeFile path .write (withLength length old) with
          | none => return true
          | some reason =>
            complain ("cannot open " ++ quoted path ++ " for writing: " ++ reason.text)
            return false

/-! ## Blocks -/

/-- The operands of a copy of blocks that have a value. -/
def blockOperands : List String :=
  ["if", "of", "bs", "ibs", "obs", "count", "skip", "seek", "conv", "status", "iflag", "oflag"]

/-- Bytes converted in the ways that words name. -/
def converted (ways : List String) (text : String) : String :=
  ways.foldl
    (fun text way =>
      match way with
      | "ucase" => text.map Char.toUpper
      | "lcase" => text.map Char.toLower
      | "swab" => String.ofList (swapped text.toList)
      | _ => text)
    text
where
  /-- Each pair of bytes turned around. -/
  swapped : List Char → List Char
    | x :: y :: rest => y :: x :: swapped rest
    | rest => rest

/-- The ways in which bytes can be converted. -/
def conversionWays : List String :=
  ["ucase", "lcase", "swab", "notrunc", "sync", "noerror", "fsync", "fdatasync", "excl", "nocreat"]

/-- Copy blocks of a file. -/
def dd : Utility := fun _ args => do
  let fail (text : String) : Act Nat := do
    complain text
    return 1
  let pairs := args.map fun arg =>
    let name := String.ofList (arg.toList.takeWhile (· != '='))
    (arg, name, (arg.drop (name.length + 1)).toString)
  let value? (name : String) : Option String := (pairs.map Prod.snd).reverse.lookup name
  let numbers := ["bs", "ibs", "obs", "count", "skip", "seek"]
  let ways := ((value? "conv").map fun text => text.splitOn ",").getD []
  match pairs.find? fun (arg, name, _) => !(blockOperands.contains name && arg.contains '='),
      pairs.find? fun (_, name, value) => numbers.contains name &&
        ((size? value).isNone || (name.endsWith "bs" && size? value == some 0)),
      ways.find? fun way => !conversionWays.contains way with
  | some (arg, _, _), _, _ => usage ("unrecognized operand " ++ quoted arg)
  | _, some (_, _, value), _ => fail ("invalid number: " ++ quoted value)
  | _, _, some way => usage ("invalid conversion: " ++ quoted way)
  | none, none, none =>
    let number (name : String) (otherwise : Nat) : Nat :=
      ((value? name).bind size?).getD otherwise
    let size := number "bs" (number "ibs" 512)
    let source := (value? "if").getD "-"
    let cannotOpen (path : String) (reason : Reason) : Act Nat :=
      fail ("failed to open " ++ quoted path ++ ": " ++ reason.text)
    let report (count : Nat) : Act Unit := do
      let records := toString (count / size) ++ "+" ++ (if count % size = 0 then "0" else "1")
      let status := (value? "status").getD ""
      if status != "none" then
        Act.say 2 (records ++ " records in\n" ++ records ++ " records out\n")
        if status != "noxfer" then
          Act.say 2 (toString count ++ " bytes copied, 0 s, Infinity B/s\n")
    let skipped := number "skip" 0 * size
    let wanted := ((value? "count").bind size?).map fun count => skipped + count * size
    match ← readPart wanted source with
    | .error .isDirectory =>
      complain ("error reading " ++ quoted source ++ ": " ++ Reason.isDirectory.text)
      report 0
      return 1
    | .error reason => cannotOpen source reason
    | .ok text =>
      let chars := text.toList.drop skipped
      let result := converted ways (String.ofList chars)
      match value? "of" with
      | none =>
        print result
        report chars.length
        return 0
      | some path =>
        let start := number "seek" 0 * size
        let old ← match ← Act.readFile none path with
          | .ok bytes => pure bytes
          | .error _ => pure ByteArray.empty
        let bytes := Octets.toBytes result
        let front := withLength start old
        let rest := if ways.contains "notrunc" then
            old.extract (start + bytes.size) old.size
          else ByteArray.empty
        match ← Act.writeFile path .write (front ++ bytes ++ rest) with
        | some reason => cannotOpen path reason
        | none =>
          report chars.length
          return 0

/-! ## Shuffling -/

/-- Print lines in some order. Their own is as good as any other. -/
def shuf : Utility := fun _ args =>
  let flags := flagsOf "ei:n:o:rz".toList ++
    [⟨'e', "echo", false⟩, ⟨'i', "input-range", true⟩, ⟨'n', "head-count", true⟩,
     ⟨'r', "repeat", false⟩]
  withOptions flags false 1 args fun given => do
    if let some value := (given.value? 'n').filter fun value => (natural? value).isNone then
      complain ("invalid line count: " ++ quoted value)
      return 1
    let printSome (lines : List String) : Act Nat := do
      print (unlines (match (given.value? 'n').bind natural? with
        | some count => lines.take count
        | none => lines))
      return 0
    if given.has 'e' then printSome given.operands
    else
      match given.value? 'i' with
      | some range =>
        match (range.splitOn "-").map natural? with
        | [some low, some high] =>
          printSome ((List.range (high + 1 - low)).map fun index => toString (low + index))
        | _ =>
          complain ("invalid input range: " ++ quoted range)
          return 1
      | none =>
        match ← readInput (given.operands.headD "-") with
        | .ok text => printSome (linesOf text)
        | .error reason =>
          complain (given.operands.headD "-" ++ ": " ++ reason.text)
          return 1

end Utility

end TestCursor
