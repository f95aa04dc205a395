import TestCursor.Utility.Basic

/-!
# Digests

Short numbers that stand for the contents of files, and programs that print and check them.
-/

namespace TestCursor

open Shell

namespace Utility

namespace Digest

/-! ## Words and blocks -/

def turnLeft (word : UInt32) (count : UInt32) : UInt32 :=
  (word <<< count) ||| (word >>> (32 - count))

def turnRight (word : UInt32) (count : UInt32) : UInt32 :=
  (word >>> count) ||| (word <<< (32 - count))

/-- The bytes of a number, the lowest one first. -/
def bytesOf (number : Nat) : Nat → List UInt8
  | 0 => []
  | count + 1 => UInt8.ofNat (number % 256) :: bytesOf (number / 256) count

/-- A message with what fills up its last block: a bit, zeros, and its length in bits. -/
def padded (isLowFirst : Bool) (message : ByteArray) : ByteArray :=
  let zeros := (119 - message.size % 64) % 64
  let length := bytesOf (8 * message.size) 8
  message ++ ByteArray.mk (0x80 :: (List.replicate zeros 0 ++
    (if isLowFirst then length else length.reverse))).toArray

def wordAt (isLowFirst : Bool) (message : ByteArray) (index : Nat) : UInt32 :=
  let byte (offset : Nat) : UInt32 := (message.data.getD (index + offset) 0).toUInt32
  if isLowFirst then
    byte 0 ||| (byte 1 <<< 8) ||| (byte 2 <<< 16) ||| (byte 3 <<< 24)
  else
    byte 3 ||| (byte 2 <<< 8) ||| (byte 1 <<< 16) ||| (byte 0 <<< 24)

def blockWords (isLowFirst : Bool) (message : ByteArray) (block : Nat) : Array UInt32 :=
  ((List.range 16).map fun index => wordAt isLowFirst message (64 * block + 4 * index)).toArray

def byteText (byte : UInt8) : String :=
  let digit (number : Nat) : Char := Nat.digitChar number
  String.ofList [digit (byte.toNat / 16), digit (byte.toNat % 16)]

def wordsText (isLowFirst : Bool) (words : List UInt32) : String :=
  String.join (words.flatMap fun word =>
    let bytes := bytesOf word.toNat 4
    (if isLowFirst then bytes else bytes.reverse).map byteText)

/-- The words that are mixed with those of blocks. -/
abbrev Mixture := List UInt32

/-- Each word of a list added to the one at the same place of another one. -/
def addWords (xs ys : List UInt32) : List UInt32 := List.zipWith (· + ·) xs ys

/-! ## The digest of 128 bits -/

/-- The constants of the rounds. -/
def sineWords : Array UInt32 := #[
  0xd76aa478, 0xe8c7b756, 0x242070db, 0xc1bdceee, 0xf57c0faf, 0x4787c62a, 0xa8304613, 0xfd469501,
  0x698098d8, 0x8b44f7af, 0xffff5bb1, 0x895cd7be, 0x6b901122, 0xfd987193, 0xa679438e, 0x49b40821,
  0xf61e2562, 0xc040b340, 0x265e5a51, 0xe9b6c7aa, 0xd62f105d, 0x02441453, 0xd8a1e681, 0xe7d3fbc8,
  0x21e1cde6, 0xc33707d6, 0xf4d50d87, 0x455a14ed, 0xa9e3e905, 0xfcefa3f8, 0x676f02d9, 0x8d2a4c8a,
  0xfffa3942, 0x8771f681, 0x6d9d6122, 0xfde5380c, 0xa4beea44, 0x4bdecfa9, 0xf6bb4b60, 0xbebfbc70,
  0x289b7ec6, 0xeaa127fa, 0xd4ef3085, 0x04881d05, 0xd9d4d039, 0xe6db99e5, 0x1fa27cf8, 0xc4ac5665,
  0xf4292244, 0x432aff97, 0xab9423a7, 0xfc93a039, 0x655b59c3, 0x8f0ccc92, 0xffeff47d, 0x85845dd1,
  0x6fa87e4f, 0xfe2ce6e0, 0xa3014314, 0x4e0811a1, 0xf7537e82, 0xbd3af235, 0x2ad7d2bb, 0xeb86d391]

/-- By how many bits the rounds turn. -/
def turns : Array UInt32 := #[7, 12, 17, 22, 5, 9, 14, 20, 4, 11, 16, 23, 6, 10, 15, 21]

/-- One round of the digest of 128 bits. -/
def md5Round (words : Array UInt32) (state : Mixture) (round : Nat) : Mixture :=
  match state with
  | [a, b, c, d] =>
    let (mixed, index) : UInt32 × Nat := match round / 16 with
      | 0 => ((b &&& c) ||| (~~~b &&& d), round)
      | 1 => ((d &&& b) ||| (~~~d &&& c), (5 * round + 1) % 16)
      | 2 => (b ^^^ c ^^^ d, (3 * round + 5) % 16)
      | _ => (c ^^^ (b ||| ~~~d), (7 * round) % 16)
    let sum := a + mixed + sineWords.getD round 0 + words.getD index 0
    [d, b + turnLeft sum (turns.getD (4 * (round / 16) + round % 4) 0), b, c]
  | state => state

/-- The digest of 128 bits. -/
def md5 (message : ByteArray) : String :=
  let message := padded true message
  let final := (List.range (message.size / 64)).foldl
    (fun state block =>
      addWords state
        ((List.range 64).foldl (md5Round (blockWords true message block)) state))
    [0x67452301, 0xefcdab89, 0x98badcfe, 0x10325476]
  wordsText true final

/-! ## The digest of 160 bits -/

/-- The words of a block, and those that follow from them. -/
def sha1Words (words : Array UInt32) : Array UInt32 :=
  (List.range 64).foldl
    (fun words round =>
      let word (index : Nat) : UInt32 := words.getD index 0
      words.push (turnLeft
        (word (round + 13) ^^^ word (round + 8) ^^^ word (round + 2) ^^^ word round) 1))
    words

/-- One round of the digest of 160 bits. -/
def sha1Round (words : Array UInt32) (state : Mixture) (round : Nat) : Mixture :=
  match state with
  | [a, b, c, d, e] =>
    let (mixed, constant) : UInt32 × UInt32 := match round / 20 with
      | 0 => ((b &&& c) ||| (~~~b &&& d), 0x5a827999)
      | 1 => (b ^^^ c ^^^ d, 0x6ed9eba1)
      | 2 => ((b &&& c) ||| (b &&& d) ||| (c &&& d), 0x8f1bbcdc)
      | _ => (b ^^^ c ^^^ d, 0xca62c1d6)
    [turnLeft a 5 + mixed + e + constant + words.getD round 0, a, turnLeft b 30, c, d]
  | state => state

/-- The digest of 160 bits. -/
def sha1 (message : ByteArray) : String :=
  let message := padded false message
  let final := (List.range (message.size / 64)).foldl
    (fun state block =>
      addWords state
        ((List.range 80).foldl (sha1Round (sha1Words (blockWords false message block))) state))
    [0x67452301, 0xefcdab89, 0x98badcfe, 0x10325476, 0xc3d2e1f0]
  wordsText false final

/-! ## The digest of 256 bits -/

/-- The constants of the rounds. -/
def rootWords : Array UInt32 := #[
  0x428a2f98, 0x71374491, 0xb5c0fbcf, 0xe9b5dba5, 0x3956c25b, 0x59f111f1, 0x923f82a4, 0xab1c5ed5,
  0xd807aa98, 0x12835b01, 0x243185be, 0x550c7dc3, 0x72be5d74, 0x80deb1fe, 0x9bdc06a7, 0xc19bf174,
  0xe49b69c1, 0xefbe4786, 0x0fc19dc6, 0x240ca1cc, 0x2de92c6f, 0x4a7484aa, 0x5cb0a9dc, 0x76f988da,
  0x983e5152, 0xa831c66d, 0xb00327c8, 0xbf597fc7, 0xc6e00bf3, 0xd5a79147, 0x06ca6351, 0x14292967,
  0x27b70a85, 0x2e1b2138, 0x4d2c6dfc, 0x53380d13, 0x650a7354, 0x766a0abb, 0x81c2c92e, 0x92722c85,
  0xa2bfe8a1, 0xa81a664b, 0xc24b8b70, 0xc76c51a3, 0xd192e819, 0xd6990624, 0xf40e3585, 0x106aa070,
  0x19a4c116, 0x1e376c08, 0x2748774c, 0x34b0bcb5, 0x391c0cb3, 0x4ed8aa4a, 0x5b9cca4f, 0x682e6ff3,
  0x748f82ee, 0x78a5636f, 0x84c87814, 0x8cc70208, 0x90befffa, 0xa4506ceb, 0xbef9a3f7, 0xc67178f2]

/-- The words of a block, and those that follow from them. -/
def sha256Words (words : Array UInt32) : Array UInt32 :=
  (List.range 48).foldl
    (fun words round =>
      let word (index : Nat) : UInt32 := words.getD index 0
      let x := word (round + 1)
      let y := word (round + 14)
      let first := turnRight x 7 ^^^ turnRight x 18 ^^^ (x >>> 3)
      let second := turnRight y 17 ^^^ turnRight y 19 ^^^ (y >>> 10)
      words.push (word round + first + word (round + 9) + second))
    words

/-- One round of the digest of 256 bits. -/
def sha256Round (words : Array UInt32) (state : Mixture) (round : Nat) : Mixture :=
  match state with
  | [a, b, c, d, e, f, g, h] =>
    let first := turnRight e 6 ^^^ turnRight e 11 ^^^ turnRight e 25
    let choice := (e &&& f) ^^^ (~~~e &&& g)
    let sum := h + first + choice + rootWords.getD round 0 + words.getD round 0
    let second := turnRight a 2 ^^^ turnRight a 13 ^^^ turnRight a 22
    let majority := (a &&& b) ^^^ (a &&& c) ^^^ (b &&& c)
    [sum + second + majority, a, b, c, d + sum, e, f, g]
  | state => state

/-- The words that the digest of 256 bits begins with. -/
def sha256Start : Mixture :=
  [0x6a09e667, 0xbb67ae85, 0x3c6ef372, 0xa54ff53a, 0x510e527f, 0x9b05688c, 0x1f83d9ab, 0x5be0cd19]

/-- The words that the digest of 224 bits begins with. -/
def sha224Start : Mixture :=
  [0xc1059ed8, 0x367cd507, 0x3070dd17, 0xf70e5939, 0xffc00b31, 0x68581511, 0x64f98fa7, 0xbefa4fa4]

/-- A digest of 256 bits or less, from the words that it begins with on. -/
def sha256From (start : Mixture) (count : Nat) (message : ByteArray) : String :=
  let message := padded false message
  let final := (List.range (message.size / 64)).foldl
    (fun state block =>
      addWords state
        ((List.range 64).foldl (sha256Round (sha256Words (blockWords false message block))) state))
    start
  wordsText false (final.take count)

/-! ## Sums of bytes -/

/-- A sum with a byte worked in, bit by bit. -/
def crcStep (sum : UInt32) (byte : UInt8) : UInt32 :=
  (List.range 8).foldl
    (fun sum _ => if sum &&& 0x80000000 != 0 then (sum <<< 1) ^^^ 0x04c11db7 else sum <<< 1)
    (sum ^^^ (byte.toUInt32 <<< 24))

/-- The bytes of a length, the lowest one first, up to the last one that is not zero. -/
def lengthBytes : Nat → Nat → List UInt8
  | 0, _ => []
  | bound + 1, length =>
    if length = 0 then [] else UInt8.ofNat (length % 256) :: lengthBytes bound (length / 256)

/-- The cyclic redundancy check of a message and its length. -/
def crc (message : ByteArray) : UInt32 :=
  ~~~((lengthBytes 8 message.size).foldl crcStep (message.data.foldl crcStep 0))

/-- The sum of bytes that turns by one bit with each of them. -/
def turningSum (message : ByteArray) : Nat :=
  message.data.foldl
    (fun sum byte => ((sum / 2 + (sum % 2) * 0x8000) + byte.toNat) % 0x10000) 0

end Digest

/-! ## Programs -/

/-- The path and the digest of a line of a list of digests. -/
def digestLine? (line : String) : Option (String × String) :=
  let digest := line.toList.takeWhile (· != ' ')
  match line.toList.drop digest.length with
  | ' ' :: mark :: path =>
    if digest.isEmpty || path.isEmpty || !(mark == ' ' || mark == '*') then none
    else some (String.ofList digest, String.ofList path)
  | _ => none

/-- A counted noun with its verb. -/
def countedRemark (count : Nat) (one many : String) : String :=
  toString count ++ " " ++ (if count = 1 then one else many)

/-- Print or check digests of files. -/
def digestProgram (label : String) (digest : ByteArray → String) : Utility := fun _ args =>
  let flags := flagsOf "bctwz".toList ++
    [⟨'c', "check", false⟩, ⟨'b', "binary", false⟩, ⟨'t', "text", false⟩, ⟨'T', "tag", false⟩,
     ⟨'q', "quiet", false⟩, ⟨'s', "status", false⟩, ⟨'w', "warn", false⟩,
     ⟨'S', "strict", false⟩, ⟨'I', "ignore-missing", false⟩]
  withOptions flags false 1 args fun given => do
    if given.has 'c' then
      eachChecked given
    else
      eachInput 1 given.operands fun path text => do
        let value := digest (Octets.toBytes text)
        if given.has 'T' then print (label ++ " (" ++ path ++ ") = " ++ value ++ "\n")
        else print (value ++ (if given.has 'b' then " *" else "  ") ++ path ++ "\n")
where
  /-- Check the digests that files list. -/
  eachChecked (given : Given) : Act Nat := do
    let isSilent := given.has 's'
    (if given.operands.isEmpty then ["-"] else given.operands).foldlM (fun status list => do
      match ← readInput list with
      | .error reason =>
        complain (list ++ ": " ++ reason.text)
        return 1
      | .ok text =>
        let entries := (linesOf text).filterMap digestLine?
        if entries.isEmpty then
          complain (list ++ ": no properly formatted checksum lines found")
          return 1
        else
          let (bad, missing) ← entries.foldlM (fun (bad, missing) (value, path) => do
            match ← readInput path with
            | .error reason =>
              if given.has 'I' && reason == .notFound then return (bad, missing)
              else
                complain (path ++ ": " ++ reason.text)
                if !isSilent then print (path ++ ": FAILED open or read\n")
                return (bad, missing + 1)
            | .ok text =>
              let isGood := digest (Octets.toBytes text) == value.map Char.toLower
              if !isSilent && !(isGood && given.has 'q') then
                print (path ++ (if isGood then ": OK\n" else ": FAILED\n"))
              return (if isGood then bad else bad + 1, missing)) (0, 0)
          if !isSilent && missing != 0 then
            complain ("WARNING: " ++ countedRemark missing "listed file could not be read"
              "listed files could not be read")
          if !isSilent && bad != 0 then
            complain ("WARNING: " ++ countedRemark bad "computed checksum did NOT match"
              "computed checksums did NOT match")
          return if bad = 0 && missing = 0 then status else 1) 0

def md5sum : Utility := digestProgram "MD5" Digest.md5

def sha1sum : Utility := digestProgram "SHA1" Digest.sha1

/-- Digests of 224 bits. -/
def sha224sum : Utility :=
  digestProgram "SHA224" (Digest.sha256From Digest.sha224Start 7)

/-- Digests of 256 bits. -/
def sha256sum : Utility :=
  digestProgram "SHA256" (Digest.sha256From Digest.sha256Start 8)

/-- Print cyclic redundancy checks and sizes. -/
def cksum : Utility := fun _ args => withLetters "" args fun given =>
  eachInput 1 given.operands fun path text => do
    let bytes := Octets.toBytes text
    print (toString (Digest.crc bytes) ++ " " ++ toString bytes.size ++
      (if given.operands.isEmpty then "" else " " ++ path) ++ "\n")

/-- Print sums of bytes and sizes in blocks. -/
def sum : Utility := fun _ args => withLetters "rs" args fun given =>
  eachInput 1 given.operands fun path text => do
    let bytes := Octets.toBytes text
    let label := if given.operands.isEmpty then "" else " " ++ path
    if given.has 's' then
      let total := bytes.data.foldl (fun total byte => total + byte.toNat) 0
      let once := total % 0x10000 + total / 0x10000 % 0x10000
      print (toString (once % 0x10000 + once / 0x10000) ++ " " ++
        toString ((bytes.size + 511) / 512) ++ label ++ "\n")
    else
      let value := toString (Digest.turningSum bytes)
      print (String.ofList (List.replicate (5 - value.length) '0') ++ value ++ " " ++
        padLeft 5 (toString ((bytes.size + 1023) / 1024)) ++ label ++ "\n")

/-! ## Bytes as letters -/

def sixBitLetters : Array Char :=
  "ABCDEFGHIJKLMNOPQRSTUVWXYZabcdefghijklmnopqrstuvwxyz0123456789+/".toList.toArray

/-- Bytes in letters of six bits each. -/
def encodeBytes : List UInt8 → List Char
  | [] => []
  | [x] =>
    let number := x.toNat * 16
    [letter (number / 64), letter number, '=', '=']
  | [x, y] =>
    let number := (x.toNat * 256 + y.toNat) * 4
    [letter (number / 4096), letter (number / 64), letter number, '=']
  | x :: y :: z :: rest =>
    let number := (x.toNat * 256 + y.toNat) * 256 + z.toNat
    letter (number / 262144) :: letter (number / 4096) :: letter (number / 64) :: letter number ::
      encodeBytes rest
where
  /-- The letter for the last six bits of a number. -/
  letter (number : Nat) : Char := sixBitLetters.getD (number % 64) 'A'

/-- The bytes that letters of six bits stand for, and whether all of them do. -/
def decodeLetters : List Char → List UInt8 × Bool
  | [] => ([], true)
  | [w, x, '=', '='] => ((beginning [w, x]).take 1, (beginning [w, x]).length == 1)
  | [w, x, y, '='] => ((beginning [w, x, y]).take 2, (beginning [w, x, y]).length == 2)
  | w :: x :: y :: z :: rest =>
    let here := beginning [w, x, y, z]
    if here.length = 3 then
      let (bytes, isGood) := decodeLetters rest
      (here ++ bytes, isGood)
    else (here, false)
  | letters => (beginning letters, false)
where
  /-- The bytes that the first of at most four letters stand for. -/
  beginning (letters : List Char) : List UInt8 :=
    let known := (letters.map value?).takeWhile Option.isSome |>.map (Option.getD · 0)
    let number := known.foldl (fun bits value => bits * 64 + value) 0 *
      Nat.pow 64 (4 - known.length)
    ([number / 65536 % 256, number / 256 % 256, number % 256].take (known.length * 6 / 8)).map
      UInt8.ofNat
  /-- The six bits that a letter stands for. -/
  value? (c : Char) : Option Nat := sixBitLetters.idxOf? c

/-- Letters in lines of a width. -/
def wrapped (width : Nat) : Nat → List Char → String
  | 0, _ => ""
  | _, [] => ""
  | bound + 1, letters =>
    String.ofList (letters.take width) ++ "\n" ++ wrapped width bound (letters.drop width)

/-- Write bytes as letters, or read them. -/
def base64 : Utility := fun _ args =>
  let flags := flagsOf "diw:".toList ++
    [⟨'d', "decode", false⟩, ⟨'i', "ignore-garbage", false⟩, ⟨'w', "wrap", true⟩]
  withOptions flags false 1 args fun given => do
    match given.operands with
    | _ :: extra :: _ => usage ("extra operand " ++ quoted extra)
    | operands =>
      match ← readInput (operands.headD "-") with
      | .error reason =>
        complain (operands.headD "-" ++ ": " ++ reason.text)
        return 1
      | .ok text =>
        if given.has 'd' then
          let letters := text.toList.filter fun c =>
            c != '\n' && (!given.has 'i' || c == '=' || sixBitLetters.contains c)
          let (bytes, isGood) := decodeLetters letters
          print (Octets.ofBytes (ByteArray.mk bytes.toArray))
          if isGood then return 0
          else
            complain "invalid input"
            return 1
        else
          let letters := encodeBytes (Octets.toBytes text).data.toList
          match natural? ((given.value? 'w').getD "76") with
          | none =>
            complain ("invalid wrap size: " ++ quoted ((given.value? 'w').getD ""))
            return 1
          | some 0 => print (String.ofList letters)
          | some width => print (wrapped width letters.length letters)
          return 0

end Utility

end TestCursor
