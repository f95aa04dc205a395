/-!
# Texts of bytes

A shell does not know characters: what it reads, expands and prints are bytes. Its texts are
strings in which each character stands for the byte of its number, so that the length of such a
string is the number of bytes.
-/

namespace TestCursor

namespace Octets

def ofBytes (bytes : ByteArray) : String :=
  String.ofList (bytes.toList.map fun byte => Char.ofNat byte.toNat)

def toBytes (text : String) : ByteArray :=
  ⟨(text.toList.map fun c => UInt8.ofNat c.toNat).toArray⟩

def encode (text : String) : String := ofBytes text.toUTF8

/-- A character that is being decoded. -/
structure Decoder where
  /-- How many bytes are missing. -/
  missing : Nat
  /-- The number that the bytes so far spell. -/
  value : Nat
  /-- The smallest next byte. -/
  low : Nat
  /-- The largest next byte. -/
  high : Nat

namespace Decoder

/-- Between two characters. -/
def idle : Decoder := ⟨0, 0, 0x80, 0xBF⟩

/-- What stands for bytes that spell no character. -/
def replacement : Char := '\uFFFD'

/-- The first byte of a character: the text that is complete with it, and what follows. -/
def begin? (byte : Nat) : List Char × Decoder :=
  if byte < 0x80 then ([Char.ofNat byte], idle)
  else if byte < 0xC2 then ([replacement], idle)
  else if byte < 0xE0 then ([], ⟨1, byte - 0xC0, 0x80, 0xBF⟩)
  else if byte < 0xF0 then
    ([], ⟨2, byte - 0xE0, if byte = 0xE0 then 0xA0 else 0x80, if byte = 0xED then 0x9F else 0xBF⟩)
  else if byte < 0xF5 then
    ([], ⟨3, byte - 0xF0, if byte = 0xF0 then 0x90 else 0x80, if byte = 0xF4 then 0x8F else 0xBF⟩)
  else ([replacement], idle)

/-- Decode bytes. A sequence of bytes that begins a character and does not complete it is replaced
as a whole. -/
def run : Decoder → List UInt8 → List Char
  | decoder, [] => if decoder.missing = 0 then [] else [replacement]
  | decoder, byte :: rest =>
    let number := byte.toNat
    if decoder.missing = 0 then
      let (text, next) := begin? number
      text ++ run next rest
    else if decoder.low ≤ number ∧ number ≤ decoder.high then
      let value := decoder.value * 64 + (number - 0x80)
      if decoder.missing = 1 then Char.ofNat value :: run idle rest
      else run ⟨decoder.missing - 1, value, 0x80, 0xBF⟩ rest
    else
      let (text, next) := begin? number
      replacement :: (text ++ run next rest)

end Decoder

/-- The characters that bytes spell. Bytes that spell none are replaced. -/
def lossyText (bytes : ByteArray) : String :=
  match String.fromUTF8? bytes with
  | some text => text
  | none => String.ofList (Decoder.run .idle bytes.toList)

def decode (text : String) : String := lossyText (toBytes text)

end Octets

end TestCursor
