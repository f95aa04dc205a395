import Mathlib.Data.String.Basic

/-!
# The order of names

Names are sorted by their characters, and a directory is listed in the order of the bytes of its
names. The two orders are one.

1. Of two characters the lesser has the lesser bytes, and they differ before either ends, whatever
   follows (`utf8EncodeChar_append_lt`).
2. So of two names the lesser has the lesser bytes (`bytesPrecede_of_lt`).
-/

namespace TestCursor

def bytesOf (name : String) : List UInt8 := name.toUTF8.data.toList

/-- A name stands before another one in the order of their bytes. -/
def BytesPrecede (name other : String) : Prop := bytesOf name < bytesOf other

theorem bytesOf_eq (name : String) :
    bytesOf name = name.toList.flatMap String.utf8EncodeChar := by
  rw [bytesOf, String.toUTF8_eq_toByteArray, ← String.utf8Encode_toList, List.utf8Encode,
    List.data_toByteArray]

/-- Of two characters the lesser has the lesser bytes: its first byte is less if it has fewer of
them, and otherwise the first digit to the base 64 in which the two differ is. -/
theorem utf8EncodeChar_append_lt {c d : Char} (h : c < d) (rest others : List UInt8) :
    String.utf8EncodeChar c ++ rest < String.utf8EncodeChar d ++ others := by
  have hcode : c.val.toNat < d.val.toNat := h
  have hlast (c : Char) : c.val.toNat < 0x110000 := by
    have hvalid := c.valid
    unfold UInt32.isValidChar Nat.isValidChar at hvalid
    omega
  have hdigits {n : Nat} (hn : n < 0x110000) :
      n = n / 262144 % 8 * 262144 + n / 4096 % 64 * 4096 + n / 64 % 64 * 64 + n % 64 := by omega
  have hbyte {n : Nat} (hn : n < 256) : (UInt8.ofNat n).toNat = n :=
    UInt8.toNat_ofNat_of_lt' hn
  have hc := hdigits (hlast c)
  have hd := hdigits (hlast d)
  unfold String.utf8EncodeChar
  generalize c.val.toNat = code at *
  generalize d.val.toNat = code' at *
  dsimp only
  -- One case for each pair of lengths; where `d` would have fewer bytes its code is less.
  split_ifs <;>
    simp (disch := omega) only [List.cons_append, List.nil_append, List.cons_lt_cons_iff,
      UInt8.lt_iff_toNat_lt, ← UInt8.toNat_inj, hbyte] <;> omega

/-- Of two names the lesser stands before the other in the order of their bytes. -/
theorem bytesPrecede_of_lt {name other : String} (h : name < other) : BytesPrecede name other := by
  rw [String.lt_iff_toList_lt] at h
  rw [BytesPrecede, bytesOf_eq, bytesOf_eq]
  generalize name.toList = text at h ⊢
  generalize other.toList = text' at h ⊢
  induction text generalizing text' with
  | nil =>
    cases text' with
    | nil => exact absurd h (List.lt_irrefl _)
    | cons d text' =>
      obtain ⟨byte, bytes, hbytes⟩ :=
        List.exists_cons_of_ne_nil (String.utf8EncodeChar_ne_nil (c := d))
      rw [List.flatMap_nil, List.flatMap_cons, hbytes]
      exact List.nil_lt_cons _ _
  | cons c text ih =>
    cases text' with
    | nil => exact absurd h (List.not_lt_nil _)
    | cons d text' =>
      rw [List.flatMap_cons, List.flatMap_cons]
      rcases List.cons_lt_cons_iff.mp h with hchar | ⟨rfl, htext⟩
      · exact utf8EncodeChar_append_lt hchar _ _
      · exact List.append_left_lt (ih _ htext)

theorem not_bytesPrecede_of_bytesPrecede {name other : String} (h : BytesPrecede name other) :
    ¬BytesPrecede other name := List.lt_asymm h

end TestCursor
