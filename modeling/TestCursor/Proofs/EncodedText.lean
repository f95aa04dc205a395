import TestCursor.Proofs.NameOrder
import TestCursor.Proofs.SpacedWords
import TestCursor.Shell.Octets

/-!
# Texts as bytes

A shell is given the bytes of a text. A character of ASCII is one byte, which is no part of another
character, so that the text is cut at the same places as its bytes.
-/

namespace TestCursor

namespace Octets

/-- What stands for the bytes of a character. -/
def ofChar (c : Char) : List Char :=
  (String.utf8EncodeChar c).map fun byte => Char.ofNat byte.toNat

/-- What stands for the bytes of a text. -/
def ofText (text : List Char) : List Char := text.flatMap ofChar

section

variable {c d : Char} {text front back rest : List Char}

theorem toList_loop (bytes : ByteArray) (index : Nat) (done : List UInt8) :
    ByteArray.toList.loop bytes index done = done.reverse ++ bytes.data.toList.drop index := by
  fun_induction ByteArray.toList.loop bytes index done with
  | case1 index done hindex ih =>
    have hlength : index < bytes.data.toList.length := by simpa using hindex
    have hget : bytes.get! index = bytes.data.toList[index] := by
      show bytes.data[index]! = _
      rw [getElem!_pos bytes.data index hindex]
      rfl
    rw [ih, List.drop_eq_getElem_cons hlength, hget, List.reverse_cons, List.append_assoc]
    rfl
  | case2 index done hindex =>
    have hnone : bytes.data.toList.drop index = [] :=
      List.drop_of_length_le (by simpa using hindex)
    rw [hnone, List.append_nil]

theorem toList_bytes (bytes : ByteArray) : bytes.toList = bytes.data.toList := by
  rw [ByteArray.toList, toList_loop]
  rfl

theorem toList_encode (text : String) : (encode text).toList = ofText text.toList := by
  have hbytes : text.toUTF8.toList = text.toList.flatMap String.utf8EncodeChar :=
    (toList_bytes _).trans (bytesOf_eq text)
  rw [encode, ofBytes, String.toList_ofList, hbytes, List.map_flatMap]
  rfl

theorem ofChar_ne_nil (c : Char) : ofChar c ≠ [] := by
  simp [ofChar]

theorem ofChar_of_ascii (h : c.toNat < 0x80) : ofChar c = [c] := by
  have hcode : c.val.toNat ≤ 127 := Nat.le_of_lt_succ h
  unfold ofChar String.utf8EncodeChar
  dsimp only
  rw [if_pos hcode, List.map_singleton,
    UInt8.toNat_ofNat_of_lt' (Nat.lt_of_le_of_lt hcode (by decide))]
  exact congrArg (fun c => [c]) (Char.ofNat_toNat c)

theorem le_of_mem_ofChar (h : 0x80 ≤ c.toNat) (hd : d ∈ ofChar c) : 0x80 ≤ d.toNat := by
  have hcode : ¬c.val.toNat ≤ 127 := Nat.not_le.mpr h
  have hbyte {n : Nat} (hlow : 0x80 ≤ n) (hhigh : n < 256) :
      0x80 ≤ (Char.ofNat (UInt8.ofNat n).toNat).toNat := by
    have hvalid : n.isValidChar := .inl (by omega)
    rw [UInt8.toNat_ofNat_of_lt' hhigh, Char.ofNat, dif_pos hvalid]
    exact hlow
  obtain ⟨byte, hmem, rfl⟩ := List.mem_map.mp hd
  unfold String.utf8EncodeChar at hmem
  dsimp only at hmem
  rw [if_neg hcode] at hmem
  split_ifs at hmem <;>
    simp only [List.mem_cons, List.not_mem_nil, or_false] at hmem <;>
    rcases hmem with rfl | rfl | rfl | rfl <;> exact hbyte (by omega) (by omega)

theorem mem_ofText_iff (hc : c.toNat < 0x80) : c ∈ ofText text ↔ c ∈ text := by
  unfold ofText
  rw [List.mem_flatMap]
  constructor
  · rintro ⟨d, hd, hmem⟩
    by_cases hascii : d.toNat < 0x80
    · rw [ofChar_of_ascii hascii, List.mem_singleton] at hmem
      exact hmem ▸ hd
    · exact absurd (le_of_mem_ofChar (Nat.not_lt.mp hascii) hmem) (Nat.not_le.mpr hc)
  · intro hmem
    exact ⟨c, hmem, by rw [ofChar_of_ascii hc, List.mem_singleton]⟩

theorem ofText_append (front back : List Char) :
    ofText (front ++ back) = ofText front ++ ofText back := List.flatMap_append

theorem ofText_cons_of_ascii (hc : c.toNat < 0x80) (text : List Char) :
    ofText (c :: text) = c :: ofText text := by
  rw [ofText, List.flatMap_cons, ofChar_of_ascii hc]
  rfl

theorem ofText_eq_nil_iff : ofText text = [] ↔ text = [] := by
  unfold ofText
  rw [List.flatMap_eq_nil_iff, List.eq_nil_iff_forall_not_mem]
  exact forall₂_congr fun c _ => iff_of_false (ofChar_ne_nil c) not_false

/-- A text begins with characters of ASCII when its bytes do. -/
theorem eq_append_of_ofText (hfront : ∀ c ∈ front, c.toNat < 0x80)
    (h : ofText text = front ++ rest) : ∃ back, text = front ++ back := by
  induction front generalizing text with
  | nil => exact ⟨text, rfl⟩
  | cons c front ih =>
    obtain ⟨hc, hmore⟩ := List.forall_mem_cons.mp hfront
    cases text with
    | nil => cases h
    | cons d text =>
      by_cases hascii : d.toNat < 0x80
      · rw [ofText_cons_of_ascii hascii] at h
        obtain ⟨rfl, hrest⟩ := List.cons.inj h
        obtain ⟨back, rfl⟩ := ih hmore hrest
        exact ⟨back, rfl⟩
      · obtain ⟨first, others, hd⟩ := List.exists_cons_of_ne_nil (ofChar_ne_nil d)
        have hfirst : 0x80 ≤ first.toNat :=
          le_of_mem_ofChar (Nat.not_lt.mp hascii) (hd ▸ List.mem_cons_self)
        rw [ofText, List.flatMap_cons, hd] at h
        obtain ⟨rfl, -⟩ := List.cons.inj h
        exact absurd hc (Nat.not_lt.mpr hfirst)

theorem head?_of_ofText (hc : c.toNat < 0x80) (h : (ofText text).head? = some c) :
    text.head? = some c := by
  obtain ⟨rest, hrest⟩ := List.head?_eq_some_iff.mp h
  obtain ⟨back, rfl⟩ := @eq_append_of_ofText text [c] rest (by simpa using hc) hrest
  rfl

theorem wordsIn_ofText (text : List Char) : wordsIn (ofText text) = (wordsIn text).map ofText := by
  induction hlength : text.length using Nat.strong_induction_on generalizing text with
  | _ length ih =>
    by_cases hspace : ' ' ∈ text
    · obtain ⟨front, back, rfl⟩ := List.append_of_mem hspace
      rw [List.length_append, List.length_cons] at hlength
      rw [ofText_append, ofText_cons_of_ascii (by decide), wordsIn_append, wordsIn_append,
        ih _ (by omega) front rfl, ih _ (by omega) back rfl, List.map_append]
    · by_cases hnil : text = []
      · subst hnil
        rfl
      · have hbytes : IsOneWord (ofText text) :=
          ⟨mt ofText_eq_nil_iff.mp hnil, mt (mem_ofText_iff (by decide)).mp hspace⟩
        rw [wordsIn_eq_singleton_iff.mpr hbytes, wordsIn_eq_singleton_iff.mpr ⟨hnil, hspace⟩,
          List.map_singleton]

end

end Octets

end TestCursor
