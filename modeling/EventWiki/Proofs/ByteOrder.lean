import Mathlib

namespace EventWiki.Text

/-! UTF-8 keeps the order of characters, so texts in the order of their characters are in that of
their bytes. -/

def bytes (text : String) : List UInt8 :=
  text.toUTF8.data.toList

theorem bytes_eq (text : String) : bytes text = text.toList.flatMap String.utf8EncodeChar := by
  rw [bytes, String.toUTF8_eq_toByteArray, ← String.utf8Encode_toList, List.utf8Encode,
    List.data_toByteArray, List.toList_toArray]

/-- A lesser character has a lesser byte where the bytes first differ, whatever follows. -/
theorem encode_append_lt {c d : Char} (less : c < d) (left right : List UInt8) :
    String.utf8EncodeChar c ++ left < String.utf8EncodeChar d ++ right := by
  have valid : d.val.toNat < 0x110000 := by
    have either := d.valid
    simp only [UInt32.isValidChar, Nat.isValidChar] at either
    omega
  have less : c.val.toNat < d.val.toNat := less
  -- The bytes hold the number in digits of six bits, after a mark that grows with their count.
  have third (number : Nat) : number / 4096 = number / 64 / 64 := by omega
  have fourth (number : Nat) : number / 262144 = number / 64 / 64 / 64 := by omega
  simp only [String.utf8EncodeChar, third, fourth]
  split_ifs <;>
    simp only [List.cons_append, List.nil_append, List.cons_lt_cons_iff,
      UInt8.lt_iff_toNat_lt, ← UInt8.toNat_inj, UInt8.toNat_ofNat'] <;> omega

theorem encoded_lt {left right : List Char} (less : left < right) :
    left.flatMap String.utf8EncodeChar < right.flatMap String.utf8EncodeChar := by
  induction less with
  | nil =>
      obtain ⟨byte, others, encoded⟩ := List.exists_cons_of_ne_nil String.utf8EncodeChar_ne_nil
      rw [List.flatMap_nil, List.flatMap_cons, encoded]
      exact List.nil_lt_cons ..
  | rel less => exact encode_append_lt less ..
  | cons _ ih =>
      rw [List.flatMap_cons, List.flatMap_cons]
      exact List.append_left_lt ih

theorem bytes_lt_bytes {left right : String} (less : left < right) : bytes left < bytes right := by
  rw [bytes_eq, bytes_eq]
  exact encoded_lt (String.lt_iff_toList_lt.mp less)

end EventWiki.Text
