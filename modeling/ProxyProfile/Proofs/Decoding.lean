/-
This file proves that bytes which are a text come back as the text.

The reader of bytes never refuses any, and replaces what is no UTF-8. That has no price: none
of the bytes that a text is written with are replaced. A character is written with one to four
bytes, and the range that the reader asks the second of them to lie in, which is there to keep
other spellings out, is just the range that the characters with the same first byte need.
-/

import ProxyProfile.Text.Utf8

namespace ProxyProfile.Text

/-! ### One byte -/

section Bytes

variable {byte owed least greatest number : Nat} {begun : Partial} {rest : List UInt8}

theorem toNat_ofNat_byte (small : byte < 256) : (UInt8.ofNat byte).toNat = byte := by
  rw [UInt8.toNat_ofNat']
  exact Nat.mod_eq_of_lt small

/-- Between characters a byte is a character by itself. -/
theorem decodeFrom_single (small : byte < 0x80) :
    decodeFrom none (UInt8.ofNat byte :: rest) = Char.ofNat byte :: decodeFrom none rest := by
  have single : firstByte byte = .inl (Char.ofNat byte) := by rw [firstByte, if_pos small]
  rw [decodeFrom, startCharacter, toNat_ofNat_byte (Nat.lt_trans small (by decide)), single]

/-- Or it begins one. -/
theorem decodeFrom_begin (small : byte < 256) (begins : firstByte byte = .inr (some begun)) :
    decodeFrom none (UInt8.ofNat byte :: rest) = decodeFrom (some begun) rest := by
  rw [decodeFrom, startCharacter, toNat_ofNat_byte small, begins]

/-- The byte that is waited for goes on with a character. -/
theorem decodeFrom_continue (lower : least ≤ number % 64 + 128)
    (upper : number % 64 + 128 ≤ greatest) {before : Nat} :
    decodeFrom (some ⟨owed + 2, least, greatest, before⟩)
        (UInt8.ofNat (number % 64 + 128) :: rest) =
      decodeFrom (some ⟨owed + 1, 0x80, 0xBF, before * 64 + number % 64⟩) rest := by
  rw [decodeFrom, toNat_ofNat_byte (by omega), if_pos ⟨lower, upper⟩]
  dsimp only
  rw [if_neg (by omega), Nat.add_sub_cancel]
  rfl

/-- The last one completes it. -/
theorem decodeFrom_finish (lower : least ≤ number % 64 + 128)
    (upper : number % 64 + 128 ≤ greatest) {before : Nat} :
    decodeFrom (some ⟨1, least, greatest, before⟩) (UInt8.ofNat (number % 64 + 128) :: rest) =
      Char.ofNat (before * 64 + number % 64) :: decodeFrom none rest := by
  rw [decodeFrom, toNat_ofNat_byte (by omega), if_pos ⟨lower, upper⟩]
  dsimp only
  rw [if_pos (Nat.le_refl 1), Nat.add_sub_cancel]

theorem firstByte_two (lower : 0xC2 ≤ byte) (upper : byte ≤ 0xDF) :
    firstByte byte = .inr (some ⟨1, 0x80, 0xBF, byte - 0xC0⟩) := by
  rw [firstByte, if_neg (by omega), if_pos ⟨lower, upper⟩]

/-- The first of three bytes leaves the second one its range. -/
theorem firstByte_three (lower : 0x800 ≤ number) (upper : number < 0x10000)
    (noHalf : number < 0xD800 ∨ 0xDFFF < number) :
    ∃ least greatest,
      firstByte (number / 4096 + 224) = .inr (some ⟨2, least, greatest, number / 4096⟩) ∧
        least ≤ number / 64 % 64 + 128 ∧ number / 64 % 64 + 128 ≤ greatest := by
  rw [firstByte, if_neg (by omega), if_neg (by omega)]
  split
  · exact ⟨_, _, by rw [show number / 4096 = 0 by omega], by omega, by omega⟩
  split
  · exact ⟨_, _, by rw [show number / 4096 = 0xD by omega], by omega, by omega⟩
  · rw [if_pos (by omega), Nat.add_sub_cancel]
    exact ⟨_, _, rfl, by omega, by omega⟩

/-- So does the first of four. -/
theorem firstByte_four (lower : 0x10000 ≤ number) (upper : number < 0x110000) :
    ∃ least greatest,
      firstByte (number / 262144 + 240) = .inr (some ⟨3, least, greatest, number / 262144⟩) ∧
        least ≤ number / 4096 % 64 + 128 ∧ number / 4096 % 64 + 128 ≤ greatest := by
  rw [firstByte, if_neg (by omega), if_neg (by omega), if_neg (by omega), if_neg (by omega),
    if_neg (by omega)]
  split
  · exact ⟨_, _, by rw [show number / 262144 = 0 by omega], by omega, by omega⟩
  split
  · rw [Nat.add_sub_cancel]
    exact ⟨_, _, rfl, by omega, by omega⟩
  · rw [if_pos (by omega)]
    exact ⟨_, _, by rw [show number / 262144 = 4 by omega], by omega, by omega⟩

end Bytes

/-! ### Characters and texts -/

/-- The bytes of a character are read as the character. -/
theorem decodeFrom_utf8EncodeChar (c : Char) (rest : List UInt8) :
    decodeFrom none (String.utf8EncodeChar c ++ rest) = c :: decodeFrom none rest := by
  have shown : Char.ofNat c.val.toNat = c := Char.ofNat_toNat c
  have valid : c.val.toNat < 0xD800 ∨ 0xDFFF < c.val.toNat ∧ c.val.toNat < 0x110000 := c.valid
  rw [String.utf8EncodeChar]
  generalize c.val.toNat = number at shown valid
  split
  · rename_i one
    exact shown ▸ decodeFrom_single (Nat.lt_succ_of_le one)
  split
  · have parts : (number / 64 + 192 - 0xC0) * 64 + number % 64 = number := by omega
    rw [Nat.mod_eq_of_lt (show number / 64 < 32 by omega), List.cons_append, List.cons_append,
      decodeFrom_begin (by omega) (firstByte_two (by omega) (by omega)),
      decodeFrom_finish (by omega) (by omega), parts, shown]
    rfl
  split
  · obtain ⟨least, greatest, begins, lower, upper⟩ :=
      firstByte_three (show 0x800 ≤ number by omega) (by omega) (by omega)
    have parts : (number / 4096 * 64 + number / 64 % 64) * 64 + number % 64 = number := by omega
    rw [Nat.mod_eq_of_lt (show number / 4096 < 16 by omega), List.cons_append, List.cons_append,
      List.cons_append, decodeFrom_begin (by omega) begins, decodeFrom_continue lower upper,
      decodeFrom_finish (by omega) (by omega), parts, shown]
    rfl
  · obtain ⟨least, greatest, begins, lower, upper⟩ :=
      firstByte_four (show 0x10000 ≤ number by omega) (by omega)
    have parts : ((number / 262144 * 64 + number / 4096 % 64) * 64 + number / 64 % 64) * 64 +
        number % 64 = number := by omega
    rw [Nat.mod_eq_of_lt (show number / 262144 < 8 by omega), List.cons_append, List.cons_append,
      List.cons_append, List.cons_append, decodeFrom_begin (by omega) begins,
      decodeFrom_continue lower upper, decodeFrom_continue (by omega) (by omega),
      decodeFrom_finish (by omega) (by omega), parts, shown]
    rfl

theorem decodeFrom_flatMap (characters : List Char) :
    decodeFrom none (characters.flatMap String.utf8EncodeChar) = characters := by
  induction characters with
  | nil => rfl
  | cons c characters inductionHypothesis =>
    rw [List.flatMap_cons, decodeFrom_utf8EncodeChar, inductionHypothesis]

/-- Reading out bytes one by one gives them all. -/
theorem toList_loop (bytes : ByteArray) (position : Nat) (read : List UInt8) :
    ByteArray.toList.loop bytes position read =
      read.reverse ++ bytes.data.toList.drop position := by
  fun_induction ByteArray.toList.loop bytes position read with
  | case1 position read inside inductionHypothesis =>
    rw [inductionHypothesis, List.reverse_cons, List.append_assoc]
    have bound : position < bytes.data.toList.length := inside
    have first : bytes.get! position = bytes.data.toList[position] := by
      rw [Array.getElem_toList]
      exact getElem!_pos bytes.data position inside
    rw [first, List.singleton_append, List.getElem_cons_drop]
  | case2 position read outside =>
    rw [List.drop_eq_nil_of_le (Nat.le_of_not_lt outside), List.append_nil]

/-- The bytes of a text are read as the text. -/
theorem decodeLossy_toUTF8 (text : String) : decodeLossy text.toUTF8 = text := by
  have bytes : text.toUTF8.toList = text.toList.flatMap String.utf8EncodeChar := by
    rw [ByteArray.toList, toList_loop, List.drop_zero, String.toUTF8_eq_toByteArray,
      ← String.utf8Encode_toList, List.utf8Encode, List.data_toByteArray]
    rfl
  rw [decodeLossy, bytes, decodeFrom_flatMap, String.ofList_toList]

end ProxyProfile.Text
