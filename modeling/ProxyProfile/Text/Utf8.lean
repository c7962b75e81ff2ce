/-
This file reads bytes as UTF-8 text without ever refusing them.

The reader is a machine that takes one byte at a time. Between characters it
waits for a first byte; inside a character it knows how many continuation bytes
are still owed and the range the next one must lie in, which is narrower than
the general one after the four first bytes that could otherwise spell an
overlong form, a surrogate or a number past the last code point. A byte that
does not fit ends the character: the bytes read of it become one replacement
character, and the byte is tried again as a first byte. So each maximal broken
piece is replaced once, and well-formed text comes through unchanged.
-/

namespace ProxyProfile.Text

/-- The character that stands for bytes that are no UTF-8. -/
def replacement : Char := '\uFFFD'

/-- Where the reader stands inside a character: how many bytes are owed, the range
of the next one, and the number read so far. -/
structure Partial where
  owed : Nat
  least : Nat
  greatest : Nat
  number : Nat

/-- What a byte at the start of a character means: a whole character, the start of a
longer one, or nothing. -/
def firstByte (byte : Nat) : Sum Char (Option Partial) :=
  if byte < 0x80 then .inl (Char.ofNat byte)
  else if 0xC2 ≤ byte ∧ byte ≤ 0xDF then .inr (some ⟨1, 0x80, 0xBF, byte - 0xC0⟩)
  else if byte = 0xE0 then .inr (some ⟨2, 0xA0, 0xBF, 0⟩)
  else if byte = 0xED then .inr (some ⟨2, 0x80, 0x9F, 0xD⟩)
  else if 0xE1 ≤ byte ∧ byte ≤ 0xEF then .inr (some ⟨2, 0x80, 0xBF, byte - 0xE0⟩)
  else if byte = 0xF0 then .inr (some ⟨3, 0x90, 0xBF, 0⟩)
  else if 0xF1 ≤ byte ∧ byte ≤ 0xF3 then .inr (some ⟨3, 0x80, 0xBF, byte - 0xF0⟩)
  else if byte = 0xF4 then .inr (some ⟨3, 0x80, 0x8F, 4⟩)
  else .inr none

/-- Starts a character, putting what is complete in front of what `follow` gives. -/
def startCharacter (byte : Nat) (follow : Option Partial → List Char) : List Char :=
  match firstByte byte with
  | .inl c => c :: follow none
  | .inr (some begun) => follow (some begun)
  | .inr none => replacement :: follow none

/-- The text of some bytes, broken pieces replaced, from inside or between characters. -/
def decodeFrom : Option Partial → List UInt8 → List Char
  | none, [] => []
  | some _, [] => [replacement]
  | none, byte :: rest => startCharacter byte.toNat fun begun => decodeFrom begun rest
  | some begun, byte :: rest =>
    if begun.least ≤ byte.toNat ∧ byte.toNat ≤ begun.greatest then
      let number := begun.number * 64 + (byte.toNat - 0x80)
      if begun.owed ≤ 1 then Char.ofNat number :: decodeFrom none rest
      else decodeFrom (some ⟨begun.owed - 1, 0x80, 0xBF, number⟩) rest
    else replacement :: startCharacter byte.toNat fun next => decodeFrom next rest

/-- The text of some bytes, each maximal broken piece replaced by one character. -/
def decodeLossy (bytes : ByteArray) : String :=
  String.ofList (decodeFrom none bytes.toList)

end ProxyProfile.Text
