/-
This file reads decimal numerals that may carry a fraction and an exponent.

A numeral is an optional sign, digits with at most one point among them and at
least one digit, and an optional exponent. It stands for the number nearest to
its exact value; a value that is too large reads as infinity, which callers
refuse or keep as they need. Exponents are read by their digits, so that a long
one never costs more than its own length.
-/

import ProxyProfile.Decimal.Binary64
import ProxyProfile.Decimal.Digits

namespace ProxyProfile.Decimal

/-- The digits at the start of a list, and the rest. -/
def spanDigits (characters : List Char) : List Char × List Char :=
  (characters.takeWhile isDigit, characters.dropWhile isDigit)

/-- An optional sign at the start of a list: whether it is a minus, and the rest. -/
def spanSign : List Char → Bool × List Char
  | '-' :: rest => (true, rest)
  | '+' :: rest => (false, rest)
  | rest => (false, rest)

/-- A numeral taken apart. -/
structure Numeral where
  negative : Bool
  whole : List Char
  fraction : List Char
  exponent : Int

/-- The exponent behind the digits, if the rest of a numeral has one; nothing else may
follow. -/
def exponentOf? : List Char → Option Int
  | [] => some 0
  | c :: rest =>
    if c = 'e' ∨ c = 'E' then
      let (negative, tail) := spanSign rest
      let (shown, left) := spanDigits tail
      if shown.isEmpty || !left.isEmpty then none
      else some (if negative then -(value shown : Int) else value shown)
    else none

/-- Takes a numeral apart. -/
def Numeral.ofChars? (characters : List Char) : Option Numeral := do
  let (negative, unsigned) := spanSign characters
  let (whole, tail) := spanDigits unsigned
  let (fraction, rest) :=
    match tail with
    | '.' :: after => spanDigits after
    | _ => ([], tail)
  if whole.isEmpty && fraction.isEmpty then none
  return ⟨negative, whole, fraction, ← exponentOf? rest⟩

/-- The number nearest to a numeral. -/
def Numeral.toBinary64 (numeral : Numeral) : Binary64 :=
  Binary64.ofDecimal numeral.negative (value (numeral.whole ++ numeral.fraction))
    (numeral.exponent - numeral.fraction.length)

/-- The number nearest to a numeral, if it is one and not too large. -/
def finite? (characters : List Char) : Option Binary64 := do
  let number := (← Numeral.ofChars? characters).toBinary64
  if number.isFinite then some number else none

end ProxyProfile.Decimal
