/-
This file finds the shortest decimal that stands for a binary number, and lays
decimals out as text.

The reals that round to a finite number `m * 2 ^ q` form an interval; its ends
belong to it when `m` is even. For one digit, two digits and so on, the two
points of the decimal grid next to the number are tested against the interval
in exact arithmetic, and the first grid with a hit wins; of two hits the nearer
one is taken. No shorter decimal can stand for the number, because if any point
of a grid lies in the interval then so does one of the two neighbours. Seventeen
digits always suffice.
-/

import ProxyProfile.Decimal.Binary64
import ProxyProfile.Decimal.Digits

namespace ProxyProfile.Decimal

/-- The decimal `digits * 10 ^ exponent`. -/
structure Scaled where
  digits : Nat
  exponent : Int
deriving DecidableEq

/-! ### Comparing decimals with binary fractions -/

/-- What a multiple of `10 ^ decimalPower` is multiplied by to compare it with a multiple
of `2 ^ binaryPower`. -/
def decimalScale (decimalPower binaryPower : Int) : Nat :=
  Nat.pow 10 decimalPower.toNat * valuesOf (-binaryPower).toNat

/-- What a multiple of `2 ^ binaryPower` is multiplied by to compare it with a multiple of
`10 ^ decimalPower`. -/
def binaryScale (decimalPower binaryPower : Int) : Nat :=
  valuesOf binaryPower.toNat * Nat.pow 10 (-decimalPower).toNat

/-- The place of the first digit of the positive number `numerator / denominator`, when it
is less than one: `place` tells how many tenths have been tried. -/
def firstPlaceBelow (denominator : Nat) : Nat → Nat → Nat → Int
  | 0, _, place => -(place : Int)
  | fuel + 1, numerator, place =>
    if denominator ≤ numerator then -(place : Int)
    else firstPlaceBelow denominator fuel (numerator * 10) (place + 1)

/-- The place of the first digit of a positive number: `10 ^ place` is the greatest power
of ten that does not exceed it. -/
def firstPlace (significand : Nat) (power : Int) : Int :=
  let numerator := significand * valuesOf power.toNat
  let denominator := valuesOf (-power).toNat
  if denominator ≤ numerator then ((digits (numerator / denominator)).length : Int) - 1
  else firstPlaceBelow denominator 400 numerator 0

/-! ### The search -/

/-- Four times the significand and the ends of the interval that rounds to it. -/
structure Target where
  middle : Nat
  least : Nat
  greatest : Nat
  closed : Bool
  power : Int

/-- The interval of a finite number. -/
def Target.ofBinary64 (number : Binary64) : Target :=
  let middle := 4 * number.significand
  { middle
    least := if number.isNarrowBelow then middle - 1 else middle - 2
    greatest := middle + 2
    closed := number.significand % 2 == 0
    power := number.power - 2 }

/-- Whether `candidate * 10 ^ exponent` rounds to the number. -/
def Target.admits (target : Target) (candidate : Scaled) : Bool :=
  let point := candidate.digits * decimalScale candidate.exponent target.power
  let scale := binaryScale candidate.exponent target.power
  if target.closed then target.least * scale ≤ point && point ≤ target.greatest * scale
  else target.least * scale < point && point < target.greatest * scale

/-- The neighbours of the number on the grid of the multiples of `10 ^ exponent` that round
to it; the nearer one if both do. -/
def Target.onGrid? (target : Target) (exponent : Int) : Option Scaled :=
  let unit := decimalScale exponent target.power
  let exact := target.middle * binaryScale exponent target.power
  let below : Scaled := ⟨exact / unit, exponent⟩
  let above : Scaled := ⟨exact / unit + 1, exponent⟩
  let isBelowNearer := 2 * (exact % unit) < unit ||
    (2 * (exact % unit) == unit && below.digits % 2 == 0)
  match target.admits below, target.admits above with
  | true, true => some (if isBelowNearer then below else above)
  | true, false => some below
  | false, true => some above
  | false, false => none

/-- Tries grids from `exponent` downwards, that is with more and more digits. -/
def Target.search (target : Target) : Nat → Int → Scaled
  | 0, exponent => ⟨target.middle * binaryScale exponent target.power /
      decimalScale exponent target.power, exponent⟩
  | fuel + 1, exponent =>
    match target.onGrid? exponent with
    | some found => found
    | none => target.search fuel (exponent - 1)

/-- The shortest decimal that rounds to a finite, non-zero number. -/
def shortest (number : Binary64) : Scaled :=
  let target := Target.ofBinary64 number
  target.search 17 (firstPlace number.significand number.power)

/-! ### Layout -/

/-- Drops the zeros at the end of some digits and counts them. -/
def dropZeros (characters : List Char) : List Char × Nat :=
  let kept := (characters.reverse.dropWhile (· == '0')).reverse
  (kept, characters.length - kept.length)

/-- How decimals are laid out: a place of the first digit from `least` up to but not
including `bound` is written positionally, and `plus` tells whether a positive exponent
has a sign. -/
structure Layout where
  least : Int
  bound : Int
  plus : Bool

/-- The exponent of a decimal in scientific form. -/
def Layout.exponentChars (layout : Layout) (exponent : Int) : List Char :=
  let sign := if exponent < 0 then ['-'] else if layout.plus then ['+'] else []
  'e' :: sign ++ digits exponent.natAbs

/-- The text of a positive decimal. -/
def Layout.scaledChars (layout : Layout) (decimal : Scaled) : List Char :=
  let (kept, zeros) := dropZeros (digits decimal.digits)
  let exponent := decimal.exponent + zeros
  let place := (kept.length : Int) + exponent - 1
  if place < layout.least || layout.bound ≤ place then
    match kept with
    | [] => []
    | [digit] => digit :: layout.exponentChars place
    | digit :: rest => digit :: '.' :: rest ++ layout.exponentChars place
  else if 0 ≤ exponent then kept ++ List.replicate exponent.toNat '0' ++ ['.', '0']
  else if 0 ≤ place then
    kept.take (place.toNat + 1) ++ '.' :: kept.drop (place.toNat + 1)
  else '0' :: '.' :: List.replicate (-place - 1).toNat '0' ++ kept

/-- The text of a finite number in its shortest form. -/
def Layout.chars (layout : Layout) (number : Binary64) : List Char :=
  let sign := if number.isNegative then ['-'] else []
  if number.significand = 0 then sign ++ ['0', '.', '0']
  else sign ++ layout.scaledChars (shortest number)

end ProxyProfile.Decimal
