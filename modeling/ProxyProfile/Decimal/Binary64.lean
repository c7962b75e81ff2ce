/-
This file holds binary floating point numbers as their sixty-four bits.

Keeping the bits rather than a machine number makes equality of documents
decidable and lets the shortest decimal be computed in exact arithmetic. The
value of a finite number is its significand times a power of two; the machine's
own arithmetic is used only where the result is defined by it, that is to round
a decimal to the nearest number and to scale by powers of ten.
-/

import ProxyProfile.Decimal.Width

namespace ProxyProfile.Decimal

/-- A binary floating point number, by its bits. -/
structure Binary64 where
  bits : UInt64
deriving DecidableEq, Inhabited

namespace Binary64

/-- The bits of a machine number. -/
def ofFloat (number : Float) : Binary64 :=
  ⟨number.toBits⟩

/-- The machine number of some bits. -/
def toFloat (number : Binary64) : Float :=
  Float.ofBits number.bits

/-- Whether the sign bit is set. -/
def isNegative (number : Binary64) : Bool :=
  number.bits.toNat / valuesOf 63 == 1

/-- The eleven bits of the exponent. -/
def exponentField (number : Binary64) : Nat :=
  number.bits.toNat / valuesOf 52 % valuesOf 11

/-- The fifty-two bits of the fraction. -/
def fractionField (number : Binary64) : Nat :=
  number.bits.toNat % valuesOf 52

/-- A number that is neither infinite nor undefined. -/
def isFinite (number : Binary64) : Bool :=
  number.exponentField != 2047

/-- The integer `m` for which the magnitude of a finite number is `m * 2 ^ q`. -/
def significand (number : Binary64) : Nat :=
  if number.exponentField = 0 then number.fractionField else number.fractionField + valuesOf 52

/-- The integer `q` for which the magnitude of a finite number is `m * 2 ^ q`. -/
def power (number : Binary64) : Int :=
  if number.exponentField = 0 then -1074 else (number.exponentField : Int) - 1075

/-- Whether the gap below a number is half the gap above it, which is so at the powers
of two. -/
def isNarrowBelow (number : Binary64) : Bool :=
  number.fractionField == 0 && 1 < number.exponentField

/-- The number nearest to `digits * 10 ^ exponent`, ties to even; infinite when that is
too large. Exponents that are far out of range are answered without computing the
power. -/
def ofDecimal (negative : Bool) (digits : Nat) (exponent : Int) : Binary64 :=
  let magnitude : Float :=
    if digits = 0 then 0.0
    else if exponent > 400 then 1.0 / 0.0
    else if exponent < -20000 then 0.0
    else Float.ofScientific digits (exponent < 0) exponent.natAbs
  ofFloat (if negative then -magnitude else magnitude)

end Binary64

end ProxyProfile.Decimal
