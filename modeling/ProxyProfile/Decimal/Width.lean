/-
This file says which integers fit into a number of bits.

Numbers have no width inside the library. Where a format or a record gives them
one, it is checked when the number is read.
-/

namespace ProxyProfile.Decimal

/-- How many values so many bits have. -/
def valuesOf (bits : Nat) : Nat :=
  Nat.pow 2 bits

/-- Whether a number fits into so many bits. -/
def fits (bits number : Nat) : Bool :=
  number < valuesOf bits

/-- Whether a number fits into so many bits below its sign. -/
def fitsSigned (bits : Nat) (number : Int) : Bool :=
  -(valuesOf bits : Int) ≤ number && number < valuesOf bits

/-- Whether a number fits into so many bits, one of which may tell its sign. -/
def fitsEither (bits : Nat) (number : Int) : Bool :=
  -(valuesOf (bits - 1) : Int) ≤ number && number < valuesOf bits

end ProxyProfile.Decimal
