/-
This file writes natural numbers in decimal and reads them back.

Writing divides by ten until nothing is left; reading multiplies by ten and adds
the next digit. The main statement is that reading undoes writing, which is what
makes integers survive every text format of the library.
-/

namespace ProxyProfile.Decimal

/-! ### One digit -/

/-- The character of a digit. -/
def digitChar (digit : Nat) : Char :=
  Char.ofNat (48 + digit)

/-- The digit a character stands for. -/
def digitValue (c : Char) : Nat :=
  c.toNat - 48

/-- The characters `0` to `9`. -/
def isDigit (c : Char) : Bool :=
  48 ≤ c.toNat && c.toNat ≤ 57

theorem digitChar_toNat {digit : Nat} (small : digit < 10) :
    (digitChar digit).toNat = 48 + digit := by
  revert digit
  decide

theorem digitValue_digitChar {digit : Nat} (small : digit < 10) :
    digitValue (digitChar digit) = digit := by
  rw [digitValue, digitChar_toNat small]
  omega

theorem isDigit_digitChar {digit : Nat} (small : digit < 10) :
    isDigit (digitChar digit) = true := by
  rw [isDigit, digitChar_toNat small]
  simp
  omega

/-! ### Whole numbers -/

/-- The decimal digits of a number, the most significant first; zero has one digit. -/
def digits (number : Nat) : List Char :=
  if number < 10 then [digitChar number]
  else digits (number / 10) ++ [digitChar (number % 10)]

/-- Reads one more digit behind the number read so far. -/
def push (number : Nat) (c : Char) : Nat :=
  number * 10 + digitValue c

/-- The number some digits stand for. -/
def value (characters : List Char) : Nat :=
  characters.foldl push 0

theorem value_append (front back : List Char) :
    value (front ++ back) = back.foldl push (value front) := by
  rw [value, List.foldl_append, value]

/-- Reading what was written gives the number back. -/
theorem value_digits (number : Nat) : value (digits number) = number := by
  induction number using Nat.strongRecOn with
  | ind number inductionHypothesis =>
    rw [digits]
    split
    · rename_i small
      simp [value, push, digitValue_digitChar small]
    · rename_i large
      rw [value_append, inductionHypothesis (number / 10) (by omega)]
      simp only [List.foldl_cons, List.foldl_nil, push,
        digitValue_digitChar (Nat.mod_lt number (by omega : 10 > 0))]
      omega

theorem digits_ne_nil (number : Nat) : digits number ≠ [] := by
  rw [digits]
  split <;> simp

theorem all_isDigit_digits (number : Nat) : (digits number).all isDigit = true := by
  induction number using Nat.strongRecOn with
  | ind number inductionHypothesis =>
    rw [digits]
    split
    · rename_i small
      simp [isDigit_digitChar small]
    · rename_i large
      rw [List.all_append, inductionHypothesis (number / 10) (by omega)]
      simp [isDigit_digitChar (Nat.mod_lt number (by omega : 10 > 0))]

/-- The decimal text of a number. -/
def text (number : Nat) : String :=
  String.ofList (digits number)

/-- The decimal text of an integer, a minus sign in front of a negative one. -/
def signedDigits : Int → List Char
  | .ofNat number => digits number
  | .negSucc number => '-' :: digits (number + 1)

end ProxyProfile.Decimal
