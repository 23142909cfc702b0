/-!
# Decimal numbers with fixed places

A binary number is written with a given number of decimal places. The exact value is rounded to
the nearest such decimal, and a value halfway between two goes to the one with an even last
digit.
-/

namespace PageMarkup

/-- The number `mantissa * 2 ^ exponent`. -/
structure Binary where
  /-- The digits. -/
  mantissa : Nat
  /-- The power of two they are multiplied by. -/
  exponent : Int
deriving DecidableEq, Repr

/-- The exact absolute value of a finite number in double precision, from its bits. -/
def Binary.ofBits (bits : UInt64) : Binary :=
  let fraction : Nat := bits.toNat % Nat.pow 2 52
  let biased : Nat := bits.toNat / Nat.pow 2 52 % Nat.pow 2 11
  if biased = 0 then ⟨fraction, -1074⟩ else ⟨Nat.pow 2 52 + fraction, Int.ofNat biased - 1075⟩

namespace Decimal

/-- The quotient rounded to the nearest natural number, halves to the even one. -/
def roundDiv (number divisor : Nat) : Nat :=
  let quotient := number / divisor
  let twice := 2 * (number % divisor)
  if twice < divisor then quotient
  else if divisor < twice then quotient + 1
  else quotient + quotient % 2

/-- The nearest number of units of the last of the given decimal places. -/
def units (places : Nat) (value : Binary) : Nat :=
  if 0 ≤ value.exponent then value.mantissa * Nat.pow 2 value.exponent.toNat * Nat.pow 10 places
  else roundDiv (value.mantissa * Nat.pow 10 places) (Nat.pow 2 (-value.exponent).toNat)

/-- The digits of a number, with zeros before them up to a width. -/
def padded (width number : Nat) : String :=
  let digits := Nat.toDigits 10 number
  String.ofList (List.replicate (width - digits.length) '0' ++ digits)

/-- A number in writing, with the given number of decimal places. -/
def fixed (places : Nat) (value : Binary) : String :=
  let total := units places value
  toString (total / Nat.pow 10 places) ++ "." ++ padded places (total % Nat.pow 10 places)

end Decimal

end PageMarkup
