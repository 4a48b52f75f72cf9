/-!
# Rounding to a binary floating-point format

A finite non-negative number of a binary format is `significand * 2 ^ exponent`. Rounding takes
the exact quotient of two natural numbers to the nearest number of the format, a tie to the even
significand, and gives its encoding; what lies beyond the largest finite number becomes infinity.

In the encoding the exponent field stands above the significand field, so the encoding of
`significand * 2 ^ (least + k)` is `k * 2 ^ (precision - 1) + significand`, both for subnormal
significands (where `k = 0`) and for normal ones, whose leading bit adds one to the exponent
field. A significand that rounds up to the next power of two is carried the same way.
-/

namespace Postulate.Number

/-- A binary interchange format. -/
structure BinaryFormat where
  /-- Bits of a normal significand, its leading bit included. -/
  precision : Nat
  /-- Exponent of the least subnormal number. -/
  leastExponent : Int
  /-- Width of the whole encoding in bits. -/
  width : Nat
deriving Repr, DecidableEq

namespace BinaryFormat

/-- The 32-bit format. -/
def single : BinaryFormat := ⟨24, -149, 32⟩

/-- The 64-bit format. -/
def double : BinaryFormat := ⟨53, -1074, 64⟩

/-- The weight of the sign bit in an encoding. -/
def signBit (format : BinaryFormat) : Nat := Nat.pow 2 (format.width - 1)

/-- The encoding of positive infinity: the exponent field is all ones, the rest zero. -/
def infinity (format : BinaryFormat) : Nat :=
  Nat.pow 2 (format.width - 1) - Nat.pow 2 (format.precision - 1)

/-- The encoding of a quiet not-a-number. -/
def notANumber (format : BinaryFormat) : Nat :=
  format.infinity + Nat.pow 2 (format.precision - 2)

end BinaryFormat

/-- The quotient rounded to the nearest integer, a tie to the even one. -/
def divideToEven (numerator denominator : Nat) : Nat :=
  let quotient := numerator / denominator
  let remainder := numerator % denominator
  if 2 * remainder < denominator then quotient
  else if denominator < 2 * remainder then quotient + 1
  else quotient + quotient % 2

/-- The greatest `e` with `2 ^ e ≤ numerator / denominator`, for positive arguments. -/
def binaryExponent (numerator denominator : Nat) : Int :=
  let guess : Int := (numerator.log2 : Int) - denominator.log2
  let reached :=
    if 0 ≤ guess then denominator * Nat.pow 2 guess.toNat ≤ numerator
    else denominator ≤ numerator * Nat.pow 2 (-guess).toNat
  if reached then guess else guess - 1

/-- The encoding of the number of the format nearest to a quotient of positive numbers. -/
def BinaryFormat.round (format : BinaryFormat) (numerator denominator : Nat) : Nat :=
  let exponent :=
    max format.leastExponent (binaryExponent numerator denominator - (format.precision - 1))
  let significand :=
    if 0 ≤ exponent then divideToEven numerator (denominator * Nat.pow 2 exponent.toNat)
    else divideToEven (numerator * Nat.pow 2 (-exponent).toNat) denominator
  let encoding :=
    (exponent - format.leastExponent).toNat * Nat.pow 2 (format.precision - 1) + significand
  min encoding format.infinity

end Postulate.Number
