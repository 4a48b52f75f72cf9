import Postulate.Text.Lookahead

/-!
# Integers in decimal notation

An integer is written as an optional sign and one or more ASCII digits, leading zeros allowed.
The value is computed without bound; whether it fits a word is asked afterwards.
-/

namespace Postulate.Number

open Postulate.Text

/-- The integer a text denotes: an optional sign, then only digits and at least one. -/
def readInteger (text : List Char) : Option Int :=
  let (negative, digits) := sign text
  if digits.isEmpty || !digits.all Char.isDigit then none
  else if negative then some (-(digitsValue digits : Int))
  else some (digitsValue digits)

/-- Does the integer fit a signed word of the given width? -/
def fitsWord (bits : Nat) (n : Int) : Bool :=
  let bound : Int := Nat.pow 2 (bits - 1)
  decide (-bound ≤ n ∧ n < bound)

/-- Reads an integer that fits 32 bits. -/
def readInt (text : List Char) : Option Int32 :=
  ((readInteger text).filter (fitsWord 32)).map Int32.ofInt

/-- Reads an integer that fits 64 bits. -/
def readLong (text : List Char) : Option Int64 :=
  ((readInteger text).filter (fitsWord 64)).map Int64.ofInt

end Postulate.Number
