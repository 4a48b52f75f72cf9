import Postulate.Text.Lookahead
import Postulate.Number.Grouped

/-!
# Fixed-point decimals

A decimal is `± mantissa / 10 ^ scale` with a mantissa below `2 ^ 96` and a scale of at most 28.
The scale is part of the value: `1.50` and `1.5` are equal numbers with different scales.

A written decimal has an optional sign before or after the digits, an integer part that may carry
thousands separators, and an optional fraction; never an exponent. Digits beyond what mantissa
and scale can hold are rounded away, half away from zero.

Reading has two stages. The first takes the text apart and looks for decimal digits of any script.
The second is that of the decimal library (as of version 1.43): it works out the number from the
digits of the parts, and it knows those of ASCII only. It goes through a part to the end. Once the
rounding is decided digits count no longer, but they are still looked at, so that a digit of another
script is refused even there. Among the texts that the library was observed to refuse are
`0.12345678901234567890123456781٣`, where the `1` before the last digit has been rounded away,
`0.123456789012345678901234567850000000000๐` and `79228162514264337593543950335.4٣`; a reader that
stops at the digit that rounds would accept all three.
-/

namespace Postulate.Number

open Postulate.Text

/-- A fixed-point decimal number. -/
structure Decimal where
  negative : Bool
  mantissa : Nat
  scale : Nat
deriving Repr, DecidableEq, Inhabited

namespace Decimal

/-- Mantissas stay below this bound. -/
def mantissaBound : Nat := Nat.pow 2 96

/-- The greatest number of fraction digits. -/
def maxScale : Nat := 28

/-- The mantissa with its sign. -/
def signedMantissa (d : Decimal) : Int := if d.negative then -(d.mantissa : Int) else d.mantissa

/-- Compares by number: the mantissas brought to a common scale. -/
def compare (a b : Decimal) : Ordering :=
  Ord.compare (a.signedMantissa * Nat.pow 10 b.scale) (b.signedMantissa * Nat.pow 10 a.scale)

/-- The plain form, with all digits of the fraction that the scale counts. -/
def text (d : Decimal) : String :=
  let digits := Nat.toDigits 10 d.mantissa
  let padded := List.replicate (d.scale + 1 - digits.length) '0' ++ digits
  let integral := padded.take (padded.length - d.scale)
  let fraction := padded.drop (padded.length - d.scale)
  String.ofList ((if d.negative then ['-'] else []) ++ integral ++
    (if fraction.isEmpty then [] else '.' :: fraction))

/-! ## Reading -/

/-- Rounds by the digit after the last one kept. When the mantissa would reach its bound, one
more digit is rounded away; without a fraction digit to give up there is no result. -/
def roundBy (digit mantissa scale : Nat) : Option (Nat × Nat) :=
  if digit < 5 then some (mantissa, scale)
  else if mantissa + 1 < mantissaBound then some (mantissa + 1, scale)
  else if scale = 0 then none
  else some ((mantissa + 5) / 10, scale - 1)

/-- Takes in the digits in front of the point. All of them have to fit. -/
def readIntegral (digits : List Char) : Option Nat :=
  if digits.all Char.isDigit ∧ digitsValue digits < mantissaBound then some (digitsValue digits)
  else none

/-- Takes in the digits of the fraction, from the mantissa and scale reached so far. As soon as a
digit no longer fits, it decides the rounding. The digits after it do not count, but digits of ASCII
they have to be. -/
def readFraction (mantissa scale : Nat) : List Char → Option (Nat × Nat)
  | [] => some (mantissa, scale)
  | c :: rest =>
    let next := 10 * mantissa + digitValue c
    if !c.isDigit then none
    else if scale < maxScale ∧ next < mantissaBound then readFraction next (scale + 1) rest
    else if rest.all Char.isDigit then roundBy (digitValue c) mantissa scale
    else none

/-- The parts of a written decimal. -/
structure Written where
  /-- Is there a minus sign at either end? -/
  negative : Bool
  /-- The integer part without separators. -/
  integral : List Char
  fraction : List Char
deriving Repr, DecidableEq

/-- Splits a written decimal into its parts. At most one sign is allowed and at least one digit is
needed. The digits may be those of any script. -/
def Written.ofText? (text : List Char) : Option Written :=
  let isSign (c : Char) : Bool := c = '+' || c = '-'
  let leading := text.head?.filter isSign
  let body := if leading.isSome then text.drop 1 else text
  let trailing := body.getLast?.filter isSign
  let body := if trailing.isSome then body.dropLast else body
  let integral := body.takeWhile (· != '.')
  let fraction := (body.dropWhile (· != '.')).drop 1
  if leading.isSome && trailing.isSome then none
  else if integral.isEmpty && fraction.isEmpty then none
  else if !(integral.all isDecimalNumber || isGrouped integral) then none
  else if !fraction.all isDecimalNumber then none
  else some {
    negative := leading = some '-' || trailing = some '-'
    integral := removeCommas integral
    fraction }

/-- The decimal a text denotes. Zero has no sign. -/
def ofText? (text : List Char) : Option Decimal := do
  let written ← Written.ofText? text
  let integral ← readIntegral written.integral
  let (mantissa, scale) ← readFraction integral 0 written.fraction
  some ⟨written.negative && mantissa != 0, mantissa, scale⟩

end Decimal

end Postulate.Number
