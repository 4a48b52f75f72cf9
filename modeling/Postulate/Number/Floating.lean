import Postulate.Text.Lookahead
import Postulate.Number.Binary
import Postulate.Number.Grouped

/-!
# Floating-point literals

A literal is an optional sign and then `inf`, `infinity` or `nan` in any case, or a decimal
numeral: digits with an optional point among or around them, at least one digit in all, and an
optional exponent. Its value is the number of the format nearest to the exact decimal value.

`readDouble` also admits thousands separators in the integer part. They are taken out of digits of
any script, and what is left is then read as a literal, which has digits of ASCII only.
-/

namespace Postulate.Number

open Postulate.Text

/-- What a literal denotes before it is rounded, its sign apart. -/
inductive Magnitude where
  | infinity
  | notANumber
  /-- `significand * 10 ^ exponent`. -/
  | finite (significand : Nat) (exponent : Int)
deriving Repr, DecidableEq

/-- One more digit of a written exponent. From `0x10000` on further digits are read over: such
an exponent is far beyond every format. -/
def exponentDigit (exponent : Nat) (c : Char) : Nat :=
  if exponent < 0x10000 then 10 * exponent + digitValue c else exponent

/-- The exponent part of a numeral: nothing, or `e`, an optional sign and digits to the end. -/
def readExponent : List Char → Option Int
  | [] => some 0
  | c :: rest =>
    let (negative, digits) := sign rest
    if (c = 'e' ∨ c = 'E') ∧ !digits.isEmpty ∧ digits.all Char.isDigit then
      let exponent := digits.foldl exponentDigit 0
      some (if negative then -(exponent : Int) else exponent)
    else none

/-- The digits after a point, if the text starts with one, and the text after them. -/
def fractionDigits : List Char → List Char × List Char
  | '.' :: rest => (rest.takeWhile Char.isDigit, rest.dropWhile Char.isDigit)
  | text => ([], text)

/-- Reads an unsigned decimal numeral. -/
def readNumeral (text : List Char) : Option Magnitude :=
  let integral := text.takeWhile Char.isDigit
  let (fraction, rest) := fractionDigits (text.dropWhile Char.isDigit)
  if integral.isEmpty && fraction.isEmpty then none
  else (readExponent rest).map fun exponent =>
    .finite (digitsValue (integral ++ fraction)) (exponent - fraction.length)

/-- The named literals, in lower case. -/
def readNamed (text : List Char) : Option Magnitude :=
  let name := text.map Char.toLower
  if name = "inf".toList ∨ name = "infinity".toList then some .infinity
  else if name = "nan".toList then some .notANumber
  else none

/-- Reads a literal: is it negative, and what is its magnitude? -/
def readFloating (text : List Char) : Option (Bool × Magnitude) :=
  let (negative, rest) := sign text
  ((readNumeral rest).or (readNamed rest)).map fun magnitude => (negative, magnitude)

/-- The encoding nearest to `significand * 10 ^ exponent`. A number with `d` digits lies below
`10 ^ (d + exponent)` and not below a tenth of that, which settles the values far outside the
format without computing the power. -/
def BinaryFormat.ofDecimal (format : BinaryFormat) (significand : Nat) (exponent : Int) : Nat :=
  if significand = 0 then 0
  else
    let magnitude := (Nat.toDigits 10 significand).length + exponent
    if magnitude > 400 then format.infinity
    else if magnitude < -400 then 0
    else if 0 ≤ exponent then format.round (significand * Nat.pow 10 exponent.toNat) 1
    else format.round significand (Nat.pow 10 (-exponent).toNat)

/-- The encoding of a magnitude with a sign. -/
def BinaryFormat.encode (format : BinaryFormat) (negative : Bool) (magnitude : Magnitude) : Nat :=
  let unsigned :=
    match magnitude with
    | .infinity => format.infinity
    | .notANumber => format.notANumber
    | .finite significand exponent => format.ofDecimal significand exponent
  if negative then format.signBit + unsigned else unsigned

/-- Reads a literal as the nearest number of a format, encoded. -/
def BinaryFormat.read (format : BinaryFormat) (text : List Char) : Option Nat :=
  (readFloating text).map fun (negative, magnitude) => format.encode negative magnitude

/-- A literal with its thousands separators removed. A text without a comma stands for itself.
Otherwise the sign is followed by a grouped integer part, and after it comes nothing, or a tail
that starts with a point or an exponent mark. -/
def ungroup (text : List Char) : Option (List Char) :=
  if text.contains ',' then
    let signs := if (text.head?.any fun c => c = '+' ∨ c = '-') then text.take 1 else []
    let body := text.drop signs.length
    let integral := body.takeWhile fun c => isDecimalNumber c || c = ','
    let tail := body.dropWhile fun c => isDecimalNumber c || c = ','
    let startsTail := tail.head?.all fun c => c = '.' ∨ c = 'e' ∨ c = 'E'
    if isGrouped integral && startsTail then some (signs ++ removeCommas integral ++ tail) else none
  else some text

/-- Reads a literal as a 32-bit number. -/
def readFloat (text : List Char) : Option Float32 :=
  (BinaryFormat.single.read text).map fun bits => Float32.ofBits (UInt32.ofNat bits)

/-- Reads a literal, thousands separators allowed, as a 64-bit number. -/
def readDouble (text : List Char) : Option Float :=
  ((ungroup text).bind BinaryFormat.double.read).map fun bits => Float.ofBits (UInt64.ofNat bits)

end Postulate.Number
