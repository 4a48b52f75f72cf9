import Postulate.Text.Digits

/-!
# Thousands separators

A grouped integer part is one to three digits and then one or more groups of a comma and exactly
three digits, as in `12,345,678`. Any script will do for the digits: the commas only say how they
stand, and it is for the reader of what is left without them to refuse digits it does not know.
-/

namespace Postulate.Number

open Postulate.Text

/-- Only groups of a comma and three digits, possibly none. -/
def areGroups : List Char → Bool
  | [] => true
  | ',' :: a :: b :: c :: rest =>
    isDecimalNumber a && isDecimalNumber b && isDecimalNumber c && areGroups rest
  | _ => false

/-- One to three digits and at least one group after them. -/
def isGrouped (text : List Char) : Bool :=
  let leading := text.takeWhile isDecimalNumber
  let groups := text.dropWhile isDecimalNumber
  decide (1 ≤ leading.length ∧ leading.length ≤ 3) && !groups.isEmpty && areGroups groups

/-- The text without its commas. -/
def removeCommas (text : List Char) : List Char := text.filter (· != ',')

end Postulate.Number
