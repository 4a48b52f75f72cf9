import Postulate.Text.Digits
import Postulate.Text.Pieces
import Postulate.Text.WordCharacters

/-!
# Email addresses

An address is a local part and a domain on the two sides of its last `@`. The local part is
quoted, or starts and ends with an alphanumeric character and has no two dots in a row. The
domain is four numbers in brackets, or at least two labels separated by dots. Nothing is trimmed.
-/

namespace Postulate.Email

open Postulate.Text

/-- Digits and the Latin letters in either case. Two characters outside ASCII are letters of it in
another case: the long s and the Kelvin sign. -/
def isAlphanumeric (c : Char) : Bool := c.isAlphanum || c = '\u017f' || c = '\u212a'

/-- A character that an unquoted local part may hold between its ends. -/
def isLocalCharacter (c : Char) : Bool :=
  isWordCharacter c || ".-!#$%&\x27*+/=?^\x60\x7b|\x7d~".toList.contains c

/-- A character of a domain label after its first. -/
def isLabelCharacter (c : Char) : Bool := isWordCharacter c || c = '-'

/-- Two dots in a row. -/
def hasDoubleDot : List Char → Bool
  | '.' :: '.' :: _ => true
  | _ :: rest => hasDoubleDot rest
  | [] => false

/-- A quote, a text that is not empty and holds no quote, and a quote. -/
def isQuotedLocal (text : List Char) : Bool :=
  match text with
  | '"' :: rest =>
    rest.getLast? = some '"' && decide (1 < rest.length) && !rest.dropLast.contains '"'
  | _ => false

/-- An unquoted local part. -/
def isPlainLocal (text : List Char) : Bool :=
  text.head?.any isAlphanumeric && text.getLast?.any isAlphanumeric &&
    text.all isLocalCharacter && !hasDoubleDot text

/-- A run of one to three decimal digits. -/
def isAddressNumber (text : List Char) : Bool :=
  decide (1 ≤ text.length ∧ text.length ≤ 3) && text.all isDecimalNumber

/-- Four numbers separated by dots, in brackets. -/
def isBracketedAddress (text : List Char) : Bool :=
  match text with
  | '[' :: rest =>
    let numbers := pieces '.' rest.dropLast
    rest.getLast? = some ']' && numbers.length == 4 && numbers.all isAddressNumber
  | _ => false

/-- The last label of a domain. -/
def isTopLabel (text : List Char) : Bool :=
  decide (2 ≤ text.length ∧ text.length ≤ 17) && text.all isAlphanumeric

/-- A label before the last. -/
def isLabel (text : List Char) : Bool :=
  match text with
  | [] => false
  | c :: rest => isAlphanumeric c && rest.all isLabelCharacter

/-- At least two labels separated by dots. -/
def isDomainName (text : List Char) : Bool :=
  let labels := pieces '.' text
  decide (2 ≤ labels.length) && labels.getLast?.any isTopLabel && labels.dropLast.all isLabel

/-- Is the text an email address? -/
def isAddress (text : List Char) : Bool :=
  match cutAtLast '@' text with
  | none => false
  | some (localPart, domain) =>
    (isQuotedLocal localPart || isPlainLocal localPart) &&
      (isBracketedAddress domain || isDomainName domain)

end Postulate.Email
