/-!
# JSON tokens

The tokens of JSON are the punctuation marks, strings, numbers and the three names. The scan reads
the text once, from front to back; its state says where it stands. Numbers and names end where a
character follows that cannot belong to them.
-/

namespace Postulate.Json

/-- A character of a string: one that stands for itself, or a UTF-16 code unit given by `\u`. -/
inductive StringUnit where
  | char (c : Char)
  | code (unit : Nat)
deriving Repr, DecidableEq

/-- A token. -/
inductive Token where
  | openBrace
  | closeBrace
  | openBracket
  | closeBracket
  | colon
  | comma
  | string (units : List StringUnit)
  | number (written : List Char)
  | true
  | false
  | null
deriving Repr, DecidableEq

namespace Token

/-- Where a scan stands. Parts of a token that were read are kept, the latest first. -/
inductive Place where
  | between
  | inString (units : List StringUnit)
  /-- After a backslash. -/
  | inEscape (units : List StringUnit)
  /-- In the digits after `\u`, with the value so far and the count of digits to come. -/
  | inCode (units : List StringUnit) (value missing : Nat)
  | inNumber (written : List Char)
  | inName (letters : List Char)
deriving Repr, DecidableEq

/-- White space between tokens. -/
def isBlank (c : Char) : Bool := c = ' ' || c = '\t' || c = '\n' || c = '\r'

/-- A character that numbers are made of. -/
def isNumberCharacter (c : Char) : Bool :=
  c.isDigit || c = '-' || c = '+' || c = '.' || c = 'e' || c = 'E'

/-- At least one digit, and then what is required of the rest. -/
def digitsThen (rest : List Char → Bool) (text : List Char) : Bool :=
  text.head?.any Char.isDigit && rest (text.dropWhile Char.isDigit)

/-- An optional exponent, to the end. -/
def isExponent : List Char → Bool
  | [] => Bool.true
  | c :: rest =>
    (c = 'e' || c = 'E') &&
      digitsThen List.isEmpty
        (if rest.head?.any fun s => s = '+' || s = '-' then rest.drop 1 else rest)

/-- An optional fraction, and then an optional exponent. -/
def isFraction : List Char → Bool
  | '.' :: rest => digitsThen isExponent rest
  | text => isExponent text

/-- A number: an optional minus sign, an integer part without leading zeros, and perhaps a
fraction and an exponent. -/
def isNumber (written : List Char) : Bool :=
  match (if written.head? = some '-' then written.drop 1 else written) with
  | '0' :: rest => isFraction rest
  | text => digitsThen isFraction text

/-- The token that a name stands for. -/
def ofName? (letters : List Char) : Option Token :=
  if letters = "true".toList then some .true
  else if letters = "false".toList then some .false
  else if letters = "null".toList then some .null
  else none

/-- The character that a short escape stands for. -/
def shortEscape? : Char → Option Char
  | '"' => some '"'
  | '\\' => some '\\'
  | '/' => some '/'
  | 'b' => some '\x08'
  | 'f' => some '\x0c'
  | 'n' => some '\n'
  | 'r' => some '\r'
  | 't' => some '\t'
  | _ => none

/-- The value of a hexadecimal digit. -/
def hexValue? (c : Char) : Option Nat :=
  if c.isDigit then some (c.toNat - '0'.toNat)
  else if 'a' ≤ c ∧ c ≤ 'f' then some (c.toNat - 'a'.toNat + 10)
  else if 'A' ≤ c ∧ c ≤ 'F' then some (c.toNat - 'A'.toNat + 10)
  else none

/-- A character between tokens: the place after it and the token it is, if it is one. -/
def start (c : Char) : Option (Place × List Token) :=
  match c with
  | '\x7b' => some (.between, [.openBrace])
  | '\x7d' => some (.between, [.closeBrace])
  | '[' => some (.between, [.openBracket])
  | ']' => some (.between, [.closeBracket])
  | ':' => some (.between, [.colon])
  | ',' => some (.between, [.comma])
  | '"' => some (.inString [], [])
  | c =>
    if isBlank c then some (.between, [])
    else if c.isDigit || c = '-' then some (.inNumber [c], [])
    else if c.isLower then some (.inName [c], [])
    else none

/-- The token that ends where a place is left, if there is one. -/
def finish? : Place → Option (List Token)
  | .between => some []
  | .inNumber written =>
    if isNumber written.reverse then some [.number written.reverse] else none
  | .inName letters => (ofName? letters.reverse).map ([·])
  | .inString _ | .inEscape _ | .inCode .. => none

/-- A character: the place after it and the tokens that end with it or before it. -/
def step (place : Place) (c : Char) : Option (Place × List Token) :=
  match place with
  | .between => start c
  | .inString units =>
    if c = '"' then some (.between, [.string units.reverse])
    else if c = '\\' then some (.inEscape units, [])
    else if c.toNat < 0x20 then none
    else some (.inString (.char c :: units), [])
  | .inEscape units =>
    if c = 'u' then some (.inCode units 0 4, [])
    else (shortEscape? c).map fun d => (.inString (.char d :: units), [])
  | .inCode units value missing =>
    (hexValue? c).map fun digit =>
      let value := 16 * value + digit
      if missing ≤ 1 then (.inString (.code value :: units), [])
      else (.inCode units value (missing - 1), [])
  | .inNumber written =>
    if isNumberCharacter c then some (.inNumber (c :: written), [])
    else (finish? place).bind fun ended => (start c).map fun (next, tokens) => (next, ended ++ tokens)
  | .inName letters =>
    if c.isLower then some (.inName (c :: letters), [])
    else (finish? place).bind fun ended => (start c).map fun (next, tokens) => (next, ended ++ tokens)

/-- The tokens of a text, from a place in it. -/
def scan : Place → List Char → Option (List Token)
  | place, [] => finish? place
  | place, c :: rest =>
    (step place c).bind fun (next, tokens) => (scan next rest).map (tokens ++ ·)

/-- The tokens of a whole text. -/
def ofText? (text : List Char) : Option (List Token) := scan .between text

end Token

/-- Is the code unit the first half of a surrogate pair? -/
def isHighSurrogate (unit : Nat) : Bool := 0xD800 ≤ unit && unit < 0xDC00

/-- Is the code unit the second half of a surrogate pair? -/
def isLowSurrogate (unit : Nat) : Bool := 0xDC00 ≤ unit && unit < 0xE000

/-- The text that the units of a string denote, if no half of a surrogate pair stands alone. -/
def textOfUnits? : List StringUnit → Option (List Char)
  | [] => some []
  | .char c :: rest => (textOfUnits? rest).map (c :: ·)
  | .code high :: .code low :: rest =>
    if isHighSurrogate high then
      if isLowSurrogate low then
        (textOfUnits? rest).map
          (Char.ofNat (0x10000 + (high - 0xD800) * 0x400 + (low - 0xDC00)) :: ·)
      else none
    else if isLowSurrogate high then none
    else (textOfUnits? (.code low :: rest)).map (Char.ofNat high :: ·)
  | .code unit :: rest =>
    if isHighSurrogate unit || isLowSurrogate unit then none
    else (textOfUnits? rest).map (Char.ofNat unit :: ·)

end Postulate.Json
