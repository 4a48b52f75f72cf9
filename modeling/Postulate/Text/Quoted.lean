import Postulate.Text.GraphemeExtend
import Postulate.Text.Printable

/-!
# Quoted text

The text of a value in descriptions meant for a reader: between double quotes, with escapes for
the quote, the backslash, the usual control characters, and every character that would not show
up as a character of its own.
-/

namespace Postulate.Text

/-- The lower-case hexadecimal digits of a number. -/
def hexDigits (n : Nat) : List Char := Nat.toDigits 16 n

/-- A character as it stands inside a quoted text. A combining mark would be drawn together with
the character before it, so it is written by its code point, as unprintable characters are. -/
def quoteChar (c : Char) : List Char :=
  match c with
  | '\x00' => ['\\', '0']
  | '\t' => ['\\', 't']
  | '\r' => ['\\', 'r']
  | '\n' => ['\\', 'n']
  | '\\' => ['\\', '\\']
  | '"' => ['\\', '"']
  | c =>
    if isDrawnTogether c || !isPrintable c then
      ['\\', 'u', '\x7b'] ++ hexDigits c.toNat ++ ['\x7d']
    else [c]

/-- The text between double quotes. -/
def quoted (text : String) : String :=
  String.ofList (['"'] ++ text.toList.flatMap quoteChar ++ ['"'])

end Postulate.Text
