import Postulate.Conversion
import Postulate.Email

/-!
# Checks of texts

A text check asks whether a text is a written value of some type, or an email address. Every
conversion has a text check (`Conversion.textCheck`), which the texts pass that it can read.
-/

namespace Postulate

/-- The checks that a text can be put to. -/
inductive TextCheck where
  | isInt
  | isLong
  | isFloat
  | isDouble
  | isDecimal
  | isBool
  | isEmail
  | isDateTime
  | isDateTimeExact (formats : List String)
deriving Repr, DecidableEq

namespace TextCheck

/-- Does the text pass? -/
def passes : TextCheck → String → Bool
  | isInt, text => Conversion.int.accepts text
  | isLong, text => Conversion.long.accepts text
  | isFloat, text => Conversion.float.accepts text
  | isDouble, text => Conversion.double.accepts text
  | isDecimal, text => Conversion.decimal.accepts text
  | isBool, text => Conversion.bool.accepts text
  | isEmail, text => Email.isAddress text.toList
  | isDateTime, text => Conversion.dateTime.accepts text
  | isDateTimeExact formats, text => (Conversion.dateTimeExact formats).accepts text

/-- The checks without a parameter. -/
def basic : List TextCheck :=
  [isInt, isLong, isFloat, isDouble, isDecimal, isBool, isEmail, isDateTime]

end TextCheck

/-- The text check that asks whether the conversion can read a text. -/
def Conversion.textCheck {t : ValueType} : Conversion t → TextCheck
  | .int => .isInt
  | .long => .isLong
  | .float => .isFloat
  | .double => .isDouble
  | .decimal => .isDecimal
  | .bool => .isBool
  | .dateTime => .isDateTime
  | .dateTimeExact formats => .isDateTimeExact formats

/-- A text passes the text check exactly if it can be converted. -/
theorem Conversion.passes_textCheck {t : ValueType} (conversion : Conversion t) (text : String) :
    conversion.textCheck.passes text = (conversion.convert text).isOk := by
  have haccepts : conversion.accepts text = (conversion.convert text).isOk := by
    simp only [accepts, convert]
    cases conversion.value? text <;> rfl
  rw [← haccepts]
  cases conversion <;> rfl

end Postulate
