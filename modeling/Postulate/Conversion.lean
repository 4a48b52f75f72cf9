import Postulate.Calendar.Reading
import Postulate.Number.Floating
import Postulate.Number.Integer
import Postulate.Value

/-!
# Conversions

A conversion reads a text as a value of its type. White space around the text is ignored and a
blank text never converts. A conversion that fails says which text, in full, it could not read
as what.
-/

namespace Postulate

open Postulate.Text

/-- The conversions from text, by the type of the value they produce. -/
inductive Conversion : ValueType → Type where
  | int : Conversion .int
  | long : Conversion .long
  | float : Conversion .float
  | double : Conversion .double
  | decimal : Conversion .decimal
  | bool : Conversion .bool
  | dateTime : Conversion .dateTime
  /-- A date and time in one of the given formats. -/
  | dateTimeExact (formats : List String) : Conversion .dateTime
deriving Repr

/-- A text could not be read as a value. -/
structure ConversionError where
  /-- The text, with the white space around it. -/
  input : String
  /-- The name of what it should have been. -/
  target : String
deriving Repr, DecidableEq, Inhabited

namespace ConversionError

/-- What went wrong, in words. -/
def message (e : ConversionError) : String := "Cannot parse '" ++ e.input ++ "' as " ++ e.target

/-- The stable name of the kind of error. -/
def code (_ : ConversionError) : String := "THEORY_CONVERSION_FAILED"

end ConversionError

/-- `true` or `false` in any case of ASCII letters. -/
def readBool (text : List Char) : Option Bool :=
  let lower := text.map Char.toLower
  if lower = "true".toList then some true
  else if lower = "false".toList then some false
  else none

namespace Conversion

/-- The name of what a conversion produces. -/
def target {t : ValueType} : Conversion t → String
  | int => "i32"
  | long => "i64"
  | float => "f32"
  | double => "f64"
  | decimal => "decimal"
  | bool => "bool"
  | dateTime => "date-time"
  | dateTimeExact _ => "date-time"

/-- Reads a text without surrounding white space. -/
def read {t : ValueType} : Conversion t → List Char → Option t.Carrier
  | int, text => Number.readInt text
  | long, text => Number.readLong text
  | float, text => Number.readFloat text
  | double, text => Number.readDouble text
  | decimal, text => Number.Decimal.ofText? text
  | bool, text => readBool text
  | dateTime, text => Calendar.readDateTime text
  | dateTimeExact formats, text => Calendar.readDateTimeExact formats text

/-- Reads a text as a value, white space around it ignored. -/
def value? {t : ValueType} (conversion : Conversion t) (text : String) : Option t.Carrier :=
  let trimmed := trim text.toList
  if trimmed.isEmpty then none else conversion.read trimmed

/-- Reads a text as a value or says that it cannot be read. -/
def convert {t : ValueType} (conversion : Conversion t) (text : String) :
    Except ConversionError t.Carrier :=
  match conversion.value? text with
  | some value => .ok value
  | none => .error ⟨text, conversion.target⟩

/-- Can the text be read? -/
def accepts {t : ValueType} (conversion : Conversion t) (text : String) : Bool :=
  (conversion.value? text).isSome

variable {t : ValueType} {conversion : Conversion t} {text : String} {value : t.Carrier}

theorem convert_eq_ok_iff :
    conversion.convert text = .ok value ↔
      trim text.toList ≠ [] ∧ conversion.read (trim text.toList) = some value := by
  simp only [convert, value?]
  by_cases h : trim text.toList = []
  · simp [h]
  · cases conversion.read (trim text.toList) <;> simp [h]

/-- The texts that can be read are those that convert to a value. -/
theorem accepts_iff :
    conversion.accepts text = true ↔ ∃ value, conversion.convert text = .ok value := by
  cases h : conversion.value? text <;> simp [accepts, convert, h]

/-- A conversion that fails names the whole text and what it should have been. -/
theorem convert_eq_error_iff {e : ConversionError} :
    conversion.convert text = .error e ↔
      (∀ value, conversion.convert text ≠ .ok value) ∧ e = ⟨text, conversion.target⟩ := by
  cases h : conversion.value? text <;> simp [convert, h, eq_comm]

end Conversion

end Postulate
