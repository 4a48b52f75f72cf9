import Postulate.Chain.Focus

/-!
# Transformations

Ready-made mappings between values: arithmetic that wraps at the width of the word, lengths and
texts, and the parts of dates and decimals.
-/

namespace Postulate

/-- Mappings from values of one type to values of another. -/
inductive Transformation : ValueType → ValueType → Type where
  | id {t : ValueType} : Transformation t t
  | append (suffix : String) : Transformation .text .text
  /-- The length in bytes of UTF-8. -/
  | byteLength : Transformation .text .int
  /-- The number of code points. -/
  | characterCount : Transformation .text .int
  | add (n : Int32) : Transformation .int .int
  | multiply (n : Int32) : Transformation .int .int
  | intText : Transformation .int .text
  | widen : Transformation .int .long
  | longText : Transformation .long .text
  | not : Transformation .bool .bool
  | boolText : Transformation .bool .text
  | negateFloat : Transformation .float .float
  | floatToDouble : Transformation .float .double
  | negateDouble : Transformation .double .double
  | decimalScale : Transformation .decimal .int
  | decimalText : Transformation .decimal .text
  | year : Transformation .dateTime .int
  | month : Transformation .dateTime .int
  | day : Transformation .dateTime .int
  | hour : Transformation .dateTime .int

namespace Transformation

/-- The mapped value. -/
def apply : {t u : ValueType} → Transformation t u → t.Carrier → u.Carrier
  | _, _, .id, v => v
  | _, _, .append suffix, v => v ++ suffix
  | _, _, .byteLength, v => Int32.ofNat v.utf8ByteSize
  | _, _, .characterCount, v => Int32.ofNat v.length
  | _, _, .add n, v => v + n
  | _, _, .multiply n, v => v * n
  | _, _, .intText, v => toString v.toInt
  | _, _, .widen, v => v.toInt64
  | _, _, .longText, v => toString v.toInt
  | _, _, .not, v => !v
  | _, _, .boolText, v => toString v
  | _, _, .negateFloat, v => -v
  | _, _, .floatToDouble, v => v.toFloat
  | _, _, .negateDouble, v => -v
  | _, _, .decimalScale, v => Int32.ofNat v.scale
  | _, _, .decimalText, v => v.text
  | _, _, .year, v => Int32.ofInt v.date.year
  | _, _, .month, v => Int32.ofNat v.date.month
  | _, _, .day, v => Int32.ofNat v.date.day
  | _, _, .hour, v => Int32.ofNat v.time.hour

/-- The mapping with a label. -/
def mapping {t u : ValueType} (f : Transformation t u) (label : String) : Mapping t u :=
  ⟨label, fun _ => f.apply⟩

end Transformation

end Postulate
