import Postulate.Calendar.DateTime
import Postulate.Number.Decimal

/-!
# Values

The types of value that clauses hold, and values tagged with their type. Every type has an
equality and an order; for floating-point numbers these are the ones of IEEE 754, in which a
not-a-number equals nothing and is not ordered.
-/

namespace Postulate

/-- The types of value. -/
inductive ValueType where
  /-- 32-bit integers. -/
  | int
  /-- 64-bit integers. -/
  | long
  | bool
  | text
  /-- 32-bit floating-point numbers. -/
  | float
  /-- 64-bit floating-point numbers. -/
  | double
  | decimal
  | dateTime
deriving Repr, DecidableEq, Inhabited

namespace ValueType

/-- The values of a type. -/
@[reducible] def Carrier : ValueType → Type
  | int => Int32
  | long => Int64
  | bool => Bool
  | text => String
  | float => Float32
  | double => Float
  | decimal => Number.Decimal
  | dateTime => Calendar.DateTime

/-- Are two values equal? Decimals are compared by number. -/
def equal : (t : ValueType) → t.Carrier → t.Carrier → Bool
  | int, a, b => a == b
  | long, a, b => a == b
  | bool, a, b => a == b
  | text, a, b => a == b
  | float, a, b => a == b
  | double, a, b => a == b
  | decimal, a, b => a.compare b == .eq
  | dateTime, a, b => a == b

/-- Does one value come before another? Texts are ordered by code points, and false before true. -/
def less : (t : ValueType) → t.Carrier → t.Carrier → Bool
  | int, a, b => decide (a < b)
  | long, a, b => decide (a < b)
  | bool, a, b => !a && b
  | text, a, b => decide (a < b)
  | float, a, b => decide (a < b)
  | double, a, b => decide (a < b)
  | decimal, a, b => a.compare b == .lt
  | dateTime, a, b => a.compare b == .lt

end ValueType

/-- A value of any type. -/
structure Value where
  type : ValueType
  content : type.Carrier

end Postulate
