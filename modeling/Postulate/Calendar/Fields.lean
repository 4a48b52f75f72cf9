import Postulate.Calendar.DateTime

/-!
# Date and time fields

A text read against a format yields fields: numbers under names such as month or hour of the half
day. A field may be met more than once, and then with the same value only (`Fields.put`). From
the fields a date (`Fields.date?`) and a time of day (`Fields.time?`) are resolved; fields that
say the same thing in two ways have to agree.
-/

namespace Postulate.Calendar

/-- The fields that a date and a time are made of. -/
inductive Field where
  | year
  /-- The year without its century, 0 to 99. -/
  | yearOfCentury
  | month
  | day
  /-- The number of the day in its year, from 1. -/
  | dayOfYear
  /-- The day of the week, from 0 for Monday. -/
  | weekday
  /-- The half of the day: 0 before noon, 1 after it. -/
  | halfDay
  /-- The hour within the half day, 0 to 11. -/
  | hourOfHalf
  | minute
  /-- The second, 60 for a leap second. -/
  | second
  | nanosecond
  /-- The distance from UTC in minutes. -/
  | offset
deriving Repr, DecidableEq

/-- The fields read so far. -/
abbrev Fields := Field → Option Int

namespace Fields

/-- No field has been read. -/
def none : Fields := fun _ => Option.none

/-- Adds a field. A field that is there already must have the same value. -/
def put (fields : Fields) (field : Field) (value : Int) : Option Fields :=
  match fields field with
  | .none => some fun f => if f = field then some value else fields f
  | some old => if old = value then some fields else Option.none

/-- A field, where it was read, has the given value. -/
def allows (fields : Fields) (field : Field) (value : Int) : Bool :=
  (fields field).all (· = value)

theorem allows_iff {fields : Fields} {field : Field} {value : Int} :
    fields.allows field value = true ↔ ∀ v, fields field = some v → v = value := by
  cases h : fields field <;> simp [allows, h]

/-- A field is added when nothing else was read for it, and only this field changes. -/
theorem put_eq_some_iff {fields fields' : Fields} {field : Field} {value : Int} :
    fields.put field value = some fields' ↔
      fields.allows field value = true ∧
        fields' = fun f => if f = field then some value else fields f := by
  cases h : fields field with
  | none => simp [put, allows, h, eq_comm]
  | some old =>
    by_cases hold : old = value
    · have hsame : fields = fun f => if f = field then some value else fields f := by
        funext f
        split
        · next hf => rw [hf, h, hold]
        · rfl
      simp only [put, h, hold, if_true, Option.some.injEq, allows, Option.all_some,
        decide_true, true_and, ← hsame]
      exact eq_comm
    · simp [put, allows, h, hold]

/-- The year that the fields say. A two-digit year alone means the years 1970 to 2069; beside a
full year it must agree with it, and the full year must not be negative then. -/
def year? (fields : Fields) : Option Int :=
  match fields .year, fields .yearOfCentury with
  | year, .none => year
  | some year, some short => if 0 ≤ year ∧ year % 100 = short then some year else Option.none
  | .none, some short => some (short + if short < 70 then 2000 else 1900)

/-- The date that the fields say: from year, month and day, or else from the year and the day of
the year. Every other field about the date must agree with it. -/
def date? (fields : Fields) : Option Date := do
  let year ← fields.year?
  match fields .month, fields .day, fields .dayOfYear with
  | some month, some day, _ =>
    let date ← Date.of? year month.toNat day.toNat
    if fields.allows .weekday date.weekday ∧ fields.allows .dayOfYear date.dayOfYear then some date
    else Option.none
  | _, _, some number =>
    let date ← Date.ofDayOfYear? year number.toNat
    if fields.allows .weekday date.weekday ∧ fields.allows .month date.month ∧
        fields.allows .day date.day then some date
    else Option.none
  | _, _, .none => Option.none

/-- The time of day that the fields say. Hour and minute are needed; seconds may be missing, but
not when there are nanoseconds. -/
def time? (fields : Fields) : Option Time := do
  let halfDay ← fields .halfDay
  let hourOfHalf ← fields .hourOfHalf
  let minute ← fields .minute
  let hour := (12 * halfDay + hourOfHalf).toNat
  match fields .second, fields .nanosecond with
  | .none, .none => Time.of? hour minute.toNat 0 0
  | .none, some _ => Option.none
  | some second, nanosecond => Time.of? hour minute.toNat second.toNat (nanosecond.getD 0).toNat

/-- The date and time that the fields say. -/
def dateTime? (fields : Fields) : Option DateTime := do
  let date ← fields.date?
  let time ← fields.time?
  some ⟨date, time⟩

end Fields

end Postulate.Calendar
