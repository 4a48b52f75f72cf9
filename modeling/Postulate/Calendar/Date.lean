/-!
# The Gregorian calendar

Dates of the proleptic Gregorian calendar, with the year 0 and negative years, between the years
−262143 and 262142. `Date.IsValid` says which triples are dates; `Date.of?` builds them.
-/

namespace Postulate.Calendar

/-- A day of the calendar. -/
structure Date where
  year : Int
  month : Nat
  day : Nat
deriving Repr, DecidableEq, Inhabited

/-- The first year of the calendar. -/
def minYear : Int := -262143

/-- The last year of the calendar. -/
def maxYear : Int := 262142

/-- Every fourth year is a leap year, except the centuries that 400 does not divide. -/
def isLeapYear (year : Int) : Bool :=
  decide (year % 4 = 0 ∧ (year % 100 ≠ 0 ∨ year % 400 = 0))

/-- The length of a month; 0 for a number that is no month. -/
def daysInMonth (year : Int) (month : Nat) : Nat :=
  match month with
  | 1 | 3 | 5 | 7 | 8 | 10 | 12 => 31
  | 4 | 6 | 9 | 11 => 30
  | 2 => if isLeapYear year then 29 else 28
  | _ => 0

namespace Date

/-- The triple is a day of the calendar. -/
def IsValid (d : Date) : Prop :=
  minYear ≤ d.year ∧ d.year ≤ maxYear ∧ 1 ≤ d.month ∧ d.month ≤ 12 ∧
    1 ≤ d.day ∧ d.day ≤ daysInMonth d.year d.month

instance (d : Date) : Decidable d.IsValid := by unfold IsValid; infer_instance

/-- The date with the given year, month and day, if there is one. -/
def of? (year : Int) (month day : Nat) : Option Date :=
  let d : Date := ⟨year, month, day⟩
  if d.IsValid then some d else none

theorem of?_eq_some {year : Int} {month day : Nat} {d : Date} :
    of? year month day = some d ↔ d = ⟨year, month, day⟩ ∧ d.IsValid := by
  simp only [of?]
  split
  · next h =>
    constructor
    · rintro ⟨⟩; exact ⟨rfl, h⟩
    · rintro ⟨rfl, -⟩; rfl
  · next h =>
    constructor
    · intro h'; simp at h'
    · rintro ⟨rfl, hv⟩; exact absurd hv h

/-- The days of a year before a month. -/
def daysBeforeMonth (year : Int) : Nat → Nat
  | 0 => 0
  | month + 1 => daysBeforeMonth year month + daysInMonth year month

/-- The number of a day within its year, from 1. -/
def dayOfYear (d : Date) : Nat := daysBeforeMonth d.year d.month + d.day

/-- The date with the given number within a year: the last month that starts before it. -/
def ofDayOfYear? (year : Int) (number : Nat) : Option Date :=
  ((List.range' 1 12).reverse.find? fun month => decide (daysBeforeMonth year month < number)).bind
    fun month => of? year month (number - daysBeforeMonth year month)

/-- The number of a day in the calendar; 1 January of the year 1 is day 1. -/
def dayNumber (d : Date) : Int :=
  let past := d.year - 1
  365 * past + past / 4 - past / 100 + past / 400 + d.dayOfYear

/-- The day of the week, from 0 for Monday to 6 for Sunday. -/
def weekday (d : Date) : Nat := ((d.dayNumber - 1) % 7).toNat

/-- The day after. -/
def next (d : Date) : Date :=
  if d.day < daysInMonth d.year d.month then { d with day := d.day + 1 }
  else if d.month < 12 then ⟨d.year, d.month + 1, 1⟩
  else ⟨d.year + 1, 1, 1⟩

/-- The day before. -/
def previous (d : Date) : Date :=
  if 1 < d.day then { d with day := d.day - 1 }
  else if 1 < d.month then ⟨d.year, d.month - 1, daysInMonth d.year (d.month - 1)⟩
  else ⟨d.year - 1, 12, 31⟩

end Date

/-- Is there such a day? -/
def isDate (day month : Nat) (year : Int) : Bool := (Date.of? year month day).isSome

theorem isDate_iff {day month : Nat} {year : Int} :
    isDate day month year = true ↔ Date.IsValid ⟨year, month, day⟩ := by
  simp only [isDate, Date.of?]
  split <;> simp_all

end Postulate.Calendar
