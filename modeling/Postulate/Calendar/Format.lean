import Postulate.Text.WhiteSpace

/-!
# Date formats

A format is a text with conversion specifications: `%` and a letter stands for a field, `%F` and
its like for several; white space stands for any white space; every other character stands for
itself. `Format.ofText?` takes a format apart into items. A specification it does not know makes
the whole format invalid.

Some specifications of the date library are left out and count as unknown here: the timestamp `%s`,
the century `%C`, the numbers of weeks and the years they belong to `%G %g %U %V %W`, the quarter
`%q`, the instant `%+`, and the offsets `%#z`, `%::z` and `%:::z`. What is said of formats is said
of those made of the specifications below.
-/

namespace Postulate.Calendar

/-- A number in a format. -/
inductive NumberItem where
  | year
  | yearOfCentury
  | month
  | day
  | dayOfYear
  /-- The day of the week, 0 for Sunday to 6. -/
  | weekdayFromSunday
  /-- The day of the week, 1 for Monday to 7. -/
  | weekdayFromMonday
  /-- The hour of the day, 0 to 23. -/
  | hour
  /-- The hour on a clock face, 1 to 12. -/
  | clockHour
  | minute
  | second
  | nanosecond
deriving Repr, DecidableEq

/-- An item of a format. -/
inductive FormatItem where
  | literal (c : Char)
  /-- Any white space, none included. -/
  | space
  | number (item : NumberItem)
  /-- The name of a month, in short or, if `long`, in either form. -/
  | monthName (long : Bool)
  /-- The name of a day of the week, in short or, if `long`, in either form. -/
  | weekdayName (long : Bool)
  /-- `am` or `pm`. -/
  | halfDay
  /-- A point and a fraction of a second of any length, or nothing. -/
  | fraction
  /-- A point and a fraction of exactly so many digits, or nothing. -/
  | pointedFraction (digits : Nat)
  /-- A fraction of exactly so many digits without a point. -/
  | bareFraction (digits : Nat)
  /-- The distance from UTC in hours and minutes. -/
  | offset
  /-- The name of a time zone, read over. -/
  | zoneName
deriving Repr, DecidableEq

/-- A format, taken apart. -/
abbrev Format := List FormatItem

namespace Format

/-- `%H:%M`. -/
def hourMinute : Format := [.number .hour, .literal ':', .number .minute]

/-- `%H:%M:%S`. -/
def clock : Format := hourMinute ++ [.literal ':', .number .second]

/-- `%Y-%m-%d`. -/
def isoDate : Format :=
  [.number .year, .literal '-', .number .month, .literal '-', .number .day]

/-- `%m/%d/%y`. -/
def slashDate : Format :=
  [.number .month, .literal '/', .number .day, .literal '/', .number .yearOfCentury]

/-- `%I:%M:%S %p`. -/
def clockFace : Format :=
  [.number .clockHour, .literal ':', .number .minute, .literal ':', .number .second, .space,
    .halfDay]

/-- `%a %b %e %H:%M:%S %Y`. -/
def full : Format :=
  [.weekdayName false, .space, .monthName false, .space, .number .day, .space] ++ clock ++
    [.space, .number .year]

/-- `%e-%b-%Y`. -/
def dayMonthYear : Format :=
  [.number .day, .literal '-', .monthName false, .literal '-', .number .year]

/-- The numbers that a letter stands for. -/
def numberItem? : Char → Option NumberItem
  | 'Y' => some .year
  | 'y' => some .yearOfCentury
  | 'm' => some .month
  | 'd' | 'e' => some .day
  | 'j' => some .dayOfYear
  | 'w' => some .weekdayFromSunday
  | 'u' => some .weekdayFromMonday
  | 'H' | 'k' => some .hour
  | 'I' | 'l' => some .clockHour
  | 'M' => some .minute
  | 'S' => some .second
  | 'f' => some .nanosecond
  | _ => none

/-- The items that a letter after `%` stands for. -/
def specification? (c : Char) : Option Format :=
  match numberItem? c with
  | some item => some [.number item]
  | none =>
    match c with
    | 'b' | 'h' => some [.monthName false]
    | 'B' => some [.monthName true]
    | 'a' => some [.weekdayName false]
    | 'A' => some [.weekdayName true]
    | 'p' | 'P' => some [.halfDay]
    | 'z' => some [.offset]
    | 'Z' => some [.zoneName]
    | 'n' | 't' => some [.space]
    | '%' => some [.literal '%']
    | 'F' => some isoDate
    | 'D' | 'x' => some slashDate
    | 'R' => some hourMinute
    | 'T' | 'X' => some clock
    | 'r' => some clockFace
    | 'c' => some full
    | 'v' => some dayMonthYear
    | _ => none

/-- Where a reader of formats stands. -/
inductive Place where
  /-- Outside every specification. -/
  | outside
  /-- After `%`. -/
  | percent
  /-- After `%` and a padding mark, where only a number may follow. -/
  | padding
  /-- After `%.`. -/
  | point
  /-- After `%.` and a count of digits. -/
  | pointDigits (count : Nat)
  /-- After `%` and a count of digits. -/
  | digits (count : Nat)
  /-- After `%:`. -/
  | colon
deriving Repr, DecidableEq

/-- The lengths of a fraction that a format can ask for. -/
def fractionLength? : Char → Option Nat
  | '3' => some 3
  | '6' => some 6
  | '9' => some 9
  | _ => none

/-- An ordinary character of a format. -/
def plainItem (c : Char) : FormatItem :=
  if Text.isWhiteSpace c then .space else .literal c

/-- Takes a format apart, from a place in it. -/
def items? : Place → List Char → Option Format
  | .outside, [] => some []
  | _, [] => none
  | .outside, c :: rest =>
    if c = '%' then items? .percent rest else (items? .outside rest).map (plainItem c :: ·)
  | .percent, c :: rest =>
    if c = '-' ∨ c = '_' ∨ c = '0' then items? .padding rest
    else if c = '.' then items? .point rest
    else if c = ':' then items? .colon rest
    else
      match fractionLength? c with
      | some count => items? (.digits count) rest
      | none => (specification? c).bind fun items => (items? .outside rest).map (items ++ ·)
  | .padding, c :: rest =>
    (numberItem? c).bind fun item => (items? .outside rest).map (.number item :: ·)
  | .point, c :: rest =>
    if c = 'f' then (items? .outside rest).map (.fraction :: ·)
    else (fractionLength? c).bind fun count => items? (.pointDigits count) rest
  | .pointDigits count, c :: rest =>
    if c = 'f' then (items? .outside rest).map (.pointedFraction count :: ·) else none
  | .digits count, c :: rest =>
    if c = 'f' then (items? .outside rest).map (.bareFraction count :: ·) else none
  | .colon, c :: rest =>
    if c = 'z' then (items? .outside rest).map (.offset :: ·) else none

/-- Takes a format apart; nothing if a specification in it is unknown. -/
def ofText? (format : String) : Option Format := items? .outside format.toList

end Format

end Postulate.Calendar
