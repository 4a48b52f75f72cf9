import Postulate.Calendar.Fields
import Postulate.Calendar.Format
import Postulate.Calendar.Timestamp

/-!
# Reading dates by format

A text is read against the items of a format from left to right; every item takes its part off
the front, and nothing may be left at the end. Numbers may be preceded by white space and take at
most the digits of their width, except that a signed year takes all digits there are. Names
ignore case.

Among several formats the first that reads the text as a date and time wins; only when none does
is each of them tried as a bare date, whose time is midnight.
-/

namespace Postulate.Calendar

open Postulate.Text

namespace NumberItem

/-- The greatest number of digits. -/
def width : NumberItem → Nat
  | .year => 4
  | .yearOfCentury | .month | .day | .hour | .clockHour | .minute | .second => 2
  | .dayOfYear => 3
  | .weekdayFromSunday | .weekdayFromMonday => 1
  | .nanosecond => 9

/-- Records a number that was read; it must lie in the range of its field. -/
def store (item : NumberItem) (value : Int) (fields : Fields) : Option Fields :=
  let within (low high : Int) (field : Field) (stored : Int) : Option Fields :=
    if low ≤ value ∧ value ≤ high then fields.put field stored else none
  match item with
  | .year => fields.put .year value
  | .yearOfCentury => within 0 99 .yearOfCentury value
  | .month => within 1 12 .month value
  | .day => within 1 31 .day value
  | .dayOfYear => within 1 366 .dayOfYear value
  | .weekdayFromSunday => within 0 6 .weekday ((value + 6) % 7)
  | .weekdayFromMonday => within 1 7 .weekday (value - 1)
  | .hour =>
    (within 0 23 .halfDay (value / 12)).bind fun fields => fields.put .hourOfHalf (value % 12)
  | .clockHour => within 1 12 .hourOfHalf (value % 12)
  | .minute => within 0 59 .minute value
  | .second => within 0 60 .second value
  | .nanosecond => within 0 999999999 .nanosecond value

/-- Takes the digits of a number and its sign, which only a year may have. -/
def scan (item : NumberItem) : Scanner Int := fun text =>
  match item, text with
  | .year, '-' :: rest => (longNumber rest).map fun (value, rest) => (-(value : Int), rest)
  | .year, '+' :: rest => (longNumber rest).map fun (value, rest) => ((value : Int), rest)
  | item, text => (number item.width text).map fun (value, rest) => ((value : Int), rest)

end NumberItem

/-- The months in short form and what the long form adds. -/
def monthNames : List (List Char × List Char) :=
  [("jan", "uary"), ("feb", "ruary"), ("mar", "ch"), ("apr", "il"), ("may", ""), ("jun", "e"),
    ("jul", "y"), ("aug", "ust"), ("sep", "tember"), ("oct", "ober"), ("nov", "ember"),
    ("dec", "ember")].map fun (short, more) => (short.toList, more.toList)

/-- The days of the week in short form and what the long form adds. -/
def weekdayNames : List (List Char × List Char) :=
  [("mon", "day"), ("tue", "sday"), ("wed", "nesday"), ("thu", "rsday"), ("fri", "day"),
    ("sat", "urday"), ("sun", "day")].map fun (short, more) => (short.toList, more.toList)

/-- Takes a name of a list, counted from 0. A long name is taken in full where it is there. -/
def scanName (names : List (List Char × List Char)) (long : Bool) : Scanner Nat := fun text =>
  names.zipIdx.findSome? fun ((short, more), index) =>
    (word short text).map fun rest =>
      (index, if long then (word more rest).getD rest else rest)

/-- A fraction of exactly `count` digits, in nanoseconds. -/
def scanFraction (count : Nat) : Scanner Nat := fun text =>
  (fixedNumber count text).map fun (value, rest) => (value * Nat.pow 10 (9 - count), rest)

/-- The distance from UTC in minutes: a sign, two digits of hours, any colons and white space, and
two digits of minutes below 60. -/
def scanOffset : Scanner Int := fun text =>
  match trimStart text with
  | [] => none
  | c :: text =>
    if c = '+' || Timestamp.isMinus c then do
      let (hours, text) ← fixedNumber 2 text
      let (minutes, text) ← fixedNumber 2 (text.dropWhile fun c => c = ':' || isWhiteSpace c)
      if minutes < 60 then
        let distance : Int := 60 * hours + minutes
        some (if Timestamp.isMinus c then -distance else distance, text)
      else none
    else none

namespace FormatItem

/-- Takes the part of an item off a text and records what it says. -/
def read (item : FormatItem) (fields : Fields) (text : List Char) :
    Option (Fields × List Char) :=
  let stored (field : Field) (scanned : Option (Int × List Char)) : Option (Fields × List Char) :=
    scanned.bind fun (value, rest) => (fields.put field value).map fun fields => (fields, rest)
  let counted (scanned : Option (Nat × List Char)) : Option (Int × List Char) :=
    scanned.map fun (value, rest) => ((value : Int), rest)
  match item with
  | .literal c => (expect c text).map fun rest => (fields, rest)
  | .space => some (fields, trimStart text)
  | .number item =>
    (item.scan (trimStart text)).bind fun (value, rest) =>
      (item.store value fields).map fun fields => (fields, rest)
  | .monthName long =>
    stored .month ((scanName monthNames long text).map fun (index, rest) => (index + 1, rest))
  | .weekdayName long => stored .weekday (counted (scanName weekdayNames long text))
  | .halfDay =>
    stored .halfDay <|
      ((word ['a', 'm'] text).map fun rest => (0, rest)).or
        ((word ['p', 'm'] text).map fun rest => (1, rest))
  | .fraction =>
    match text with
    | '.' :: _ => stored .nanosecond (counted (Timestamp.fraction text))
    | _ => some (fields, text)
  | .pointedFraction count =>
    match text with
    | '.' :: rest => stored .nanosecond (counted (scanFraction count rest))
    | _ => some (fields, text)
  | .bareFraction count => stored .nanosecond (counted (scanFraction count text))
  | .offset => stored .offset (scanOffset text)
  | .zoneName => some (fields, text.dropWhile fun c => !isWhiteSpace c)

variable {fields fields' : Fields} {text rest : List Char}

theorem read_literal_eq_some_iff {c : Char} :
    (literal c).read fields text = some (fields', rest) ↔ fields' = fields ∧ text = c :: rest := by
  simp only [read, Option.map_eq_some_iff, Prod.mk.injEq]
  constructor
  · rintro ⟨after, hexpect, rfl, rfl⟩
    exact ⟨rfl, expect_eq_some_iff.1 hexpect⟩
  · rintro ⟨rfl, htext⟩
    exact ⟨rest, expect_eq_some_iff.2 htext, rfl, rfl⟩

theorem read_number_eq_some_iff {item : NumberItem} :
    (number item).read fields text = some (fields', rest) ↔
      ∃ value, item.scan (trimStart text) = some (value, rest) ∧
        item.store value fields = some fields' := by
  simp only [read, Option.bind_eq_some_iff, Option.map_eq_some_iff, Prod.mk.injEq]
  constructor
  · rintro ⟨⟨value, after⟩, hscan, stored, hstore, rfl, rfl⟩
    exact ⟨value, hscan, hstore⟩
  · rintro ⟨value, hscan, hstore⟩
    exact ⟨(value, rest), hscan, fields', hstore, rfl, rfl⟩

/-- A point must be followed by digits, which are recorded; without a point nothing happens. -/
theorem read_fraction_eq_some_iff :
    fraction.read fields text = some (fields', rest) ↔
      (∃ digits, text = '.' :: (digits ++ rest) ∧ digits ≠ [] ∧
        (∀ c ∈ digits, c.isDigit = true) ∧ EndsDigits rest ∧
        fields.put .nanosecond (Timestamp.nanoseconds digits) = some fields') ∨
      text.head? ≠ some '.' ∧ fields' = fields ∧ rest = text := by
  simp only [read]
  split
  · next more =>
    simp only [Option.bind_eq_some_iff, Option.map_eq_some_iff, Prod.mk.injEq]
    constructor
    · rintro ⟨_, ⟨⟨value, after⟩, hfraction, rfl⟩, stored, hput, rfl, rfl⟩
      rcases Timestamp.fraction_eq_some_iff.1 hfraction with
        ⟨digits, hsplit, hne, hdigits, hrest, rfl⟩ | ⟨hpoint, -⟩
      · exact Or.inl ⟨digits, hsplit, hne, hdigits, hrest, hput⟩
      · simp at hpoint
    · rintro (⟨digits, hsplit, hne, hdigits, hrest, hput⟩ | ⟨hpoint, -⟩)
      · have hfraction := Timestamp.fraction_eq_some_iff.2
          (Or.inl ⟨digits, hsplit, hne, hdigits, hrest, rfl⟩)
        exact ⟨_, ⟨_, hfraction, rfl⟩, fields', hput, rfl, rfl⟩
      · simp at hpoint
  · next hpoint =>
    have hhead : text.head? ≠ some '.' := fun h => by
      obtain ⟨more, hmore⟩ := List.head?_eq_some_iff.1 h
      exact hpoint more hmore
    constructor
    · intro h
      obtain ⟨rfl, rfl⟩ := Prod.mk.inj (Option.some.inj h)
      exact Or.inr ⟨hhead, rfl, rfl⟩
    · rintro (⟨digits, rfl, -⟩ | ⟨-, rfl, rfl⟩)
      · simp at hhead
      · rfl

end FormatItem

namespace Format

/-- Reads a whole text against the items of a format. -/
def readFrom (fields : Fields) : Format → List Char → Option Fields
  | [], [] => some fields
  | [], _ :: _ => none
  | item :: items, text =>
    (item.read fields text).bind fun (fields, rest) => readFrom fields items rest

/-- The fields of a text that follows a format. -/
def read (format : Format) (text : List Char) : Option Fields := readFrom Fields.none format text

end Format

/-- Reads a text by a written format as a date and time. -/
def readDateTimeBy (format : String) (text : List Char) : Option DateTime := do
  let format ← Format.ofText? format
  let fields ← format.read text
  fields.dateTime?

/-- Reads a text by a written format as a date. Fields of the time are read and not used. -/
def readDateBy (format : String) (text : List Char) : Option Date := do
  let format ← Format.ofText? format
  let fields ← format.read text
  fields.date?

/-- Reads a text by the first format that fits it as a date and time, or else by the first that
fits it as a date, at midnight. -/
def readByFormats (dateTimes dates : List String) (text : List Char) : Option DateTime :=
  (dateTimes.findSome? fun format => readDateTimeBy format text).or <|
    dates.findSome? fun format => (readDateBy format text).map fun date => ⟨date, Time.midnight⟩

/-- The formats of a date and time that need no mention. -/
def dateTimeFormats : List String :=
  ["%Y-%m-%dT%H:%M:%S%.f", "%Y-%m-%d %H:%M:%S%.f", "%Y-%m-%dT%H:%M", "%Y-%m-%d %H:%M",
    "%m/%d/%Y %H:%M:%S", "%m/%d/%Y %H:%M"]

/-- The formats of a date that need no mention. -/
def dateFormats : List String := ["%Y-%m-%d", "%m/%d/%Y"]

/-- Reads a date and time: a timestamp with an offset, or one of the usual formats. -/
def readDateTime (text : List Char) : Option DateTime :=
  (Timestamp.read text).or (readByFormats dateTimeFormats dateFormats text)

/-- Reads a date and time by the given formats; without formats, by the usual ones. -/
def readDateTimeExact (formats : List String) (text : List Char) : Option DateTime :=
  if formats.isEmpty then readDateTime text else readByFormats formats formats text

end Postulate.Calendar
