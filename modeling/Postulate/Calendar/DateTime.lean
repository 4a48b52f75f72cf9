import Postulate.Calendar.Date

/-!
# Dates with a time of day

A time of day counts nanoseconds up to `2 * 10 ^ 9`: a leap second is the second 59 with a
nanosecond of `10 ^ 9` or more. Times carry no zone; `DateTime.minusMinutes` moves a local time
to the time at zero offset.
-/

namespace Postulate.Calendar

/-- A time of day. -/
structure Time where
  hour : Nat
  minute : Nat
  second : Nat
  nanosecond : Nat
deriving Repr, DecidableEq, Inhabited

/-- A date and a time of day. -/
structure DateTime where
  date : Date
  time : Time
deriving Repr, DecidableEq, Inhabited

/-- The nanoseconds of a second. -/
def nanosPerSecond : Nat := 1000000000

namespace Time

/-- The start of a day. -/
def midnight : Time := ⟨0, 0, 0, 0⟩

/-- The time with a written second of up to 60: 60 is the leap second after 59. -/
def of? (hour minute second nanosecond : Nat) : Option Time :=
  if hour < 24 ∧ minute < 60 ∧ second ≤ 60 ∧ nanosecond < nanosPerSecond then
    some (if second = 60 then ⟨hour, minute, 59, nanosPerSecond + nanosecond⟩
      else ⟨hour, minute, second, nanosecond⟩)
  else none

/-- Hour and minute as minutes since midnight. -/
def minuteOfDay (t : Time) : Nat := 60 * t.hour + t.minute

end Time

namespace DateTime

/-- Comparison by date, then by time. -/
def compare (a b : DateTime) : Ordering :=
  (Ord.compare a.date.year b.date.year).then <|
    (Ord.compare a.date.month b.date.month).then <|
    (Ord.compare a.date.day b.date.day).then <|
    (Ord.compare a.time.hour b.time.hour).then <|
    (Ord.compare a.time.minute b.time.minute).then <|
    (Ord.compare a.time.second b.time.second).then <|
    Ord.compare a.time.nanosecond b.time.nanosecond

/-- The date and time some minutes, less than a day of them, before or (for a negative number)
after the given one. Seconds stay. -/
def minusMinutes (d : DateTime) (minutes : Int) : DateTime :=
  let moved : Int := d.time.minuteOfDay - minutes
  let date :=
    if moved < 0 then d.date.previous else if 1440 ≤ moved then d.date.next else d.date
  let minuteOfDay := (moved % 1440).toNat
  ⟨date, { d.time with hour := minuteOfDay / 60, minute := minuteOfDay % 60 }⟩

end DateTime

end Postulate.Calendar
