import Postulate.Calendar.DateTime
import Postulate.Text.Lookahead

/-!
# Timestamps with an offset

The timestamps of RFC 3339: a date, a separator, a time with seconds and an offset from UTC, each
field with its exact number of digits, as in `2013-05-17T10:30:00.5+02:00`. The timestamp is read
as the date and time in UTC.
-/

namespace Postulate.Calendar.Timestamp

open Postulate.Text

/-- Digits of a fraction of a second as nanoseconds: digits past the ninth do not count. -/
def nanoseconds (digits : List Char) : Nat :=
  let kept := digits.take 9
  digitsValue kept * Nat.pow 10 (9 - kept.length)

/-- An optional fraction of a second; a point must be followed by a digit. -/
def fraction : Scanner Nat
  | '.' :: text =>
    let digits := text.takeWhile Char.isDigit
    if digits.isEmpty then none else some (nanoseconds digits, text.dropWhile Char.isDigit)
  | text => some (0, text)

/-- A fraction is a point with digits, all there are, or it is not there. -/
theorem fraction_eq_some_iff {text rest : List Char} {value : Nat} :
    fraction text = some (value, rest) ↔
      (∃ digits, text = '.' :: (digits ++ rest) ∧ digits ≠ [] ∧ (∀ c ∈ digits, c.isDigit = true) ∧
        EndsDigits rest ∧ value = nanoseconds digits) ∨
      text.head? ≠ some '.' ∧ value = 0 ∧ rest = text := by
  unfold fraction
  split
  · next text =>
    constructor
    · intro h
      simp only at h
      split at h
      · cases h
      · next hne =>
        obtain ⟨rfl, rfl⟩ : nanoseconds _ = value ∧ _ = rest := by simpa using h
        obtain ⟨hsplit, hdigits, hrest⟩ := takeWhile_dropWhile_isDigit_iff.1 ⟨rfl, rfl⟩
        exact Or.inl ⟨_, congrArg ('.' :: ·) hsplit, by simpa using hne, hdigits, hrest, rfl⟩
    · rintro (⟨digits, hsplit, hne, hdigits, hrest, rfl⟩ | ⟨hpoint, -, -⟩)
      · obtain ⟨htake, hdrop⟩ :=
          takeWhile_dropWhile_isDigit_iff.2 ⟨(List.cons.inj hsplit).2, hdigits, hrest⟩
        simp [htake, hdrop, hne]
      · simp at hpoint
  · next hpoint =>
    constructor
    · intro h
      obtain ⟨rfl, rfl⟩ : 0 = value ∧ text = rest := by simpa using h
      refine Or.inr ⟨fun hhead => ?_, rfl, rfl⟩
      obtain ⟨more, hmore⟩ := List.head?_eq_some_iff.1 hhead
      exact hpoint more hmore
    · rintro (⟨digits, rfl, -⟩ | ⟨-, rfl, rfl⟩)
      · exact absurd rfl (hpoint _)
      · rfl

/-- The character is a minus sign, the hyphen or the mathematical sign. -/
def isMinus (c : Char) : Bool := c = '-' || c = '\u2212'

/-- An offset in minutes: `Z` for none, or a sign, two digits of hours, a colon and two digits of
minutes, at most 23:59 either way. -/
def offset : Scanner Int
  | [] => none
  | c :: text =>
    if c = 'Z' || c = 'z' then some (0, text)
    else if c = '+' || isMinus c then do
      let (hours, text) ← fixedNumber 2 text
      let text ← expect ':' text
      let (minutes, text) ← fixedNumber 2 text
      if hours < 24 ∧ minutes < 60 then
        let distance : Int := 60 * hours + minutes
        some (if isMinus c then -distance else distance, text)
      else none
    else none

/-- The mark between date and time: a `T` in either case, or a space. -/
def separator : List Char → Option (List Char)
  | [] => none
  | c :: text => if c = 'T' || c = 't' || c = ' ' then some text else none

/-- Reads a whole timestamp as a date and time in UTC. -/
def read (text : List Char) : Option DateTime := do
  let (year, text) ← fixedNumber 4 text
  let text ← expect '-' text
  let (month, text) ← fixedNumber 2 text
  let text ← expect '-' text
  let (day, text) ← fixedNumber 2 text
  let text ← separator text
  let (hour, text) ← fixedNumber 2 text
  let text ← expect ':' text
  let (minute, text) ← fixedNumber 2 text
  let text ← expect ':' text
  let (second, text) ← fixedNumber 2 text
  let (nanosecond, text) ← fraction text
  let (minutes, text) ← offset text
  if !text.isEmpty then none
  else
    let date ← Date.of? year month day
    let time ← Time.of? hour minute second nanosecond
    some ((DateTime.mk date time).minusMinutes minutes)

end Postulate.Calendar.Timestamp
