import Mathlib.Tactic.Lemma
import Postulate.Calendar.Reading
import Postulate.Proofs.Text.Digits

/-!
# How a format writes a date and time

A format writes a date and time item by item. Numbers are written with all the digits of their
width; only a year may instead have a sign and any digits behind it, and has to where four digits
are not enough. A leap second is written as the second 60. A fraction is written with up to nine
digits that say it exactly, and may be left out when it is zero. So a format may write a date and
time in several ways, and `Format.Writes` is a relation.

What a format has no item for is lost, so it expresses the dates and times for which that is zero
(`Format.Expresses`). The main result is `Format.exists_writes`: a format of items that can write
writes every real date and time.
-/

namespace Postulate.Calendar

open Postulate.Text

/-! ## Real dates and times -/

/-- A time of the clock. Only the second 59 can be a leap second. -/
def Time.IsValid (t : Time) : Prop :=
  t.hour < 24 ∧ t.minute < 60 ∧ t.second < 60 ∧
    (t.nanosecond < nanosPerSecond ∨ t.second = 59 ∧ t.nanosecond < 2 * nanosPerSecond)

instance (t : Time) : Decidable t.IsValid := by unfold Time.IsValid; infer_instance

/-- The second as it is written, 60 for a leap second. -/
def Time.writtenSecond (t : Time) : Nat := if t.nanosecond < nanosPerSecond then t.second else 60

/-- The fraction of the second in nanoseconds. -/
def Time.fraction (t : Time) : Nat := t.nanosecond % nanosPerSecond

/-- A day of the calendar with a time of the clock. -/
def DateTime.IsValid (d : DateTime) : Prop := d.date.IsValid ∧ d.time.IsValid

instance (d : DateTime) : Decidable d.IsValid := by unfold DateTime.IsValid; infer_instance

lemma Date.IsValid.month_range {d : Date} (h : d.IsValid) : 1 ≤ d.month ∧ d.month ≤ 12 :=
  ⟨h.2.2.1, h.2.2.2.1⟩

lemma daysInMonth_le (year : Int) (month : Nat) : daysInMonth year month ≤ 31 := by
  simp only [daysInMonth]
  split
  all_goals try split
  all_goals omega

lemma Date.IsValid.day_range {d : Date} (h : d.IsValid) : 1 ≤ d.day ∧ d.day ≤ 31 :=
  ⟨h.2.2.2.2.1, h.2.2.2.2.2.trans (daysInMonth_le _ _)⟩

lemma Time.IsValid.writtenSecond_le {t : Time} (h : t.IsValid) : t.writtenSecond ≤ 60 := by
  have hsecond := h.2.2.1
  unfold writtenSecond
  split <;> omega

lemma Time.fraction_lt (t : Time) : t.fraction < nanosPerSecond := Nat.mod_lt _ (by decide)

/-- A time is made from what is written of it. -/
lemma Time.of?_written {t : Time} (h : t.IsValid) :
    of? t.hour t.minute t.writtenSecond t.fraction = some t := by
  have hwritten := h.writtenSecond_le
  obtain ⟨hhour, hminute, hsecond, hnano⟩ := h
  rw [of?, if_pos ⟨hhour, hminute, hwritten, t.fraction_lt⟩]
  by_cases hleap : t.nanosecond < nanosPerSecond
  · have hsame : t.writtenSecond = t.second := if_pos hleap
    rw [hsame, fraction, Nat.mod_eq_of_lt hleap, if_neg (by omega)]
  · have hsixty : t.writtenSecond = 60 := if_neg hleap
    obtain ⟨hlast, hbound⟩ := hnano.resolve_left hleap
    have hrest : nanosPerSecond + t.fraction = t.nanosecond := by
      rw [fraction, Nat.mod_eq_sub_mod (Nat.le_of_not_lt hleap), Nat.mod_eq_of_lt (by omega)]
      omega
    rw [if_pos hsixty, hrest, ← hlast]

lemma Time.IsValid.eq_midnight {t : Time} (h : t.IsValid) (hhour : t.hour = 0)
    (hminute : t.minute = 0) (hsecond : t.second = 0) (hfraction : t.fraction = 0) :
    t = midnight := by
  have hnot : t.nanosecond < nanosPerSecond := h.2.2.2.resolve_right (by omega)
  rw [fraction, Nat.mod_eq_of_lt hnot] at hfraction
  obtain ⟨hour, minute, second, nanosecond⟩ := t
  simp_all [midnight]

/-! ## Numbers -/

/-- A number is spelled with all the digits of its width, a year also with a sign and any digits. -/
inductive NumberItem.Spells : NumberItem → Int → List Char → Prop
  | padded {item : NumberItem} {n : Nat} (fits : n < 10 ^ item.width) :
      Spells item n (numeral item.width n)
  | minus {width n : Nat} (width_pos : 0 < width) (fits : n < 10 ^ width) :
      Spells .year (-n) ('-' :: numeral width n)
  | plus {width n : Nat} (width_pos : 0 < width) (fits : n < 10 ^ width) :
      Spells .year n ('+' :: numeral width n)

namespace NumberItem

lemma width_pos (item : NumberItem) : 0 < item.width := by
  cases item <;> decide

lemma Spells.ne_nil {item : NumberItem} {value : Int} {text : List Char}
    (h : item.Spells value text) : text ≠ [] := by
  cases h with
  | padded => exact numeral_ne_nil item.width_pos
  | minus => simp
  | plus => simp

/-- There is no white space in a number. -/
lemma Spells.isWhiteSpace_eq_false {item : NumberItem} {value : Int} {text : List Char}
    (h : item.Spells value text) : ∀ c ∈ text, isWhiteSpace c = false := by
  intro c hc
  cases h with
  | padded => exact isWhiteSpace_of_isDigit (isDigit_of_mem_numeral c hc)
  | minus | plus =>
    rcases List.mem_cons.1 hc with rfl | hc
    · decide
    · exact isWhiteSpace_of_isDigit (isDigit_of_mem_numeral c hc)

/-- With a sign any year can be spelled. -/
lemma exists_year_spells (year : Int) : ∃ text, NumberItem.year.Spells year text := by
  obtain ⟨n, rfl | rfl⟩ := year.eq_nat_or_neg
  · exact ⟨_, .plus (Nat.succ_pos n) (Nat.lt_pow_self (by decide) |>.trans_le <|
      Nat.pow_le_pow_right (by decide) (Nat.le_succ n))⟩
  · exact ⟨_, .minus (Nat.succ_pos n) (Nat.lt_pow_self (by decide) |>.trans_le <|
      Nat.pow_le_pow_right (by decide) (Nat.le_succ n))⟩

end NumberItem

/-! ## Items and formats -/

/-- A fraction with up to nine digits is a number of nanoseconds. -/
lemma Timestamp.nanoseconds_numeral {count n : Nat} (count_le : count ≤ 9) (fits : n < 10 ^ count) :
    nanoseconds (numeral count n) = n * 10 ^ (9 - count) := by
  rw [nanoseconds, List.take_of_length_le (by rwa [length_numeral]), digitsValue_numeral fits,
    length_numeral]
  rfl

/-- The number that an item says of a date and time; most items are not for writing. -/
def NumberItem.value? (d : DateTime) : NumberItem → Option Int
  | .year => some d.date.year
  | .month => some d.date.month
  | .day => some d.date.day
  | .hour => some d.time.hour
  | .minute => some d.time.minute
  | .second => some d.time.writtenSecond
  | _ => none

/-- What an item writes of a date and time. -/
inductive FormatItem.Writes (d : DateTime) : FormatItem → List Char → Prop
  | literal (c : Char) : Writes d (.literal c) [c]
  | space : Writes d .space [' ']
  | number {item : NumberItem} {value : Int} {text : List Char}
      (value_eq : item.value? d = some value) (spells : item.Spells value text) :
      Writes d (.number item) text
  | noFraction (fraction_eq : d.time.fraction = 0) : Writes d .fraction []
  | fraction {count n : Nat} (count_pos : 0 < count) (count_le : count ≤ 9) (fits : n < 10 ^ count)
      (fraction_eq : n * 10 ^ (9 - count) = d.time.fraction) :
      Writes d .fraction ('.' :: numeral count n)

/-- What a format writes of a date and time: what its items write, one after the other. -/
inductive Format.Writes (d : DateTime) : Format → List Char → Prop
  | nil : Writes d [] []
  | cons {item : FormatItem} {format : Format} {front rest : List Char}
      (item_writes : item.Writes d front) (format_writes : Writes d format rest) :
      Writes d (item :: format) (front ++ rest)

/-- What the format has no item for is zero. -/
structure Format.Expresses (format : Format) (d : DateTime) : Prop where
  hour : .number .hour ∉ format → d.time.hour = 0
  minute : .number .minute ∉ format → d.time.minute = 0
  second : .number .second ∉ format → d.time.second = 0
  fraction : .fraction ∉ format → d.time.fraction = 0

/-- The items that can write. -/
def FormatItem.CanWrite : FormatItem → Bool
  | .literal _ | .space | .fraction => true
  | .number item => item ∈ [.year, .month, .day, .hour, .minute, .second]
  | _ => false

section

variable {d : DateTime}

lemma NumberItem.exists_spells (hd : d.IsValid) {item : NumberItem}
    (hitem : item ∈ [.year, .month, .day, .hour, .minute, .second]) :
    ∃ value text, item.value? d = some value ∧ item.Spells value text := by
  obtain ⟨hdate, htime⟩ := hd
  have hmonth := hdate.month_range
  have hday := hdate.day_range
  have hsecond := htime.writtenSecond_le
  obtain ⟨hhour, hminute, -⟩ := htime
  have two : ∀ {item : NumberItem} {n : Nat}, item.value? d = some n → item.width = 2 → n < 100 →
      ∃ value text, item.value? d = some value ∧ item.Spells value text :=
    fun hvalue hwidth hn => ⟨_, _, hvalue, .padded (by rwa [hwidth])⟩
  simp only [List.mem_cons, List.not_mem_nil, or_false] at hitem
  rcases hitem with rfl | rfl | rfl | rfl | rfl | rfl
  · obtain ⟨text, htext⟩ := exists_year_spells d.date.year
    exact ⟨_, text, rfl, htext⟩
  · exact two rfl rfl (by omega)
  · exact two rfl rfl (by omega)
  · exact two rfl rfl (by omega)
  · exact two rfl rfl (by omega)
  · exact two rfl rfl (by omega)

lemma FormatItem.exists_writes (hd : d.IsValid) {item : FormatItem} (hitem : item.CanWrite = true) :
    ∃ text, item.Writes d text := by
  cases item with
  | literal c => exact ⟨_, .literal c⟩
  | space => exact ⟨_, .space⟩
  | number item =>
    obtain ⟨value, text, hvalue, hspells⟩ :=
      NumberItem.exists_spells hd (of_decide_eq_true hitem)
    exact ⟨text, .number hvalue hspells⟩
  | fraction =>
    by_cases hzero : d.time.fraction = 0
    · exact ⟨_, .noFraction hzero⟩
    · exact ⟨_, .fraction (by decide) (Nat.le_refl 9) d.time.fraction_lt (Nat.mul_one _)⟩
  | _ => cases hitem

/-- A format of items that can write writes every date and time. -/
theorem Format.exists_writes (hd : d.IsValid) {format : Format}
    (hformat : ∀ item ∈ format, item.CanWrite = true) : ∃ text, format.Writes d text := by
  induction format with
  | nil => exact ⟨_, .nil⟩
  | cons item format ih =>
    obtain ⟨front, hfront⟩ := FormatItem.exists_writes hd (hformat item (by simp))
    obtain ⟨rest, hrest⟩ := ih fun i hi => hformat i (by simp [hi])
    exact ⟨_, .cons hfront hrest⟩

end

end Postulate.Calendar
