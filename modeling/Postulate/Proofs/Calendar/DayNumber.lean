import Mathlib.Order.Monotone.Basic
import Mathlib.Tactic.IntervalCases
import Mathlib.Tactic.Lemma
import Postulate.Proofs.Calendar.Written

/-!
# Counting days

The days of the calendar are numbered without gaps. The number of a day is made of the days of all
years before its year, of all months before its month and of its own number in the month; each of
the three sums grows by the length of what is passed (`daysBeforeYear_succ`), so an earlier year or
month means a smaller number whatever the rest. Hence a number belongs to one day only
(`Date.IsValid.eq_of_dayNumber_eq`), and the day after and the day before have the numbers next to
it (`Date.dayNumber_next`, `Date.dayNumber_previous`).
-/

namespace Postulate.Calendar

namespace Date

/-! ## Years -/

/-- The number of the last day before a year. -/
def daysBeforeYear (year : Int) : Int :=
  365 * (year - 1) + (year - 1) / 4 - (year - 1) / 100 + (year - 1) / 400

lemma dayNumber_eq (d : Date) : d.dayNumber = daysBeforeYear d.year + d.dayOfYear := rfl

lemma daysBeforeMonth_thirteen (year : Int) :
    daysBeforeMonth year 13 = if isLeapYear year then 366 else 365 := by
  cases h : isLeapYear year <;> simp [daysBeforeMonth, daysInMonth, h]

/-- A year is followed by the next one after all its months. -/
lemma daysBeforeYear_succ (year : Int) :
    daysBeforeYear (year + 1) = daysBeforeYear year + daysBeforeMonth year 13 := by
  have hleap : isLeapYear year = true ↔ year % 4 = 0 ∧ (year % 100 ≠ 0 ∨ year % 400 = 0) := by
    simp [isLeapYear]
  rw [daysBeforeMonth_thirteen, daysBeforeYear, daysBeforeYear]
  split
  · next h =>
    rw [hleap] at h
    omega
  · next h =>
    rw [hleap] at h
    omega

lemma daysBeforeYear_le {a b : Int} (h : a ≤ b) : daysBeforeYear a ≤ daysBeforeYear b := by
  unfold daysBeforeYear
  omega

/-! ## Months -/

lemma daysBeforeMonth_succ (year : Int) (month : Nat) :
    daysBeforeMonth year (month + 1) = daysBeforeMonth year month + daysInMonth year month := rfl

lemma daysBeforeMonth_le {a b : Nat} (h : a ≤ b) (year : Int) :
    daysBeforeMonth year a ≤ daysBeforeMonth year b :=
  monotone_nat_of_le_succ (fun month => by rw [daysBeforeMonth_succ]; omega) h

variable {a b d : Date}

/-- The days of a month end before those of the next one start. -/
lemma IsValid.dayOfYear_range (h : d.IsValid) :
    daysBeforeMonth d.year d.month < d.dayOfYear ∧
      d.dayOfYear ≤ daysBeforeMonth d.year (d.month + 1) := by
  obtain ⟨-, -, -, -, hfirst, hlast⟩ := h
  rw [daysBeforeMonth_succ, dayOfYear]
  omega

/-- The days of a year end before those of the next one start. -/
lemma IsValid.dayNumber_range (h : d.IsValid) :
    daysBeforeYear d.year < d.dayNumber ∧ d.dayNumber ≤ daysBeforeYear (d.year + 1) := by
  have hrange := h.dayOfYear_range
  have hmonths : daysBeforeMonth d.year (d.month + 1) ≤ daysBeforeMonth d.year 13 :=
    daysBeforeMonth_le (by have := h.month_range; omega) d.year
  rw [dayNumber_eq, daysBeforeYear_succ]
  omega

/-! ## A day and its number -/

lemma IsValid.year_le_of_dayNumber_le (ha : a.IsValid) (hb : b.IsValid)
    (h : a.dayNumber ≤ b.dayNumber) : a.year ≤ b.year := by
  by_contra hyears
  have hbetween := daysBeforeYear_le (show b.year + 1 ≤ a.year by omega)
  have hstart := ha.dayNumber_range.1
  have hend := hb.dayNumber_range.2
  omega

lemma IsValid.month_le_of_dayOfYear_le (ha : a.IsValid) (hb : b.IsValid) (hyear : a.year = b.year)
    (h : a.dayOfYear ≤ b.dayOfYear) : a.month ≤ b.month := by
  by_contra hmonths
  have hbetween := daysBeforeMonth_le (show b.month + 1 ≤ a.month by omega) b.year
  have hstart := ha.dayOfYear_range.1
  have hend := hb.dayOfYear_range.2
  rw [hyear] at hstart
  omega

/-- Two days with the same number are the same. -/
lemma IsValid.eq_of_dayNumber_eq (ha : a.IsValid) (hb : b.IsValid)
    (h : a.dayNumber = b.dayNumber) : a = b := by
  have hyear : a.year = b.year :=
    le_antisymm (ha.year_le_of_dayNumber_le hb h.le) (hb.year_le_of_dayNumber_le ha h.ge)
  have hnumber : a.dayOfYear = b.dayOfYear := by
    rw [dayNumber_eq, dayNumber_eq, hyear] at h
    omega
  have hmonth : a.month = b.month :=
    le_antisymm (ha.month_le_of_dayOfYear_le hb hyear hnumber.le)
      (hb.month_le_of_dayOfYear_le ha hyear.symm hnumber.ge)
  have hday : a.day = b.day := by
    rw [dayOfYear, dayOfYear, hyear, hmonth] at hnumber
    omega
  obtain ⟨year, month, day⟩ := a
  obtain ⟨year', month', day'⟩ := b
  exact congr (congr (congrArg Date.mk hyear) hmonth) hday

/-! ## The day after and the day before -/

lemma one_le_daysInMonth {month : Nat} (hfirst : 1 ≤ month) (hlast : month ≤ 12) (year : Int) :
    1 ≤ daysInMonth year month := by
  interval_cases month <;> cases h : isLeapYear year <;> simp [daysInMonth, h]

lemma IsValid.next (h : d.IsValid) (hyear : d.year < maxYear) : d.next.IsValid := by
  obtain ⟨hmin, hmax, hfirst, hlast, hone, hday⟩ := h
  unfold Date.next
  split
  · next hlater => exact ⟨hmin, hmax, hfirst, hlast, Nat.succ_pos _, hlater⟩
  split
  · next hmonth =>
    exact ⟨hmin, hmax, Nat.succ_pos _, hmonth, le_refl 1,
      one_le_daysInMonth (Nat.succ_pos _) hmonth _⟩
  · exact ⟨Int.le_add_one hmin, hyear, le_refl 1, by simp, le_refl 1,
      one_le_daysInMonth (le_refl 1) (by decide) _⟩

lemma IsValid.previous (h : d.IsValid) (hyear : minYear < d.year) : d.previous.IsValid := by
  obtain ⟨hmin, hmax, hfirst, hlast, hone, hday⟩ := h
  unfold Date.previous
  split
  · next hlater =>
    exact ⟨hmin, hmax, hfirst, hlast, Nat.le_sub_one_of_lt hlater, (Nat.sub_le _ _).trans hday⟩
  split
  · next hlater =>
    have hfirst' : 1 ≤ d.month - 1 := Nat.le_sub_one_of_lt hlater
    have hlast' : d.month - 1 ≤ 12 := (Nat.sub_le _ _).trans hlast
    exact ⟨hmin, hmax, hfirst', hlast', one_le_daysInMonth hfirst' hlast' _, le_refl _⟩
  · exact ⟨Int.le_sub_one_of_lt hyear, (Int.sub_le_self _ (by decide)).trans hmax, by simp,
      le_refl 12, by simp, le_refl 31⟩

lemma dayNumber_next (h : d.IsValid) : d.next.dayNumber = d.dayNumber + 1 := by
  obtain ⟨-, -, hfirst, hlast, hone, hday⟩ := h
  unfold Date.next
  split
  · simp only [dayNumber_eq, dayOfYear]
    omega
  have hend : d.day = daysInMonth d.year d.month := by omega
  split
  · simp only [dayNumber_eq, dayOfYear, daysBeforeMonth_succ, hend]
    omega
  · have hmonth : d.month = 12 := by omega
    have hyear := daysBeforeYear_succ d.year
    rw [daysBeforeMonth_succ] at hyear
    rw [hmonth] at hend
    simp only [dayNumber_eq, dayOfYear, hmonth, hend, hyear]
    simp [daysBeforeMonth, daysInMonth]

lemma dayNumber_previous (h : d.IsValid) : d.previous.dayNumber = d.dayNumber - 1 := by
  obtain ⟨-, -, hfirst, hlast, hone, hday⟩ := h
  unfold Date.previous
  split
  · simp only [dayNumber_eq, dayOfYear]
    omega
  have hstart : d.day = 1 := by omega
  split
  · have hmonth := daysBeforeMonth_succ d.year (d.month - 1)
    rw [Nat.sub_add_cancel hfirst] at hmonth
    simp only [dayNumber_eq, dayOfYear, hstart, hmonth]
    omega
  · have hmonth : d.month = 1 := by omega
    have hyear := daysBeforeYear_succ (d.year - 1)
    rw [Int.sub_add_cancel, daysBeforeMonth_succ] at hyear
    simp only [dayNumber_eq, dayOfYear, hstart, hmonth, hyear]
    simp [daysBeforeMonth, daysInMonth]

end Date

end Postulate.Calendar
