import Mathlib.Tactic.IntervalCases
import Postulate.Proofs.Calendar.RoundTrip
import Postulate.TextCheck

/-!
# A day in numbers and in writing

Whether there is such a day can be asked of three numbers (`isDate`) or of a text that has them
written out (`WritesDay`), which goes through every usual format. Here it is shown that the answers
are the same, and that both are the one of the Gregorian calendar (`IsDay`).

A text that no format could have written for want of such a day has the marks of its format all the
same (`Format.Writes.sharesMarks`), so that no other format and no timestamp comes into question;
and whatever is recorded from it is what was written (`Format.Writes.agrees_of_readFrom`), so that
the date is resolved from the three numbers. The main result is `isDate_written`.
-/

namespace Postulate.Calendar

open Postulate.Text

/-! ## The Gregorian calendar -/

/-- Every fourth year is a leap year, but of the centuries only every fourth. -/
def IsLeap (year : Int) : Prop := 4 ∣ year ∧ ¬100 ∣ year ∨ 400 ∣ year

instance (year : Int) : Decidable (IsLeap year) := by unfold IsLeap; infer_instance

/-- The lengths of the months from January on. -/
def monthLengths (year : Int) : List Nat :=
  [31, if IsLeap year then 29 else 28, 31, 30, 31, 30, 31, 31, 30, 31, 30, 31]

/-- The numbers are a day of the calendar. -/
structure IsDay (day month : Nat) (year : Int) : Prop where
  year_range : -262143 ≤ year ∧ year ≤ 262142
  month_range : 1 ≤ month ∧ month ≤ 12
  day_pos : 1 ≤ day
  day_le : ∃ length ∈ (monthLengths year)[month - 1]?, day ≤ length

lemma isLeapYear_iff {year : Int} : isLeapYear year = true ↔ IsLeap year := by
  simp only [isLeapYear, IsLeap, decide_eq_true_eq]
  omega

lemma monthLengths_getElem? {year : Int} {month : Nat} (h : 1 ≤ month ∧ month ≤ 12) :
    (monthLengths year)[month - 1]? = some (daysInMonth year month) := by
  obtain ⟨hfirst, hlast⟩ := h
  interval_cases month
  case «2» => simp [monthLengths, daysInMonth, isLeapYear_iff]
  all_goals rfl

theorem isDate_iff_isDay {day month : Nat} {year : Int} :
    isDate day month year = true ↔ IsDay day month year := by
  rw [isDate_iff]
  constructor
  · rintro ⟨hmin, hmax, hfirst, hlast, hone, hlength⟩
    exact ⟨⟨hmin, hmax⟩, ⟨hfirst, hlast⟩, hone, _, monthLengths_getElem? ⟨hfirst, hlast⟩, hlength⟩
  · rintro ⟨⟨hmin, hmax⟩, hmonth, hone, length, hmem, hlength⟩
    obtain rfl := Option.some.inj ((monthLengths_getElem? hmonth).symm.trans hmem)
    exact ⟨hmin, hmax, hmonth.1, hmonth.2, hone, hlength⟩

/-! ## The marks of what is written -/

section

variable {d : DateTime} {c : Char} {text : List Char}

lemma IsMark.count_digits (hc : IsMark c) {digits : List Char}
    (h : ∀ d ∈ digits, d.isDigit = true) : digits.count c = 0 := by
  simpa using hc.count_digits_append h []

lemma NumberItem.Spells.count_eq_zero (hc : IsMark c) {item : NumberItem} {value : Int}
    (h : item.Spells value text) : text.count c = 0 := by
  obtain ⟨-, -, hminus, hplus, -⟩ := id hc
  cases h with
  | padded => exact hc.count_digits isDigit_of_mem_numeral
  | minus => rw [List.count_cons_of_ne hminus.symm, hc.count_digits isDigit_of_mem_numeral]
  | plus => rw [List.count_cons_of_ne hplus.symm, hc.count_digits isDigit_of_mem_numeral]

lemma FormatItem.Writes.count_eq (hc : IsMark c) {item : FormatItem} (h : item.Writes d text) :
    text.count c = [item].count (.literal c) := by
  cases h with
  | literal c' => simp [List.count_cons]
  | space =>
    have hspace : ' ' ≠ c := by
      rintro rfl
      exact absurd hc.2.1 (by decide)
    simp [List.count_cons_of_ne hspace]
  | number _ spells => simp [spells.count_eq_zero hc]
  | noFraction => rfl
  | fraction =>
    simp [List.count_cons_of_ne hc.2.2.2.2.symm, hc.count_digits isDigit_of_mem_numeral]

lemma Format.Writes.count_eq (hc : IsMark c) {items : Format} (h : items.Writes d text) :
    text.count c = items.count (.literal c) := by
  induction h with
  | nil => rfl
  | @cons item format front rest item_writes _ ih =>
    rw [List.count_append, item_writes.count_eq hc, ih, ← List.count_append, List.singleton_append]

/-- What a format writes has its marks, whether or not it can be read again. -/
lemma Format.Writes.sharesMarks {format : String} {items : Format}
    (hitems : ofText? format = some items) (h : items.Writes d text) : SharesMarks format text :=
  ⟨items, hitems, fun _ hc => h.count_eq hc⟩

end

/-! ## What is written of no day -/

section

variable {d : DateTime} {fields fields' : Fields}

lemma DateTime.Agrees.of_put (h : d.Agrees fields) {f : Field} {value : Int}
    (hf : d.field? f = some value) (hput : fields.put f value = some fields') :
    d.Agrees fields' := by
  obtain ⟨_, hput', hagrees⟩ := h.put hf
  obtain rfl := Option.some.inj (hput'.symm.trans hput)
  exact hagrees

lemma NumberItem.agrees_of_store (h : d.Agrees fields) {item : NumberItem} {value : Int}
    (hvalue : item.value? d = some value) (hstore : item.store value fields = some fields') :
    d.Agrees fields' := by
  cases item <;> cases hvalue
  case year => exact h.of_put rfl hstore
  case hour =>
    obtain ⟨between, hhalf, hhour⟩ := Option.bind_eq_some_iff.1 hstore
    obtain ⟨-, hhalf⟩ := Option.ite_none_right_eq_some.1 hhalf
    exact (h.of_put rfl hhalf).of_put rfl hhour
  all_goals
    obtain ⟨-, hput⟩ := Option.ite_none_right_eq_some.1 hstore
    exact h.of_put rfl hput

/-- An item takes at most what it writes, and records nothing else. -/
lemma FormatItem.Writes.agrees_of_read {item : FormatItem} (hitem : item ≠ .fraction)
    {text rest rest' : List Char} (h : item.Writes d text) (hrest : item.Ends rest)
    (hfields : d.Agrees fields) (hread : item.read fields (text ++ rest) = some (fields', rest')) :
    rest' = rest ∧ d.Agrees fields' := by
  cases h with
  | literal c =>
    obtain ⟨rfl, htext⟩ := read_literal_eq_some_iff.1 hread
    exact ⟨(List.cons.inj htext).2.symm, hfields⟩
  | space =>
    obtain ⟨rfl, rfl⟩ := Prod.mk.inj (Option.some.inj hread)
    exact ⟨trimStart_space_cons hrest, hfields⟩
  | number value_eq spells =>
    obtain ⟨value, hscan, hstore⟩ := read_number_eq_some_iff.1 hread
    rw [trimStart_eq_self_iff.2 (spells.startsBare rest), spells.scan hrest] at hscan
    obtain ⟨rfl, rfl⟩ := Prod.mk.inj (Option.some.inj hscan)
    exact ⟨rfl, NumberItem.agrees_of_store hfields value_eq hstore⟩
  | noFraction | fraction => exact absurd rfl hitem

/-- Where a format without a fraction reads what it writes, it records what was written. -/
lemma Format.Writes.agrees_of_readFrom {format : Format} {text : List Char}
    (h : format.Writes d text) (hfraction : .fraction ∉ format)
    (hseparated : format.IsSeparated = true) (hfields : d.Agrees fields)
    (hread : Format.readFrom fields format text = some fields') : d.Agrees fields' := by
  induction h generalizing fields with
  | nil =>
    obtain rfl := Option.some.inj hread
    exact hfields
  | cons item_writes format_writes ih =>
    obtain ⟨hends, hformat, -⟩ := isSeparated_cons hseparated
    obtain ⟨hitem, hmore⟩ := not_or.1 (mt List.mem_cons.2 hfraction)
    obtain ⟨⟨between, rest'⟩, hitem_read, hrest_read⟩ := Option.bind_eq_some_iff.1 hread
    obtain ⟨rfl, hbetween⟩ := item_writes.agrees_of_read (Ne.symm hitem)
      (FormatItem.ends_of_endsBefore hends format_writes) hfields hitem_read
    exact ih hmore hformat hbetween hrest_read

end

/-! ## Reading a written day -/

section

variable {format : String} {items : Format} {date : Date} {text : List Char}

/-- A format for a date makes of what it writes the date, if there is such a day. -/
lemma readBy_of_writes_date (hformat : format ∈ dateFormats)
    (hitems : Format.ofText? format = some items) (h : items.Writes ⟨date, Time.midnight⟩ text) :
    readBy format text =
      (Date.of? date.year date.month date.day).map fun date => ⟨date, Time.midnight⟩ := by
  have husual : format ∈ usualFormats := List.mem_append_right _ hformat
  by_cases hdate : date.IsValid
  · have hmade : Date.of? date.year date.month date.day = some date := if_pos hdate
    have hmidnight : Time.midnight.IsValid := by decide
    have hexpresses : items.Expresses ⟨date, Time.midnight⟩ :=
      ⟨fun _ => rfl, fun _ => rfl, fun _ => rfl, fun _ => rfl⟩
    rw [hmade, (readBy_of_writes husual hitems ⟨hdate, hmidnight⟩ hexpresses h).2, Option.map_some]
  · have hmade : Date.of? date.year date.month date.day = none := if_neg hdate
    rw [hmade, readBy, readDateTimeBy_eq_none_of_mem_dateFormats hformat, Option.none_or]
    refine Option.map_eq_none_iff.2 (Option.eq_none_iff_forall_ne_some.2 fun day hday => ?_)
    obtain ⟨items', hitems', hday⟩ := Option.bind_eq_some_iff.1 hday
    obtain ⟨fields, hread, hday⟩ := Option.bind_eq_some_iff.1 hday
    obtain rfl := Option.some.inj (hitems'.symm.trans hitems)
    have hplain := isPlain_of_mem_usualFormats format husual items' hitems
    obtain ⟨hseparated, -, -, hyear, hmonth, hday'⟩ :=
      isWellMade_of_mem_usualFormats format husual items' hitems
    obtain ⟨-, -, -, hfraction⟩ := lacksTime_of_mem_dateFormats format hformat items' hitems
    have hagrees := h.agrees_of_readFrom hfraction hseparated (DateTime.agrees_none _) hread
    have hrecorded : ∀ {number : NumberItem}, .number number ∈ items' → ∀ f ∈ number.fields,
        fields f ≠ none := fun hnumber f hf => Format.ne_none_of_read hplain hread hnumber hf
    rw [hagrees.date?_eq (hrecorded hyear _ (by decide)) (hrecorded hmonth _ (by decide))
      (hrecorded hday' _ (by decide)), hmade] at hday
    cases hday

lemma value?_of_writes_date (hformat : format ∈ dateFormats)
    (hitems : Format.ofText? format = some items) (h : items.Writes ⟨date, Time.midnight⟩ text) :
    Conversion.dateTime.value? (String.ofList text) =
      (Date.of? date.year date.month date.day).map fun date => ⟨date, Time.midnight⟩ := by
  have husual : format ∈ usualFormats := List.mem_append_right _ hformat
  obtain ⟨hseparated, hstarts, -⟩ := isWellMade_of_mem_usualFormats format husual items hitems
  obtain ⟨hne, hbare⟩ := h.startsBare hstarts
  have htrim : trim (String.ofList text).toList = text := by
    rw [String.toList_ofList, trim_eq_self hbare (h.endsBare hseparated)]
  have hread : readDateTime text = readBy format text :=
    (h.sharesMarks hitems).readDateTime_eq husual
  simp only [Conversion.value?, htrim]
  rw [if_neg (by simpa using hne), ← readBy_of_writes_date hformat hitems h, ← hread]
  rfl

end

/-- A day is written with two figures for the month and for the day, and with four for the year or
with a sign and any figures; from the year to the day, or with the month first and the year last. -/
inductive WritesDay (day month : Nat) (year : Int) : List Char → Prop
  | yearFirst {figures : List Char} (year_spells : NumberItem.year.Spells year figures) :
      WritesDay day month year (figures ++ '-' :: (numeral 2 month ++ '-' :: numeral 2 day))
  | monthFirst {figures : List Char} (year_spells : NumberItem.year.Spells year figures) :
      WritesDay day month year (numeral 2 month ++ '/' :: (numeral 2 day ++ '/' :: figures))

/-- A written day is what one of the usual formats for a date writes. -/
lemma WritesDay.exists_writes {day month : Nat} {year : Int} {text : List Char}
    (h : WritesDay day month year text) (hday : day < 100) (hmonth : month < 100) :
    ∃ format ∈ dateFormats, ∃ items, Format.ofText? format = some items ∧
      items.Writes ⟨⟨year, month, day⟩, Time.midnight⟩ text := by
  let d : DateTime := ⟨⟨year, month, day⟩, Time.midnight⟩
  have two : ∀ {item : NumberItem} {n : Nat}, item.value? d = some n → item.width = 2 → n < 100 →
      (FormatItem.number item).Writes d (numeral 2 n) := fun hvalue hwidth hn =>
    .number hvalue (hwidth ▸ .padded (by rwa [hwidth]))
  have hmonth_writes : (FormatItem.number .month).Writes d (numeral 2 month) := two rfl rfl hmonth
  have hday_writes : (FormatItem.number .day).Writes d (numeral 2 day) := two rfl rfl hday
  cases h with
  | @yearFirst figures year_spells =>
    refine ⟨"%Y-%m-%d", by decide, Format.isoDate, by decide, ?_⟩
    have hwrites : Format.isoDate.Writes d
        (figures ++ (['-'] ++ (numeral 2 month ++ (['-'] ++ (numeral 2 day ++ []))))) :=
      .cons (.number rfl year_spells) <| .cons (.literal '-') <| .cons hmonth_writes <|
        .cons (.literal '-') <| .cons hday_writes .nil
    simpa using hwrites
  | @monthFirst figures year_spells =>
    refine ⟨"%m/%d/%Y", by decide,
      [.number .month, .literal '/', .number .day, .literal '/', .number .year], by decide, ?_⟩
    have hwrites : Format.Writes d _
        (numeral 2 month ++ (['/'] ++ (numeral 2 day ++ (['/'] ++ (figures ++ []))))) :=
      .cons hmonth_writes <| .cons (.literal '/') <| .cons hday_writes <|
        .cons (.literal '/') <| .cons (.number rfl year_spells) .nil
    simpa using hwrites

/-- Three numbers are a date exactly if they are a day of the Gregorian calendar. Every year can be
written. Written with two figures for the month and for the day, in either order, the numbers pass
as a date and time exactly if they are a date, and are then read as midnight of it. -/
theorem isDate_written (day month : Nat) (year : Int) :
    (isDate day month year = true ↔ IsDay day month year) ∧
    (∃ figures, NumberItem.year.Spells year figures) ∧
    (day < 100 → month < 100 → ∀ text, WritesDay day month year text →
      (isDate day month year = true ↔ TextCheck.isDateTime.passes (String.ofList text) = true) ∧
      (isDate day month year = true → Conversion.dateTime.convert (String.ofList text) =
        .ok ⟨⟨year, month, day⟩, Time.midnight⟩)) := by
  refine ⟨isDate_iff_isDay, NumberItem.exists_year_spells year, ?_⟩
  intro hday hmonth text htext
  obtain ⟨format, hformat, items, hitems, hwrites⟩ := htext.exists_writes hday hmonth
  have hvalue := value?_of_writes_date hformat hitems hwrites
  constructor
  · rw [TextCheck.passes, Conversion.accepts, hvalue, Option.isSome_map]
    rfl
  · intro hdate
    have hmade : Date.of? year month day = some ⟨year, month, day⟩ := if_pos (isDate_iff.1 hdate)
    simp only [Conversion.convert, hvalue, hmade, Option.map_some]

/-- The year −4 was a leap year, and there is no 31 April in any year. -/
theorem isDate_written_february :
    IsDay 29 2 (-4) ∧
    Conversion.dateTime.convert "-0004-02-29" = .ok ⟨⟨-4, 2, 29⟩, Time.midnight⟩ ∧
    TextCheck.isDateTime.passes "04/31/2013" = false := by
  obtain ⟨hday, -, hwritten⟩ := isDate_written 29 2 (-4)
  obtain ⟨-, -, hwritten'⟩ := isDate_written 31 4 2013
  have hdate : isDate 29 2 (-4) = true := by decide
  have htext : WritesDay 29 2 (-4) "-0004-02-29".toList :=
    .yearFirst (@NumberItem.Spells.minus 4 4 (by decide) (by decide))
  have htext' : WritesDay 31 4 2013 "04/31/2013".toList :=
    .monthFirst (@NumberItem.Spells.padded .year 2013 (by decide))
  refine ⟨hday.1 hdate, (hwritten (by decide) (by decide) _ htext).2 hdate, ?_⟩
  have hnot : ¬isDate 31 4 2013 = true := by decide
  exact Bool.eq_false_iff.2 (mt (hwritten' (by decide) (by decide) _ htext').1.2 hnot)

end Postulate.Calendar
