import Postulate.Proofs.Calendar.FormatLists
import Postulate.Proofs.Calendar.Instant

/-!
# From fields to a real date and time

Whatever a text says under a format, each field that is recorded has a value in its range
(`Format.inRange_of_ofText?`): items of every kind see to that, and a format asks for no fraction of
more than nine digits. Dates and times of day are resolved from such fields by several routes, and
all of them end in a check of the calendar or of the clock. So what comes out is real, and it has
every field that was recorded, also those that the route did not use (`Fields.has_of_date?`,
`Fields.has_of_time?`): contradictory fields are refused.

A timestamp has its own route. It shows a real local time, and moving that back by the offset does
not leave the calendar. The main result is `convert_dateTime_real`, with `ComesFrom` for where a
result comes from.
-/

namespace Postulate.Calendar

open Postulate.Text

/-! ## What a format records -/

/-- Every recorded field has a value in its range. -/
def Fields.InRange (fields : Fields) : Prop := ∀ f value, fields f = some value → f.InRange value

lemma Fields.inRange_none : Fields.none.InRange := by
  rintro f value ⟨⟩

lemma Fields.Gains.inRange {named : List Field} {fields fields' : Fields}
    (h : Gains named fields fields') (hfields : fields.InRange) : fields'.InRange := by
  intro f value hvalue
  rcases h f with hsame | ⟨-, v, hv, hrange⟩
  · exact hfields f value (hsame ▸ hvalue)
  · rw [hvalue, Option.some.injEq] at hv
    exact hv ▸ hrange

/-- Fractions of a fixed length have at most nine digits. -/
def FormatItem.HasNanoseconds : FormatItem → Prop
  | .pointedFraction digits | .bareFraction digits => digits ≤ 9
  | _ => True

lemma scanName_lt {names : List (List Char × List Char)} {long : Bool} {text rest : List Char}
    {index : Nat} (h : scanName names long text = some (index, rest)) : index < names.length := by
  obtain ⟨⟨⟨short, more⟩, i⟩, hmem, hword⟩ := List.exists_of_findSome?_eq_some h
  obtain ⟨after, -, heq⟩ := Option.map_eq_some_iff.1 hword
  obtain ⟨rfl, -⟩ := Prod.mk.inj heq
  simpa using List.snd_lt_add_of_mem_zipIdx hmem

lemma scanFraction_lt {count : Nat} (hcount : count ≤ 9) {text rest : List Char} {value : Nat}
    (h : scanFraction count text = some (value, rest)) : value < 10 ^ 9 := by
  obtain ⟨⟨n, after⟩, hnumber, heq⟩ := Option.map_eq_some_iff.1 h
  obtain ⟨rfl, -⟩ := Prod.mk.inj heq
  obtain ⟨digits, -, rfl, hdigits, rfl⟩ := fixedNumber_eq_some_iff.1 hnumber
  calc digitsValue digits * 10 ^ (9 - digits.length)
      < 10 ^ digits.length * 10 ^ (9 - digits.length) :=
        Nat.mul_lt_mul_of_pos_right (digitsValue_lt hdigits) (Nat.pow_pos (by decide))
    _ = 10 ^ 9 := by rw [← Nat.pow_add, Nat.add_sub_cancel' hcount]

/-- What an item records of a text is in the range of the field, and nothing else changes. -/
lemma FormatItem.gains_of_read {item : FormatItem} (hitem : item.HasNanoseconds)
    {fields fields' : Fields} {text rest : List Char}
    (h : item.read fields text = some (fields', rest)) :
    Fields.Gains item.fields fields fields' := by
  -- most items put one value under one field
  have stored : ∀ {field : Field} {scanned : Option (Int × List Char)},
      (scanned.bind fun taken => (fields.put field taken.1).map fun fields => (fields, taken.2)) =
          some (fields', rest) →
        (∀ value rest, scanned = some (value, rest) → field.InRange value) →
          Fields.Gains [field] fields fields' := by
    intro field scanned h hrange
    obtain ⟨⟨value, after⟩, hscanned, h⟩ := Option.bind_eq_some_iff.1 h
    obtain ⟨_, hput, heq⟩ := Option.map_eq_some_iff.1 h
    obtain ⟨rfl, -⟩ := Prod.mk.inj heq
    exact (Fields.Records.put hput (hrange value after hscanned)).1
  have counted : ∀ {scanned : Option (Nat × List Char)} {value : Int} {rest : List Char},
      scanned.map (fun taken => ((taken.1 : Int), taken.2)) = some (value, rest) →
        ∃ n : Nat, scanned = some (n, rest) ∧ value = n := by
    rintro (_ | ⟨n, after⟩) value rest heq
    · cases heq
    · obtain ⟨rfl, rfl⟩ := Prod.mk.inj (Option.some.inj heq)
      exact ⟨n, rfl, rfl⟩
  cases item with
  | literal | space | number | fraction => exact (read_plain rfl h).2.1
  | monthName long =>
    refine stored h fun value rest heq => ?_
    obtain ⟨⟨index, after⟩, hname, heq⟩ := Option.map_eq_some_iff.1 heq
    obtain ⟨rfl, -⟩ := Prod.mk.inj heq
    have hindex : index < 12 := scanName_lt hname
    exact ⟨by omega, by omega⟩
  | weekdayName long =>
    refine stored h fun value rest heq => ?_
    obtain ⟨index, hname, rfl⟩ := counted heq
    have hindex : index < 7 := scanName_lt hname
    exact ⟨by omega, by omega⟩
  | halfDay =>
    refine stored h fun value rest heq => ?_
    rcases Option.or_eq_some_iff.1 heq with heq | ⟨-, heq⟩ <;>
      obtain ⟨after, -, heq⟩ := Option.map_eq_some_iff.1 heq <;>
      obtain ⟨rfl, -⟩ := Prod.mk.inj heq <;> exact ⟨by decide, by decide⟩
  | pointedFraction count =>
    simp only [read] at h
    split at h
    · refine stored h fun value rest heq => ?_
      obtain ⟨n, hfraction, rfl⟩ := counted heq
      have hn := scanFraction_lt hitem hfraction
      exact ⟨by omega, by omega⟩
    · obtain ⟨rfl, -⟩ := Prod.mk.inj (Option.some.inj h)
      exact .refl _ _
  | bareFraction count =>
    refine stored h fun value rest heq => ?_
    obtain ⟨n, hfraction, rfl⟩ := counted heq
    have hn := scanFraction_lt hitem hfraction
    exact ⟨by omega, by omega⟩
  | offset => exact stored h fun _ _ _ => trivial
  | zoneName =>
    obtain ⟨rfl, -⟩ := Prod.mk.inj (Option.some.inj h)
    exact .refl _ _

namespace Format

lemma inRange_of_readFrom {format : Format} (hformat : ∀ item ∈ format, item.HasNanoseconds)
    {fields fields' : Fields} {text : List Char} (hfields : fields.InRange)
    (h : readFrom fields format text = some fields') : fields'.InRange := by
  induction format generalizing fields text with
  | nil =>
    cases text with
    | nil => exact Option.some.inj h ▸ hfields
    | cons c text => cases h
  | cons item format ih =>
    obtain ⟨⟨between, rest⟩, hitem, hrest⟩ := Option.bind_eq_some_iff.1 h
    have hbetween := (FormatItem.gains_of_read (hformat item (by simp)) hitem).inRange hfields
    exact ih (fun i hi => hformat i (by simp [hi])) hbetween hrest

lemma hasNanoseconds_of_specification? {c : Char} {items : Format}
    (h : specification? c = some items) : ∀ item ∈ items, item.HasNanoseconds := by
  unfold specification? at h
  split at h
  · cases h
    simp [FormatItem.HasNanoseconds]
  · split at h <;> cases h <;>
      simp [FormatItem.HasNanoseconds, isoDate, slashDate, hourMinute, clock, clockFace, full,
        dayMonthYear]

/-- The lengths of fractions that a place in a format has come upon. -/
def Place.HasNanoseconds : Place → Prop
  | .pointDigits count | .digits count => count ≤ 9
  | _ => True

lemma fractionLength?_le {c : Char} {count : Nat} (h : fractionLength? c = some count) :
    count ≤ 9 := by
  unfold fractionLength? at h
  split at h <;> cases h <;> decide

lemma hasNanoseconds_plainItem (c : Char) : (plainItem c).HasNanoseconds := by
  unfold plainItem
  split <;> trivial

lemma hasNanoseconds_of_items? {place : Place} {text : List Char} {items : Format}
    (hplace : place.HasNanoseconds) (h : items? place text = some items) :
    ∀ item ∈ items, item.HasNanoseconds := by
  induction text generalizing place items with
  | nil => cases place <;> cases h; simp
  | cons c rest ih =>
    have added : ∀ {front items : Format}, (items? .outside rest).map (front ++ ·) = some items →
        (∀ item ∈ front, item.HasNanoseconds) → ∀ item ∈ items, item.HasNanoseconds := by
      intro front items h hfront
      obtain ⟨more, hmore, rfl⟩ := Option.map_eq_some_iff.1 h
      exact List.forall_mem_append.2 ⟨hfront, @ih .outside _ trivial hmore⟩
    have addedOne : ∀ {item : FormatItem} {items : Format},
        (items? .outside rest).map (item :: ·) = some items →
          item.HasNanoseconds → ∀ item ∈ items, item.HasNanoseconds :=
      fun {item} _ h hitem => @added [item] _ h (List.forall_mem_singleton.2 hitem)
    cases place with
    | outside =>
      rw [items?] at h
      split at h
      · exact @ih .percent _ trivial h
      · exact addedOne h (hasNanoseconds_plainItem c)
    | percent =>
      rw [items?] at h
      split at h
      · exact @ih .padding _ trivial h
      split at h
      · exact @ih .point _ trivial h
      split at h
      · exact @ih .colon _ trivial h
      split at h
      · next count hcount => exact @ih (.digits count) _ (fractionLength?_le hcount) h
      · obtain ⟨front, hfront, h⟩ := Option.bind_eq_some_iff.1 h
        exact added h (hasNanoseconds_of_specification? hfront)
    | padding =>
      obtain ⟨item, -, h⟩ := Option.bind_eq_some_iff.1 h
      exact addedOne h trivial
    | point =>
      rw [items?] at h
      split at h
      · exact addedOne h trivial
      · obtain ⟨count, hcount, h⟩ := Option.bind_eq_some_iff.1 h
        exact @ih (.pointDigits count) _ (fractionLength?_le hcount) h
    | pointDigits count =>
      obtain ⟨-, h⟩ := Option.ite_none_right_eq_some.1 h
      exact addedOne h hplace
    | digits count =>
      obtain ⟨-, h⟩ := Option.ite_none_right_eq_some.1 h
      exact addedOne h hplace
    | colon =>
      obtain ⟨-, h⟩ := Option.ite_none_right_eq_some.1 h
      exact addedOne h trivial

/-- Every field that a format records has a value in its range. -/
lemma inRange_of_ofText? {format : String} {items : Format} (hitems : ofText? format = some items)
    {text : List Char} {fields : Fields} (h : items.read text = some fields) : fields.InRange :=
  inRange_of_readFrom (@hasNanoseconds_of_items? .outside _ _ trivial hitems) Fields.inRange_none h

end Format

/-! ## From fields to a date -/

/-- The day has the value in the field. Fields of the time of day are no matter of a day. -/
def Date.Has (d : Date) : Field → Int → Prop
  | .year, value => value = d.year
  | .yearOfCentury, value => 0 ≤ d.year ∧ value = d.year % 100
  | .month, value => value = d.month
  | .day, value => value = d.day
  | .dayOfYear, value => value = d.dayOfYear
  | .weekday, value => value = d.weekday
  | _, _ => True

lemma Date.of_ofDayOfYear? {year : Int} {number : Nat} {d : Date}
    (h : ofDayOfYear? year number = some d) :
    d.IsValid ∧ d.year = year ∧ d.dayOfYear = number := by
  obtain ⟨month, hfind, hmade⟩ := Option.bind_eq_some_iff.1 h
  have hbefore : daysBeforeMonth year month < number := by simpa using List.find?_some hfind
  obtain ⟨rfl, hvalid⟩ := of?_eq_some.1 hmade
  exact ⟨hvalid, rfl, Nat.add_sub_cancel' (Nat.le_of_lt hbefore)⟩

namespace Fields

variable {fields : Fields}

/-- The year has the full year and the year of the century that were recorded. -/
lemma of_year? (hfields : fields.InRange) {year : Int} (h : fields.year? = some year) :
    (∀ value, fields .year = some value → value = year) ∧
      ∀ value, fields .yearOfCentury = some value → 0 ≤ year ∧ value = year % 100 := by
  cases hfull : fields .year with
  | none =>
    cases hshort : fields .yearOfCentury with
    | none => simp [year?, hfull, hshort] at h
    | some short =>
      have hrange : 0 ≤ short ∧ short ≤ 99 := hfields _ _ hshort
      simp only [year?, hfull, hshort, Option.some.injEq] at h
      refine ⟨by simp, ?_⟩
      rintro value ⟨⟩
      split at h <;> omega
  | some full =>
    cases hshort : fields .yearOfCentury with
    | none =>
      simp only [year?, hfull, hshort, Option.some.injEq] at h
      simp [h]
    | some short =>
      simp only [year?, hfull, hshort, Option.ite_none_right_eq_some, Option.some.injEq] at h
      obtain ⟨⟨hpositive, hcentury⟩, rfl⟩ := h
      simp [hpositive, hcentury]

/-- The date of the fields is a day of the calendar, and it has every field that was recorded. -/
theorem has_of_date? (hfields : fields.InRange) {d : Date} (h : fields.date? = some d) :
    d.IsValid ∧ ∀ f value, fields f = some value → d.Has f value := by
  obtain ⟨year, hyear, h⟩ := Option.bind_eq_some_iff.1 h
  obtain ⟨hfull, hshort⟩ := of_year? hfields hyear
  -- the fields that a route does not use it compares
  have hroute : d.IsValid ∧ d.year = year ∧ (∀ value, fields .month = some value → value = d.month) ∧
      (∀ value, fields .day = some value → value = d.day) ∧
      (∀ value, fields .dayOfYear = some value → value = d.dayOfYear) ∧
      ∀ value, fields .weekday = some value → value = d.weekday := by
    split at h
    · next month day hmonth hday =>
      obtain ⟨date, hmade, h⟩ := Option.bind_eq_some_iff.1 h
      obtain ⟨⟨hweekday, hnumber⟩, heq⟩ := Option.ite_none_right_eq_some.1 h
      obtain rfl := Option.some.inj heq
      obtain ⟨rfl, hvalid⟩ := Date.of?_eq_some.1 hmade
      obtain ⟨-, -, hfirst, -, hone, -⟩ := id hvalid
      refine ⟨hvalid, rfl, ?_, ?_, allows_iff.1 hnumber, allows_iff.1 hweekday⟩
      · intro value hvalue
        rw [hmonth, Option.some.injEq] at hvalue
        simp only at hfirst ⊢
        omega
      · intro value hvalue
        rw [hday, Option.some.injEq] at hvalue
        simp only at hone ⊢
        omega
    · next number hnumber _ =>
      obtain ⟨date, hmade, h⟩ := Option.bind_eq_some_iff.1 h
      obtain ⟨⟨hweekday, hmonth, hday⟩, heq⟩ := Option.ite_none_right_eq_some.1 h
      obtain rfl := Option.some.inj heq
      obtain ⟨hvalid, hsame, hcount⟩ := Date.of_ofDayOfYear? hmade
      refine ⟨hvalid, hsame, allows_iff.1 hmonth, allows_iff.1 hday, ?_, allows_iff.1 hweekday⟩
      intro value hvalue
      have hrange : 1 ≤ number ∧ number ≤ 366 := hfields _ _ hnumber
      rw [hnumber, Option.some.injEq] at hvalue
      omega
    · cases h
  obtain ⟨hvalid, rfl, hmonth, hday, hnumber, hweekday⟩ := hroute
  refine ⟨hvalid, fun f value hvalue => ?_⟩
  cases f with
  | year => exact hfull value hvalue
  | yearOfCentury => exact hshort value hvalue
  | month => exact hmonth value hvalue
  | day => exact hday value hvalue
  | dayOfYear => exact hnumber value hvalue
  | weekday => exact hweekday value hvalue
  | _ => trivial

end Fields

/-! ## From fields to a time of day -/

/-- The time of day has the value in the field. Fields of the date are no matter of it, and the
distance from UTC is read over. -/
def Time.Has (t : Time) : Field → Int → Prop
  | .halfDay, value => value = (t.hour : Int) / 12
  | .hourOfHalf, value => value = (t.hour : Int) % 12
  | .minute, value => value = t.minute
  | .second, value => value = t.writtenSecond
  | .nanosecond, value => value = t.fraction
  | _, _ => True

/-- A time that can be made is one of the clock, and what is written of it is what it was made
from. -/
lemma Time.of_of? {hour minute second nanosecond : Nat} {t : Time}
    (h : of? hour minute second nanosecond = some t) :
    t.IsValid ∧ t.hour = hour ∧ t.minute = minute ∧ t.writtenSecond = second ∧
      t.fraction = nanosecond := by
  obtain ⟨⟨hhour, hminute, hsecond, hnano⟩, heq⟩ := Option.ite_none_right_eq_some.1 h
  by_cases hleap : second = 60
  · rw [if_pos hleap] at heq
    obtain rfl := Option.some.inj heq
    have hlong : ¬nanosPerSecond + nanosecond < nanosPerSecond := by omega
    have hbound : nanosPerSecond + nanosecond < 2 * nanosPerSecond := by omega
    exact ⟨⟨hhour, hminute, Nat.lt_succ_self 59, Or.inr ⟨rfl, hbound⟩⟩, rfl, rfl,
      (if_neg hlong).trans hleap.symm, (Nat.add_mod_left _ _).trans (Nat.mod_eq_of_lt hnano)⟩
  · rw [if_neg hleap] at heq
    obtain rfl := Option.some.inj heq
    exact ⟨⟨hhour, hminute, Nat.lt_of_le_of_ne hsecond hleap, Or.inl hnano⟩, rfl, rfl,
      if_pos hnano, Nat.mod_eq_of_lt hnano⟩

namespace Fields

variable {fields : Fields}

/-- The time of day of the fields is one of the clock, and it has every field that was recorded. -/
theorem has_of_time? (hfields : fields.InRange) {t : Time} (h : fields.time? = some t) :
    t.IsValid ∧ ∀ f value, fields f = some value → t.Has f value := by
  obtain ⟨half, hhalf, h⟩ := Option.bind_eq_some_iff.1 h
  obtain ⟨hour, hhour, h⟩ := Option.bind_eq_some_iff.1 h
  obtain ⟨minute, hminute, h⟩ := Option.bind_eq_some_iff.1 h
  have hhalf_range : 0 ≤ half ∧ half ≤ 1 := hfields _ _ hhalf
  have hhour_range : 0 ≤ hour ∧ hour ≤ 11 := hfields _ _ hhour
  have hminute_range : 0 ≤ minute ∧ minute ≤ 59 := hfields _ _ hminute
  have hseconds : ∃ second nano : Nat,
      Time.of? (12 * half + hour).toNat minute.toNat second nano = some t ∧
        (∀ value, fields .second = some value → value = second) ∧
        ∀ value, fields .nanosecond = some value → value = nano := by
    cases hsecond : fields .second with
    | none =>
      cases hnano : fields .nanosecond with
      | none =>
        simp only [hsecond, hnano] at h
        exact ⟨0, 0, h, by simp, by simp⟩
      | some nano => simp [hsecond, hnano] at h
    | some second =>
      have hsecond_range : 0 ≤ second ∧ second ≤ 60 := hfields _ _ hsecond
      simp only [hsecond] at h
      refine ⟨_, _, h, fun value hvalue => ?_, fun value hvalue => ?_⟩
      · obtain rfl := Option.some.inj hvalue
        omega
      · have hrange : 0 ≤ value ∧ value ≤ 999999999 := hfields _ _ hvalue
        rw [hvalue, Option.getD_some]
        omega
  obtain ⟨second, nano, hmade, hsecond, hnano⟩ := hseconds
  obtain ⟨hvalid, hhour_eq, hminute_eq, rfl, rfl⟩ := Time.of_of? hmade
  refine ⟨hvalid, fun f value hvalue => ?_⟩
  cases f with
  | halfDay =>
    rw [hhalf, Option.some.injEq] at hvalue
    simp only [Time.Has]
    omega
  | hourOfHalf =>
    rw [hhour, Option.some.injEq] at hvalue
    simp only [Time.Has]
    omega
  | minute =>
    rw [hminute, Option.some.injEq] at hvalue
    simp only [Time.Has]
    omega
  | second => exact hsecond value hvalue
  | nanosecond => exact hnano value hvalue
  | _ => trivial

end Fields

/-! ## Timestamps -/

namespace Timestamp

lemma offset_range {text rest : List Char} {minutes : Int}
    (h : offset text = some (minutes, rest)) : -1440 < minutes ∧ minutes < 1440 := by
  cases text with
  | nil => cases h
  | cons c text =>
    rw [offset] at h
    split at h
    · obtain ⟨rfl, -⟩ := Prod.mk.inj (Option.some.inj h)
      decide
    · obtain ⟨-, h⟩ := Option.ite_none_right_eq_some.1 h
      obtain ⟨⟨hours, t₁⟩, -, h⟩ := Option.bind_eq_some_iff.1 h
      obtain ⟨t₂, -, h⟩ := Option.bind_eq_some_iff.1 h
      obtain ⟨⟨minutes', t₃⟩, -, h⟩ := Option.bind_eq_some_iff.1 h
      obtain ⟨hrange, h⟩ := Option.ite_none_right_eq_some.1 h
      obtain ⟨hvalue, -⟩ := Prod.mk.inj (Option.some.inj h)
      split at hvalue <;> omega

/-- A timestamp shows a local time, and is read as that time without the offset. -/
lemma exists_hasTimestamp_of_read {text : List Char} {d : DateTime} (h : read text = some d) :
    ∃ (shown : DateTime) (offset : Int),
      shown.HasTimestamp offset ∧ d = shown.minusMinutes offset := by
  obtain ⟨_, hyear, -, -, -, -, -, -, -, hoffset, hdate, htime⟩ := readsAs_of_read h
  obtain ⟨digits, -, hlength, hdigits, rfl⟩ := fixedNumber_eq_some_iff.1 hyear
  have hlt : digitsValue digits < 10 ^ 4 := hlength ▸ digitsValue_lt hdigits
  obtain ⟨rfl, hdate⟩ := Date.of?_eq_some.1 hdate
  refine ⟨_, _, ⟨⟨hdate, (Time.of_of? htime).1⟩, ?_, offset_range hoffset⟩, rfl⟩
  constructor <;> simp only <;> omega

/-- A timestamp is read as a real date and time, also where the offset leads into another year. -/
lemma isValid_of_read {text : List Char} {d : DateTime} (h : read text = some d) : d.IsValid := by
  obtain ⟨shown, offset, hshown, rfl⟩ := exists_hasTimestamp_of_read h
  exact hshown.isAfter.1

end Timestamp

/-! ## What a conversion reads -/

/-- The formats that a conversion was given. -/
def givenFormats : Conversion .dateTime → List String
  | .dateTime => []
  | .dateTimeExact formats => formats

/-- The formats that are tried: the given ones, or, if there are none, the usual ones. -/
def triedFormats (usual given : List String) : List String :=
  if given.isEmpty then usual else given

/-- The text can be taken apart by the format, and every field that is recorded then is one that
the result has. -/
def Shows (format : String) (text : List Char) (has : Field → Int → Prop) : Prop :=
  ∃ items fields, Format.ofText? format = some items ∧ items.read text = some fields ∧
    ∀ f value, fields f = some value → has f value

/-- Where a date and time comes from: a timestamp, or the fields of a date and time under a format
that is tried, or, when there are none, midnight of the date that the fields say. -/
inductive ComesFrom (given : List String) (text : List Char) : DateTime → Prop
  | timestamp {d : DateTime} (none_given : given = []) (reads : Timestamp.read text = some d) :
      ComesFrom given text d
  | dateTime {format : String} {d : DateTime} (tried : format ∈ triedFormats dateTimeFormats given)
      (reads : readDateTimeBy format text = some d)
      (shows : Shows format text fun f value => d.date.Has f value ∧ d.time.Has f value) :
      ComesFrom given text d
  | date {format : String} {day : Date}
      (no_dateTime : ∀ f ∈ triedFormats dateTimeFormats given, readDateTimeBy f text = none)
      (tried : format ∈ triedFormats dateFormats given) (reads : readDateBy format text = some day)
      (shows : Shows format text day.Has) : ComesFrom given text ⟨day, Time.midnight⟩

section

variable {given : List String} {format : String} {text : List Char} {d : DateTime} {day : Date}

lemma shows_of_readDateTimeBy (h : readDateTimeBy format text = some d) :
    d.IsValid ∧ Shows format text fun f value => d.date.Has f value ∧ d.time.Has f value := by
  obtain ⟨items, hitems, h⟩ := Option.bind_eq_some_iff.1 h
  obtain ⟨fields, hread, h⟩ := Option.bind_eq_some_iff.1 h
  obtain ⟨date, hdate, h⟩ := Option.bind_eq_some_iff.1 h
  obtain ⟨time, htime, h⟩ := Option.bind_eq_some_iff.1 h
  obtain rfl := Option.some.inj h
  have hfields := Format.inRange_of_ofText? hitems hread
  obtain ⟨hreal, hhas⟩ := Fields.has_of_date? hfields hdate
  obtain ⟨hreal', hhas'⟩ := Fields.has_of_time? hfields htime
  exact ⟨⟨hreal, hreal'⟩, items, fields, hitems, hread,
    fun f value hvalue => ⟨hhas f value hvalue, hhas' f value hvalue⟩⟩

lemma shows_of_readDateBy (h : readDateBy format text = some day) :
    day.IsValid ∧ Shows format text day.Has := by
  obtain ⟨items, hitems, h⟩ := Option.bind_eq_some_iff.1 h
  obtain ⟨fields, hread, hdate⟩ := Option.bind_eq_some_iff.1 h
  obtain ⟨hreal, hhas⟩ := Fields.has_of_date? (Format.inRange_of_ofText? hitems hread) hdate
  exact ⟨hreal, items, fields, hitems, hread, hhas⟩

lemma ReadsBy.comesFrom
    (h : ReadsBy (triedFormats dateTimeFormats given) (triedFormats dateFormats given) text d) :
    d.IsValid ∧ ComesFrom given text d := by
  cases h with
  | dateTime split _ reads =>
    obtain ⟨hreal, hshows⟩ := shows_of_readDateTimeBy reads
    exact ⟨hreal, .dateTime (split ▸ List.mem_append_cons_self) reads hshows⟩
  | date no_dateTime split _ reads =>
    obtain ⟨hreal, hshows⟩ := shows_of_readDateBy reads
    have hmidnight : Time.midnight.IsValid := by decide
    exact ⟨⟨hreal, hmidnight⟩,
      .date no_dateTime (split ▸ List.mem_append_cons_self) reads hshows⟩

lemma comesFrom_of_readDateTimeExact (h : readDateTimeExact given text = some d) :
    d.IsValid ∧ ComesFrom given text d := by
  by_cases hgiven : given = []
  · subst hgiven
    change readDateTime text = some d at h
    rcases Option.or_eq_some_iff.1 h with htimestamp | ⟨-, hformats⟩
    · exact ⟨Timestamp.isValid_of_read htimestamp, .timestamp rfl htimestamp⟩
    · exact @ReadsBy.comesFrom [] _ _ (readByFormats_eq_some_iff.1 hformats)
  · rw [readDateTimeExact_of_ne_nil hgiven] at h
    have htried : ∀ usual, triedFormats usual given = given := fun usual =>
      if_neg (by simpa using hgiven)
    refine ReadsBy.comesFrom ?_
    rw [htried, htried]
    exact readByFormats_eq_some_iff.1 h

end

lemma read_eq_readDateTimeExact (conversion : Conversion .dateTime) (text : List Char) :
    conversion.read text = readDateTimeExact (givenFormats conversion) text := by
  cases conversion <;> rfl

/-- What a conversion to a date and time gives is a day of the calendar and a time of the clock,
whatever the formats are. It is a timestamp, or it has all that the text says under some format, or
it is midnight of a day that has all that the text says under some format, and then no format made
a date and time of the text. -/
theorem convert_dateTime_real {conversion : Conversion .dateTime} {text : String} {d : DateTime}
    (h : conversion.convert text = .ok d) :
    isDate d.date.day d.date.month d.date.year = true ∧
      d.time.hour < 24 ∧ d.time.minute < 60 ∧ d.time.second < 60 ∧
      (d.time.nanosecond < nanosPerSecond ∨
        d.time.second = 59 ∧ d.time.nanosecond < 2 * nanosPerSecond) ∧
      ComesFrom (givenFormats conversion) (trim text.toList) d := by
  obtain ⟨-, hread⟩ := Conversion.convert_eq_ok_iff.1 h
  rw [read_eq_readDateTimeExact] at hread
  obtain ⟨⟨hdate, hhour, hminute, hsecond, hnano⟩, hfrom⟩ := comesFrom_of_readDateTimeExact hread
  exact ⟨isDate_iff.2 hdate, hhour, hminute, hsecond, hnano, hfrom⟩

/-- The day of the week, a year without its century, the number of the day in the year, a clock of
twelve hours and a leap second with a fraction. -/
theorem convert_dateTime_real_leapSecond :
    let format := "%A %d.%m.%y %j %I:%M:%S%.f %p %z"
    let text := "Friday 17.05.13 137 11:59:60.5 pm +0200"
    let d : DateTime := ⟨⟨2013, 5, 17⟩, ⟨23, 59, 59, 1500000000⟩⟩
    (Conversion.dateTimeExact [format]).convert text = .ok d ∧
      isDate 17 5 2013 = true ∧ ComesFrom [format] (trim text.toList) d := by
  intro format text d
  have h : (Conversion.dateTimeExact [format]).convert text = .ok d := by decide
  obtain ⟨hdate, -, -, -, -, hfrom⟩ := convert_dateTime_real h
  exact ⟨h, hdate, hfrom⟩

/-- The 17th of May was no Monday. -/
example : (Conversion.dateTimeExact ["%A %d.%m.%Y"]).value? "Monday 17.05.2013" = none := by
  decide

end Postulate.Calendar
