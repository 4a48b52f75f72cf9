import Postulate.Proofs.Calendar.DayNumber
import Postulate.Proofs.Calendar.RoundTrip

/-!
# One instant, many timestamps

A timestamp shows a local time and how far it is from UTC, so one instant has a timestamp for every
offset. Here an instant is told without any rule of carrying: the minutes of the calendar are
numbered (`DateTime.minuteNumber`), and a local time is so many minutes after the time in UTC when
their numbers differ by that and the seconds are the same (`DateTime.IsAfter`).
`Timestamp.Writes` says how a local time and an offset are written.

Moving a local time back by the offset, over the ends of days, months and years, arrives at the one
time that the local time is after (`DateTime.isAfter_minusMinutes`). The main result is
`convert_timestamp`: every timestamp of an instant is read as the instant in UTC.
-/

namespace Postulate.Calendar

open Postulate.Text

/-! ## Counting minutes -/

namespace DateTime

/-- The number of the minute in the calendar. -/
def minuteNumber (d : DateTime) : Int := 1440 * d.date.dayNumber + d.time.minuteOfDay

/-- The time is so many minutes after the other one, or before it for a negative number. -/
structure IsAfter (later earlier : DateTime) (minutes : Int) : Prop where
  minuteNumber_eq : later.minuteNumber = earlier.minuteNumber + minutes
  second_eq : later.time.second = earlier.time.second
  nanosecond_eq : later.time.nanosecond = earlier.time.nanosecond

variable {a b d : DateTime} {minutes : Int}

lemma IsValid.minuteOfDay_lt (h : d.IsValid) : d.time.minuteOfDay < 1440 := by
  obtain ⟨-, hhour, hminute, -⟩ := h
  rw [Time.minuteOfDay]
  omega

/-- A time is known from the minute it lies in and its seconds. -/
lemma IsValid.eq_of_minuteNumber_eq (ha : a.IsValid) (hb : b.IsValid)
    (hnumber : a.minuteNumber = b.minuteNumber) (hsecond : a.time.second = b.time.second)
    (hnano : a.time.nanosecond = b.time.nanosecond) : a = b := by
  have hlta := ha.minuteOfDay_lt
  have hltb := hb.minuteOfDay_lt
  unfold minuteNumber at hnumber
  have hdate : a.date = b.date := ha.1.eq_of_dayNumber_eq hb.1 (by omega)
  have hclock : a.time.minuteOfDay = b.time.minuteOfDay := by
    rw [hdate] at hnumber
    omega
  obtain ⟨date, hour, minute, second, nanosecond⟩ := a
  obtain ⟨date', hour', minute', second', nanosecond'⟩ := b
  obtain ⟨-, -, hminute, -⟩ := ha
  obtain ⟨-, -, hminute', -⟩ := hb
  simp only [Time.minuteOfDay] at *
  obtain ⟨rfl, rfl⟩ : hour = hour' ∧ minute = minute' := by omega
  simp_all

/-- A time is after one other time only. -/
lemma IsAfter.eq (ha : a.IsValid) (hb : b.IsValid) (h : d.IsAfter a minutes)
    (h' : d.IsAfter b minutes) : a = b := by
  refine ha.eq_of_minuteNumber_eq hb ?_ (h.second_eq.symm.trans h'.second_eq)
    (h.nanosecond_eq.symm.trans h'.nanosecond_eq)
  have hnumber := h.minuteNumber_eq
  have hnumber' := h'.minuteNumber_eq
  omega

lemma minuteOfDay_minusMinutes (d : DateTime) (minutes : Int) :
    ((d.minusMinutes minutes).time.minuteOfDay : Int) =
      (d.time.minuteOfDay - minutes) % 1440 := by
  simp only [minusMinutes, Time.minuteOfDay]
  omega

/-- One day is passed at most, and then the day next to it is the right one. -/
lemma date_minusMinutes (hd : d.IsValid) (hfirst : minYear < d.date.year)
    (hlast : d.date.year < maxYear) (hminutes : -1440 < minutes ∧ minutes < 1440) :
    (d.minusMinutes minutes).date.IsValid ∧ (d.minusMinutes minutes).date.dayNumber =
      d.date.dayNumber + (d.time.minuteOfDay - minutes) / 1440 := by
  have hclock := hd.minuteOfDay_lt
  obtain ⟨hdate, -⟩ := hd
  simp only [minusMinutes]
  split
  · refine ⟨hdate.previous hfirst, ?_⟩
    rw [Date.dayNumber_previous hdate]
    omega
  split
  · refine ⟨hdate.next hlast, ?_⟩
    rw [Date.dayNumber_next hdate]
    omega
  · exact ⟨hdate, by omega⟩

/-- Away from the ends of the calendar, moving back by some minutes, less than a day of them, gives
the time that this one is after. -/
lemma isAfter_minusMinutes (hd : d.IsValid) (hfirst : minYear < d.date.year)
    (hlast : d.date.year < maxYear) (hminutes : -1440 < minutes ∧ minutes < 1440) :
    (d.minusMinutes minutes).IsValid ∧ d.IsAfter (d.minusMinutes minutes) minutes := by
  obtain ⟨hdate, hday⟩ := date_minusMinutes hd hfirst hlast hminutes
  have hclock := minuteOfDay_minusMinutes d minutes
  have hhour : (d.minusMinutes minutes).time.hour < 24 := by
    have hbound : (d.minusMinutes minutes).time.minuteOfDay < 1440 := by omega
    rw [Time.minuteOfDay] at hbound
    omega
  have hminute : (d.minusMinutes minutes).time.minute < 60 := Nat.mod_lt _ (by decide)
  refine ⟨⟨hdate, hhour, hminute, hd.2.2.2⟩, ?_, rfl, rfl⟩
  rw [minuteNumber, minuteNumber, hday, hclock]
  omega

end DateTime

/-! ## How a timestamp is written -/

namespace Timestamp

/-- An offset is written as `Z` when there is none, or as hours and minutes ahead of UTC or behind
it. -/
inductive WritesOffset : Int → List Char → Prop
  | utc {mark : Char} (mark_mem : mark ∈ ['Z', 'z']) : WritesOffset 0 [mark]
  | ahead {minutes : Nat} (minutes_lt : minutes < 1440) :
      WritesOffset minutes ('+' :: (numeral 2 (minutes / 60) ++ ':' :: numeral 2 (minutes % 60)))
  | behind {minutes : Nat} (minutes_lt : minutes < 1440) :
      WritesOffset (-minutes) ('-' :: (numeral 2 (minutes / 60) ++ ':' :: numeral 2 (minutes % 60)))

/-- A local time and its offset are written with all digits of every field, the year with four. -/
inductive Writes (d : DateTime) (minutes : Int) : List Char → Prop
  | mk {year : Nat} {mark : Char} {fraction offset : List Char} (year_eq : d.date.year = year)
      (year_lt : year < 10000) (mark_mem : mark ∈ ['T', 't', ' '])
      (fraction_writes : FormatItem.fraction.Writes d fraction)
      (offset_writes : WritesOffset minutes offset) :
      Writes d minutes <|
        numeral 4 year ++ '-' :: (numeral 2 d.date.month ++ '-' :: (numeral 2 d.date.day ++
          mark :: (numeral 2 d.time.hour ++ ':' :: (numeral 2 d.time.minute ++
            ':' :: (numeral 2 d.time.writtenSecond ++ (fraction ++ offset))))))

variable {d : DateTime} {minutes : Int} {text rest : List Char}

lemma exists_writesOffset (h : -1440 < minutes ∧ minutes < 1440) :
    ∃ text, WritesOffset minutes text := by
  obtain ⟨n, rfl | rfl⟩ := minutes.eq_nat_or_neg
  · exact ⟨_, .ahead (by omega)⟩
  · exact ⟨_, .behind (by omega)⟩

lemma exists_writes (hd : d.IsValid) (hyear : 0 ≤ d.date.year ∧ d.date.year ≤ 9999)
    (hminutes : -1440 < minutes ∧ minutes < 1440) : ∃ text, Writes d minutes text := by
  obtain ⟨fraction, hfraction⟩ : ∃ text, FormatItem.fraction.Writes d text :=
    FormatItem.exists_writes hd rfl
  obtain ⟨offset, hoffset⟩ := exists_writesOffset hminutes
  have hT : 'T' ∈ ['T', 't', ' '] := by decide
  exact ⟨_, .mk (Int.toNat_of_nonneg hyear.1).symm (by omega) hT hfraction hoffset⟩

/-! ## Reading a timestamp -/

lemma offset_of_writesOffset (h : WritesOffset minutes text) :
    offset text = some (minutes, []) := by
  cases h with
  | utc mark_mem =>
    simp only [List.mem_cons, List.not_mem_nil, or_false] at mark_mem
    rcases mark_mem with rfl | rfl <;> rfl
  | @ahead n n_lt | @behind n n_lt =>
    have hours : fixedNumber 2 (numeral 2 (n / 60) ++ ':' :: numeral 2 (n % 60)) =
        some (n / 60, ':' :: numeral 2 (n % 60)) := fixedNumber_numeral (by omega)
    have rest : fixedNumber 2 (numeral 2 (n % 60) ++ []) = some (n % 60, []) :=
      fixedNumber_numeral (by omega)
    rw [List.append_nil] at rest
    simp [offset, isMinus, hours, expect, rest]
    omega

/-- An offset cannot be taken for more of the fraction before it. -/
lemma WritesOffset.ends_fraction (h : WritesOffset minutes text) :
    text.head? ≠ some '.' ∧ EndsDigits text := by
  cases h with
  | utc mark_mem =>
    simp only [List.mem_cons, List.not_mem_nil, or_false] at mark_mem
    rcases mark_mem with rfl | rfl <;> exact ⟨by simp, rfl⟩
  | ahead | behind => exact ⟨by simp, rfl⟩

lemma fraction_of_writes (h : FormatItem.fraction.Writes d text) (hpoint : rest.head? ≠ some '.')
    (hdigits : EndsDigits rest) : fraction (text ++ rest) = some (d.time.fraction, rest) := by
  cases h with
  | noFraction fraction_eq =>
    rw [fraction_eq]
    exact fraction_eq_some_iff.2 (Or.inr ⟨hpoint, rfl, rfl⟩)
  | fraction count_pos count_le fits fraction_eq =>
    rw [← fraction_eq, ← nanoseconds_numeral count_le fits]
    exact fraction_eq_some_iff.2
      (Or.inl ⟨_, rfl, numeral_ne_nil count_pos, isDigit_of_mem_numeral, hdigits, rfl⟩)

lemma separator_cons {mark : Char} (h : mark ∈ ['T', 't', ' ']) :
    separator (mark :: text) = some text := by
  simp only [List.mem_cons, List.not_mem_nil, or_false] at h
  rcases h with rfl | rfl | rfl <;> rfl

/-- A timestamp is read as the local time moved back by the offset. -/
lemma Writes.read (hd : d.IsValid) (h : Writes d minutes text) :
    Timestamp.read text = some (d.minusMinutes minutes) := by
  obtain ⟨year_eq, year_lt, mark_mem, fraction_writes, offset_writes⟩ := h
  have hmonth := hd.1.month_range
  have hday := hd.1.day_range
  have hsecond := hd.2.writtenSecond_le
  obtain ⟨hdate, htime⟩ := hd
  obtain ⟨hhour, hminute, -⟩ := id htime
  have four : ∀ rest, fixedNumber 4 (numeral 4 _ ++ rest) = some (_, rest) := fun _ =>
    fixedNumber_numeral year_lt
  have two : ∀ {n : Nat}, n < 100 → ∀ rest, fixedNumber 2 (numeral 2 n ++ rest) = some (n, rest) :=
    fun h _ => fixedNumber_numeral h
  have mark : ∀ {c : Char} {rest : List Char}, expect c (c :: rest) = some rest :=
    expect_eq_some_iff.2 rfl
  obtain ⟨hpoint, hdigits⟩ := offset_writes.ends_fraction
  have hmade : Date.of? d.date.year d.date.month d.date.day = some d.date := if_pos hdate
  rw [year_eq] at hmade
  refine Option.bind_eq_some_iff.2 ⟨_, four _, ?_⟩
  refine Option.bind_eq_some_iff.2 ⟨_, mark, ?_⟩
  refine Option.bind_eq_some_iff.2 ⟨_, two (by omega) _, ?_⟩
  refine Option.bind_eq_some_iff.2 ⟨_, mark, ?_⟩
  refine Option.bind_eq_some_iff.2 ⟨_, two (by omega) _, ?_⟩
  refine Option.bind_eq_some_iff.2 ⟨_, separator_cons mark_mem, ?_⟩
  refine Option.bind_eq_some_iff.2 ⟨_, two (by omega) _, ?_⟩
  refine Option.bind_eq_some_iff.2 ⟨_, mark, ?_⟩
  refine Option.bind_eq_some_iff.2 ⟨_, two (by omega) _, ?_⟩
  refine Option.bind_eq_some_iff.2 ⟨_, mark, ?_⟩
  refine Option.bind_eq_some_iff.2 ⟨_, two (by omega) _, ?_⟩
  refine Option.bind_eq_some_iff.2 ⟨_, fraction_of_writes fraction_writes hpoint hdigits, ?_⟩
  refine Option.bind_eq_some_iff.2 ⟨_, offset_of_writesOffset offset_writes, ?_⟩
  refine Option.bind_eq_some_iff.2 ⟨_, hmade, ?_⟩
  exact Option.bind_eq_some_iff.2 ⟨_, Time.of?_written htime, rfl⟩

/-! ## No white space at the ends -/

lemma WritesOffset.isWhiteSpace_eq_false (h : WritesOffset minutes text) :
    text ≠ [] ∧ ∀ c ∈ text, isWhiteSpace c = false := by
  cases h with
  | utc mark_mem =>
    simp only [List.mem_cons, List.not_mem_nil, or_false] at mark_mem
    rcases mark_mem with rfl | rfl <;> exact ⟨by simp, List.forall_mem_singleton.2 (by decide)⟩
  | @ahead n | @behind n =>
    have hours : ∀ c ∈ numeral 2 (n / 60), isWhiteSpace c = false := fun c hc =>
      isWhiteSpace_of_isDigit (isDigit_of_mem_numeral c hc)
    have rest : ∀ c ∈ numeral 2 (n % 60), isWhiteSpace c = false := fun c hc =>
      isWhiteSpace_of_isDigit (isDigit_of_mem_numeral c hc)
    refine ⟨by simp, ?_⟩
    simp only [List.forall_mem_cons, List.forall_mem_append]
    exact ⟨by decide, hours, by decide, rest⟩

lemma Writes.startsBare (h : Writes d minutes text) : text ≠ [] ∧ StartsBare text := by
  obtain ⟨_, _, _, _, _⟩ := h
  have hne : ∀ n, numeral 4 n ≠ [] := fun n => numeral_ne_nil (by decide)
  exact ⟨by simp [hne], startsBare_append
    (startsBare_of_forall fun c hc => isWhiteSpace_of_isDigit (isDigit_of_mem_numeral c hc))
    fun h => absurd h (hne _)⟩

lemma Writes.endsBare (h : Writes d minutes text) : StartsBare text.reverse := by
  obtain ⟨_, _, _, _, offset_writes⟩ := h
  obtain ⟨hne, hbare⟩ := offset_writes.isWhiteSpace_eq_false
  -- the offset is the last part of the text
  simp only [List.reverse_append, List.reverse_cons, List.append_assoc]
  exact startsBare_append (startsBare_of_forall fun c hc => hbare c (List.mem_reverse.1 hc))
    fun h => absurd (List.reverse_eq_nil_iff.1 h) hne

end Timestamp

/-! ## Timestamps and instants -/

/-- A local time that a timestamp can show with the offset. -/
structure DateTime.HasTimestamp (shown : DateTime) (offset : Int) : Prop where
  isValid : shown.IsValid
  year_range : 0 ≤ shown.date.year ∧ shown.date.year ≤ 9999
  offset_range : -1440 < offset ∧ offset < 1440

namespace DateTime.HasTimestamp

variable {shown d : DateTime} {offset : Int}

lemma isAfter (h : shown.HasTimestamp offset) :
    (shown.minusMinutes offset).IsValid ∧ shown.IsAfter (shown.minusMinutes offset) offset := by
  have hmin : minYear = -262143 := rfl
  have hmax : maxYear = 262142 := rfl
  have hyear := h.year_range
  exact isAfter_minusMinutes h.isValid (by omega) (by omega) h.offset_range

lemma convert (h : shown.HasTimestamp offset) (hd : d.IsValid) (hafter : shown.IsAfter d offset)
    {text front back : List Char} (hwrites : Timestamp.Writes shown offset text)
    (hfront : ∀ c ∈ front, isWhiteSpace c = true) (hback : ∀ c ∈ back, isWhiteSpace c = true) :
    Conversion.dateTime.convert (String.ofList (front ++ text ++ back)) = .ok d := by
  obtain ⟨hne, hbare⟩ := hwrites.startsBare
  have htrim : trim (String.ofList (front ++ text ++ back)).toList = text := by
    rw [String.toList_ofList, trim_append_append hfront hback, trim_eq_self hbare hwrites.endsBare]
  have hmoved : shown.minusMinutes offset = d := h.isAfter.2.eq h.isAfter.1 hd hafter
  have hread : Timestamp.read text = some d := by rw [hwrites.read h.isValid, hmoved]
  refine Conversion.convert_eq_ok_iff.2 ⟨by rwa [htrim], ?_⟩
  rw [htrim]
  change readDateTime text = some d
  rw [readDateTime, hread, Option.some_or]

end DateTime.HasTimestamp

/-- A local time with an offset has a timestamp, and is so many minutes after some time in UTC.
Every timestamp of it is read as just that time, with any white space around it; and timestamps
whose local times are as far apart as their offsets are read as the same time. -/
theorem convert_timestamp {shown : DateTime} {offset : Int} (h : shown.HasTimestamp offset) :
    (∃ text, Timestamp.Writes shown offset text) ∧
    (∃ d : DateTime, d.IsValid ∧ shown.IsAfter d offset) ∧
    (∀ d : DateTime, d.IsValid → shown.IsAfter d offset →
      ∀ text front back : List Char, Timestamp.Writes shown offset text →
        (∀ c ∈ front, isWhiteSpace c = true) → (∀ c ∈ back, isWhiteSpace c = true) →
        Conversion.dateTime.convert (String.ofList (front ++ text ++ back)) = .ok d) ∧
    ∀ (shown' : DateTime) (offset' : Int), shown'.HasTimestamp offset' →
      shown'.IsAfter shown (offset' - offset) →
      ∀ text text' : List Char, Timestamp.Writes shown offset text →
        Timestamp.Writes shown' offset' text' →
        Conversion.dateTime.convert (String.ofList text') =
          Conversion.dateTime.convert (String.ofList text) := by
  obtain ⟨hutc, hafter⟩ := h.isAfter
  refine ⟨Timestamp.exists_writes h.isValid h.year_range h.offset_range, ⟨_, hutc, hafter⟩, ?_, ?_⟩
  · intro d hd hd' text front back hwrites hfront hback
    exact h.convert hd hd' hwrites hfront hback
  · intro shown' offset' h' hapart text text' hwrites hwrites'
    have hafter' : shown'.IsAfter (shown.minusMinutes offset) offset' := by
      refine ⟨?_, hapart.second_eq.trans hafter.second_eq,
        hapart.nanosecond_eq.trans hafter.nanosecond_eq⟩
      rw [hapart.minuteNumber_eq, hafter.minuteNumber_eq]
      omega
    have hread : Conversion.dateTime.convert (String.ofList ([] ++ text ++ [])) = .ok _ :=
      h.convert hutc hafter hwrites (by simp) (by simp)
    have hread' : Conversion.dateTime.convert (String.ofList ([] ++ text' ++ [])) = .ok _ :=
      h'.convert hutc hafter' hwrites' (by simp) (by simp)
    simp only [List.nil_append, List.append_nil] at hread hread'
    rw [hread, hread']

/-- Just after the start of the year 0, half an hour ahead of UTC: it is the year before there. -/
theorem convert_timestamp_beforeYearZero :
    Conversion.dateTime.convert " 0000-01-01t00:29:59.250+00:30\n" =
        .ok ⟨⟨-1, 12, 31⟩, ⟨23, 59, 59, 250000000⟩⟩ ∧
      Conversion.dateTime.convert "0000-01-01T00:59:59.25+01:00" =
        Conversion.dateTime.convert "0000-01-01t00:29:59.250+00:30" := by
  have h : DateTime.HasTimestamp ⟨⟨0, 1, 1⟩, ⟨0, 29, 59, 250000000⟩⟩ 30 :=
    ⟨by decide, by decide, by decide⟩
  have h' : DateTime.HasTimestamp ⟨⟨0, 1, 1⟩, ⟨0, 59, 59, 250000000⟩⟩ 60 :=
    ⟨by decide, by decide, by decide⟩
  have hwrites : Timestamp.Writes ⟨⟨0, 1, 1⟩, ⟨0, 29, 59, 250000000⟩⟩ 30
      "0000-01-01t00:29:59.250+00:30".toList :=
    @Timestamp.Writes.mk _ _ 0 't' _ _ rfl (by decide) (by decide)
      (@FormatItem.Writes.fraction _ 3 250 (by decide) (by decide) (by decide) (by decide))
      (@Timestamp.WritesOffset.ahead 30 (by decide))
  have hwrites' : Timestamp.Writes ⟨⟨0, 1, 1⟩, ⟨0, 59, 59, 250000000⟩⟩ 60
      "0000-01-01T00:59:59.25+01:00".toList :=
    @Timestamp.Writes.mk _ _ 0 'T' _ _ rfl (by decide) (by decide)
      (@FormatItem.Writes.fraction _ 2 25 (by decide) (by decide) (by decide) (by decide))
      (@Timestamp.WritesOffset.ahead 60 (by decide))
  obtain ⟨-, -, hread, hsame⟩ := convert_timestamp h
  exact ⟨hread ⟨⟨-1, 12, 31⟩, ⟨23, 59, 59, 250000000⟩⟩ (by decide) ⟨by decide, rfl, rfl⟩ _
    [' '] ['\n'] hwrites (List.forall_mem_singleton.2 (by decide))
    (List.forall_mem_singleton.2 (by decide)),
    hsame _ _ h' ⟨by decide, rfl, rfl⟩ _ _ hwrites hwrites'⟩

end Postulate.Calendar
