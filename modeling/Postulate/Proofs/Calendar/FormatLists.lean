import Postulate.Proofs.Calendar.Unambiguous
import Postulate.TextCheck

/-!
# Reading by a list of formats

A list of formats is gone through twice. First every format is asked for a date and time, and the
first that reads one decides. Only if none does, every format is asked again, for a bare date, and
the first that reads one decides, the time being midnight. `ReadsBy` says this with the list split at
the format that decides, so that it shows which formats had to fail before.

Whether a text is read at all is another matter: it is, if a single format of the list reads it as
one or the other (`readByFormats_isSome_iff`), wherever in the list that format stands. The main
result is `dateTimeExact_formats`. For a list that is not empty it says which texts pass, that
neither order nor repetition nor further formats can make a text fail, which value is read, and that
formats added at the end do not change a date and time that was read in full.
-/

namespace Postulate.Calendar

open Postulate.Text

/-- The formats read a text as a date and time, or, if none of them does, as a date at midnight; the
first that reads it decides. -/
inductive ReadsBy (dateTimes dates : List String) (text : List Char) : DateTime → Prop
  | dateTime {earlier later : List String} {format : String} {d : DateTime}
      (split : dateTimes = earlier ++ format :: later)
      (earlier_fail : ∀ f ∈ earlier, readDateTimeBy f text = none)
      (reads : readDateTimeBy format text = some d) : ReadsBy dateTimes dates text d
  | date {earlier later : List String} {format : String} {day : Date}
      (no_dateTime : ∀ f ∈ dateTimes, readDateTimeBy f text = none)
      (split : dates = earlier ++ format :: later)
      (earlier_fail : ∀ f ∈ earlier, readDateBy f text = none)
      (reads : readDateBy format text = some day) :
      ReadsBy dateTimes dates text ⟨day, Time.midnight⟩

section

variable {dateTimes dates formats more : List String} {text : List Char} {d : DateTime}

theorem readByFormats_eq_some_iff :
    readByFormats dateTimes dates text = some d ↔ ReadsBy dateTimes dates text d := by
  rw [readByFormats, Option.or_eq_some_iff, List.findSome?_eq_some_iff, List.findSome?_eq_none_iff,
    List.findSome?_eq_some_iff]
  constructor
  · rintro (⟨earlier, format, later, split, reads, fail⟩ |
      ⟨no_dateTime, earlier, format, later, split, reads, fail⟩)
    · exact .dateTime split fail reads
    · obtain ⟨day, hday, rfl⟩ := Option.map_eq_some_iff.1 reads
      exact .date no_dateTime split (fun f hf => Option.map_eq_none_iff.1 (fail f hf)) hday
  · rintro (⟨split, fail, reads⟩ | ⟨no_dateTime, split, fail, reads⟩)
    · exact Or.inl ⟨_, _, _, split, reads, fail⟩
    · refine Or.inr ⟨no_dateTime, _, _, _, split, by rw [reads, Option.map_some], fun f hf => ?_⟩
      rw [fail f hf, Option.map_none]

/-- A list of formats reads a text if one of its formats does. -/
theorem readByFormats_isSome_iff :
    (readByFormats formats formats text).isSome = true ↔
      ∃ format ∈ formats, (readBy format text).isSome = true := by
  simp only [readByFormats, readBy, Option.isSome_or, Bool.or_eq_true, List.findSome?_isSome_iff]
  constructor
  · rintro (⟨f, hf, h⟩ | ⟨f, hf, h⟩)
    · exact ⟨f, hf, Or.inl h⟩
    · exact ⟨f, hf, Or.inr h⟩
  · rintro ⟨f, hf, h | h⟩
    · exact Or.inl ⟨f, hf, h⟩
    · exact Or.inr ⟨f, hf, h⟩

/-- A date and time that is read in full is found before the formats at the end are tried. -/
theorem readByFormats_append (h : ∃ format ∈ formats, (readDateTimeBy format text).isSome = true) :
    readByFormats (formats ++ more) (formats ++ more) text = readByFormats formats formats text := by
  have hfound : (formats.findSome? (readDateTimeBy · text)).isSome = true :=
    List.findSome?_isSome_iff.2 h
  obtain ⟨d, hd⟩ := Option.isSome_iff_exists.1 hfound
  simp only [readByFormats, List.findSome?_append, hd, Option.some_or]

lemma readDateTimeExact_of_ne_nil (h : formats ≠ []) :
    readDateTimeExact formats text = readByFormats formats formats text := by
  rw [readDateTimeExact, if_neg (by simpa using h)]

end

/-! ## The conversion by given formats -/

section

variable {formats : List String} {text : String}

lemma convert_exact_eq_ok_iff (h : formats ≠ []) {d : DateTime} :
    (Conversion.dateTimeExact formats).convert text = .ok d ↔
      trim text.toList ≠ [] ∧ ReadsBy formats formats (trim text.toList) d := by
  rw [Conversion.convert_eq_ok_iff, ← readByFormats_eq_some_iff, ← readDateTimeExact_of_ne_nil h]
  rfl

/-- A text passes if one format reads it. -/
lemma passes_isDateTimeExact_iff (h : formats ≠ []) :
    (TextCheck.isDateTimeExact formats).passes text = true ↔
      trim text.toList ≠ [] ∧
        ∃ format ∈ formats, (readBy format (trim text.toList)).isSome = true := by
  rw [TextCheck.passes, Conversion.accepts_iff, ← readByFormats_isSome_iff,
    Option.isSome_iff_exists]
  simp only [convert_exact_eq_ok_iff h, readByFormats_eq_some_iff, exists_and_left]

end

/-- How the formats of a list work together on a text. -/
structure FormatsTogether (formats : List String) (text : String) : Prop where
  /-- To pass is to be read as some date and time. -/
  passes_iff_exists_ok : (TextCheck.isDateTimeExact formats).passes text = true ↔
    ∃ d, (Conversion.dateTimeExact formats).convert text = .ok d
  /-- A text passes if it passes with a single one of the formats. -/
  passes_iff_exists_mem : (TextCheck.isDateTimeExact formats).passes text = true ↔
    ∃ format ∈ formats, (TextCheck.isDateTimeExact [format]).passes text = true
  /-- With further formats it still passes. -/
  passes_of_subset {more : List String} (subset : formats ⊆ more)
    (passes : (TextCheck.isDateTimeExact formats).passes text = true) :
    (TextCheck.isDateTimeExact more).passes text = true
  /-- The same formats in another order, or more than once, pass the same texts. -/
  passes_congr {others : List String} (same : ∀ format, format ∈ others ↔ format ∈ formats) :
    (TextCheck.isDateTimeExact others).passes text = (TextCheck.isDateTimeExact formats).passes text
  /-- The value is the one of the first format that reads a date and time in full, and only without
  such a format midnight of the first date. -/
  ok_iff (d : DateTime) : (Conversion.dateTimeExact formats).convert text = .ok d ↔
    trim text.toList ≠ [] ∧ ReadsBy formats formats (trim text.toList) d
  /-- Formats added at the end are not come to when a format reads a date and time in full. -/
  convert_append (more : List String)
    (in_full : ∃ format ∈ formats, (readDateTimeBy format (trim text.toList)).isSome = true) :
    (Conversion.dateTimeExact (formats ++ more)).convert text =
      (Conversion.dateTimeExact formats).convert text

/-- What a list of formats reads, and what does not depend on the order of its formats. -/
theorem dateTimeExact_formats {formats : List String} (h : formats ≠ []) (text : String) :
    FormatsTogether formats text := by
  have passes_of_subset : ∀ {formats more : List String}, formats ≠ [] → formats ⊆ more →
      (TextCheck.isDateTimeExact formats).passes text = true →
        (TextCheck.isDateTimeExact more).passes text = true := by
    intro formats more h subset passes
    have hmore : more ≠ [] := fun hnil => h (List.subset_nil.1 (hnil ▸ subset))
    rw [passes_isDateTimeExact_iff hmore]
    obtain ⟨hne, format, hformat, hread⟩ := (passes_isDateTimeExact_iff h).1 passes
    exact ⟨hne, format, subset hformat, hread⟩
  constructor
  case passes_iff_exists_ok => exact Conversion.accepts_iff
  case passes_iff_exists_mem =>
    simp only [passes_isDateTimeExact_iff h, passes_isDateTimeExact_iff (List.cons_ne_nil _ []),
      List.mem_singleton, exists_eq_left]
    tauto
  case passes_of_subset => exact passes_of_subset h
  case passes_congr =>
    intro others same
    have hothers : others ≠ [] := by
      rintro rfl
      obtain ⟨format, hformat⟩ := List.exists_mem_of_ne_nil formats h
      cases (same format).2 hformat
    rw [Bool.eq_iff_iff]
    exact ⟨passes_of_subset hothers fun f => (same f).1, passes_of_subset h fun f => (same f).2⟩
  case ok_iff => exact fun d => convert_exact_eq_ok_iff h
  case convert_append =>
    intro more in_full
    have hread : (Conversion.dateTimeExact (formats ++ more)).read (trim text.toList) =
        (Conversion.dateTimeExact formats).read (trim text.toList) := by
      change readDateTimeExact _ _ = readDateTimeExact _ _
      rw [readDateTimeExact_of_ne_nil h, readDateTimeExact_of_ne_nil (by simp [h]),
        readByFormats_append in_full]
    simp only [Conversion.convert, Conversion.value?, hread, Conversion.target]

/-- The first format makes a date of the text and the last another time of day; the one between
them decides. -/
theorem dateTimeExact_formats_between :
    readDateBy "%Y-%m-%d %H:20" "2013-05-17 10:20".toList = some ⟨2013, 5, 17⟩ ∧
    (Conversion.dateTimeExact ["%Y-%m-%d %M:%H"]).convert "2013-05-17 10:20" =
      .ok ⟨⟨2013, 5, 17⟩, ⟨20, 10, 0, 0⟩⟩ ∧
    (Conversion.dateTimeExact (["%Y-%m-%d %H:20", "%Y-%m-%d %H:%M"] ++ ["%Y-%m-%d %M:%H"])).convert
      "2013-05-17 10:20" = .ok ⟨⟨2013, 5, 17⟩, ⟨10, 20, 0, 0⟩⟩ := by
  have h := @dateTimeExact_formats ["%Y-%m-%d %H:20", "%Y-%m-%d %H:%M"] (by decide)
    "2013-05-17 10:20"
  have hvalue := (h.ok_iff ⟨⟨2013, 5, 17⟩, ⟨10, 20, 0, 0⟩⟩).2
    ⟨by decide, @ReadsBy.dateTime _ _ _ ["%Y-%m-%d %H:20"] _ _ _ rfl (by decide) (by decide)⟩
  refine ⟨by decide, by decide, ?_⟩
  rw [h.convert_append _ ⟨"%Y-%m-%d %H:%M", by decide, by decide⟩, hvalue]

/-- The order decides between two readings of a text. -/
example : (Conversion.dateTimeExact ["%d/%m/%Y", "%m/%d/%Y"]).convert "01/02/2013" ≠
    (Conversion.dateTimeExact ["%m/%d/%Y", "%d/%m/%Y"]).convert "01/02/2013" := by
  decide

end Postulate.Calendar
