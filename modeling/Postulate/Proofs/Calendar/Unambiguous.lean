import Mathlib.Data.List.Nodup
import Postulate.Conversion
import Postulate.Proofs.Calendar.Plain

/-!
# No two usual formats read the same text

The formats that need no mention are plain, and they differ in how many slashes, colons and letters
`T` they have. A text has as many of these as the format that reads it (`Fits.sharesMarks`), so no
text fits two of them (`Fits.eq`); and a timestamp, with a colon or a letter `Z` more than any of
them, fits none.

So it does not matter in which order the usual formats are tried, nor that those for a date and time
are tried for a date as well: they would have made a date and time of every text that they make a
date of. The main result is `dateTimeExact_usual`.
-/

namespace Postulate.Calendar

open Postulate.Text

/-- The formats that need no mention. -/
def usualFormats : List String := dateTimeFormats ++ dateFormats

/-- The text can be taken apart by the format. What it says need not be a date. -/
def Fits (format : String) (text : List Char) : Prop :=
  ∃ items fields, Format.ofText? format = some items ∧ items.read text = some fields

lemma isPlain_of_mem_usualFormats : ∀ format ∈ usualFormats,
    ∀ items ∈ Format.ofText? format, items.IsPlain := by
  decide

lemma tellsTime_of_mem_dateTimeFormats : ∀ format ∈ dateTimeFormats,
    ∀ items ∈ Format.ofText? format, items.TellsTime := by
  decide

lemma halfDay_not_mem_of_mem_dateFormats : ∀ format ∈ dateFormats,
    ∀ items ∈ Format.ofText? format, .halfDay ∉ items.fields := by
  decide

/-- How many slashes, letters `T` and colons a format has. -/
def markCounts (format : String) : Option (List Nat) :=
  (Format.ofText? format).map fun items => ['/', 'T', ':'].map fun c => items.count (.literal c)

lemma nodup_map_markCounts : (usualFormats.map markCounts).Nodup := by
  decide

/-- The text has the marks that the format has, and each of them as often. -/
def SharesMarks (format : String) (text : List Char) : Prop :=
  ∃ items, Format.ofText? format = some items ∧
    ∀ c, IsMark c → text.count c = items.count (.literal c)

lemma Fits.sharesMarks {format : String} {text : List Char} (hformat : format ∈ usualFormats)
    (h : Fits format text) : SharesMarks format text := by
  obtain ⟨items, fields, hitems, hread⟩ := h
  have hplain := isPlain_of_mem_usualFormats format hformat items hitems
  exact ⟨items, hitems, fun c hc => Format.count_eq_of_read hplain hread hc⟩

lemma SharesMarks.markCounts_eq {format : String} {text : List Char} (h : SharesMarks format text) :
    markCounts format = some (['/', 'T', ':'].map text.count) := by
  obtain ⟨items, hitems, hcount⟩ := h
  have hmark : ∀ c ∈ ['/', 'T', ':'], IsMark c := by
    simp only [List.forall_mem_cons, List.not_mem_nil, false_implies, implies_true]
    decide
  rw [markCounts, hitems, Option.map_some,
    List.map_congr_left fun c hc => (hcount c (hmark c hc)).symm]

/-- No text has the marks of two of the usual formats. -/
lemma SharesMarks.eq {f g : String} {text : List Char} (hf : f ∈ usualFormats)
    (hg : g ∈ usualFormats) (h : SharesMarks f text) (h' : SharesMarks g text) : f = g :=
  List.inj_on_of_nodup_map nodup_map_markCounts hf hg <| by rw [h.markCounts_eq, h'.markCounts_eq]

/-- No text can be taken apart by two of the usual formats. -/
lemma Fits.eq {f g : String} {text : List Char} (hf : f ∈ usualFormats) (hg : g ∈ usualFormats)
    (hfit : Fits f text) (hgit : Fits g text) : f = g :=
  (hfit.sharesMarks hf).eq hf hg (hgit.sharesMarks hg)

/-! ## Timestamps are written otherwise -/

lemma IsMark.count_separator {c : Char} (hc : IsMark c) (hT : c ≠ 'T') (ht : c ≠ 't')
    {text rest : List Char} (h : Timestamp.separator text = some rest) :
    text.count c = rest.count c := by
  cases text with
  | nil => cases h
  | cons d text =>
    obtain ⟨hd, rfl⟩ : (d = 'T' ∨ d = 't' ∨ d = ' ') ∧ text = rest := by
      simpa [Timestamp.separator, or_assoc] using h
    have hspace : c ≠ ' ' := by
      rintro rfl
      exact absurd hc.2.1 (by decide)
    refine List.count_cons_of_ne ?_
    rcases hd with rfl | rfl | rfl
    · exact hT.symm
    · exact ht.symm
    · exact hspace.symm

/-- An offset is a `Z`, or it has a colon. -/
lemma Timestamp.marks_of_offset {text rest : List Char} {minutes : Int}
    (h : offset text = some (minutes, rest)) :
    text.count ':' = rest.count ':' + 1 ∨ 'Z' ∈ text ∨ 'z' ∈ text := by
  have hcolon : IsMark ':' := by decide
  cases text with
  | nil => cases h
  | cons c text =>
    rw [offset] at h
    split at h
    · next hZ =>
      have hc : c = 'Z' ∨ c = 'z' := by simpa using hZ
      exact Or.inr (hc.imp (fun hc => by simp [hc]) fun hc => by simp [hc])
    · obtain ⟨hsign, h⟩ := Option.ite_none_right_eq_some.1 h
      obtain ⟨⟨_, t₁⟩, hhours, h⟩ := Option.bind_eq_some_iff.1 h
      obtain ⟨t₂, hexpect, h⟩ := Option.bind_eq_some_iff.1 h
      obtain ⟨⟨_, t₃⟩, hminutes, h⟩ := Option.bind_eq_some_iff.1 h
      obtain ⟨-, h⟩ := Option.ite_none_right_eq_some.1 h
      obtain ⟨-, rfl⟩ := Prod.mk.inj (Option.some.inj h)
      have hc : c ≠ ':' := by
        rintro rfl
        exact absurd hsign (by decide)
      left
      rw [List.count_cons_of_ne hc, hcolon.count_fixedNumber hhours,
        expect_eq_some_iff.1 hexpect, List.count_cons_self, hcolon.count_fixedNumber hminutes]

/-- The parts of a timestamp from left to right, and the date and time that they say. -/
inductive Timestamp.ReadsAs : List Char → DateTime → Prop
  | mk {text t₁ t₂ t₃ t₄ t₅ t₆ t₇ : List Char} (zone : List Char)
      {year month day hour minute second nanosecond : Nat} {minutes : Int} {date : Date} {time : Time}
      (year_read : fixedNumber 4 text = some (year, '-' :: t₁))
      (month_read : fixedNumber 2 t₁ = some (month, '-' :: t₂))
      (day_read : fixedNumber 2 t₂ = some (day, t₃))
      (separator_read : separator t₃ = some t₄)
      (hour_read : fixedNumber 2 t₄ = some (hour, ':' :: t₅))
      (minute_read : fixedNumber 2 t₅ = some (minute, ':' :: t₆))
      (second_read : fixedNumber 2 t₆ = some (second, t₇))
      (fraction_read : fraction t₇ = some (nanosecond, zone))
      (offset_read : offset zone = some (minutes, []))
      (date_made : Date.of? year month day = some date)
      (time_made : Time.of? hour minute second nanosecond = some time) :
      ReadsAs text ((DateTime.mk date time).minusMinutes minutes)

lemma Timestamp.readsAs_of_read {text : List Char} {d : DateTime} (h : read text = some d) :
    ReadsAs text d := by
  obtain ⟨⟨year, _⟩, hyear, h⟩ := Option.bind_eq_some_iff.1 h
  obtain ⟨_, hdash, h⟩ := Option.bind_eq_some_iff.1 h
  obtain ⟨⟨month, _⟩, hmonth, h⟩ := Option.bind_eq_some_iff.1 h
  obtain ⟨_, hdash', h⟩ := Option.bind_eq_some_iff.1 h
  obtain ⟨⟨day, _⟩, hday, h⟩ := Option.bind_eq_some_iff.1 h
  obtain ⟨_, hseparator, h⟩ := Option.bind_eq_some_iff.1 h
  obtain ⟨⟨hour, _⟩, hhour, h⟩ := Option.bind_eq_some_iff.1 h
  obtain ⟨_, hcolon, h⟩ := Option.bind_eq_some_iff.1 h
  obtain ⟨⟨minute, _⟩, hminute, h⟩ := Option.bind_eq_some_iff.1 h
  obtain ⟨_, hcolon', h⟩ := Option.bind_eq_some_iff.1 h
  obtain ⟨⟨second, _⟩, hsecond, h⟩ := Option.bind_eq_some_iff.1 h
  obtain ⟨⟨nanosecond, _⟩, hfraction, h⟩ := Option.bind_eq_some_iff.1 h
  obtain ⟨⟨minutes, rest⟩, hoffset, h⟩ := Option.bind_eq_some_iff.1 h
  obtain ⟨hend, h⟩ := Option.ite_none_left_eq_some.1 h
  obtain ⟨date, hdate, h⟩ := Option.bind_eq_some_iff.1 h
  obtain ⟨time, htime, h⟩ := Option.bind_eq_some_iff.1 h
  obtain rfl := Option.some.inj h
  obtain rfl : rest = [] := by simpa using hend
  obtain rfl := expect_eq_some_iff.1 hdash
  obtain rfl := expect_eq_some_iff.1 hdash'
  obtain rfl := expect_eq_some_iff.1 hcolon
  obtain rfl := expect_eq_some_iff.1 hcolon'
  exact .mk _ hyear hmonth hday hseparator hhour hminute hsecond hfraction hoffset hdate htime

/-- A timestamp has two colons in its time, and in its offset a third one or a `Z`. -/
lemma Timestamp.marks_of_read {text : List Char} {d : DateTime} (h : read text = some d) :
    text.count ':' = 3 ∨ 'Z' ∈ text ∨ 'z' ∈ text := by
  obtain ⟨zone, hyear, hmonth, hday, hseparator, hhour, hminute, hsecond, hfraction, hoffset, -, -⟩ :=
    readsAs_of_read h
  have hbefore : ∀ c, IsMark c → c ≠ 'T' → c ≠ 't' →
      text.count c = [':', ':'].count c + zone.count c := by
    intro c hc hT ht
    rw [hc.count_fixedNumber hyear, List.count_cons_of_ne hc.2.2.1.symm,
      hc.count_fixedNumber hmonth, List.count_cons_of_ne hc.2.2.1.symm,
      hc.count_fixedNumber hday, hc.count_separator hT ht hseparator,
      hc.count_fixedNumber hhour, List.count_cons, hc.count_fixedNumber hminute, List.count_cons,
      hc.count_fixedNumber hsecond, hc.count_fraction hfraction]
    simp only [List.count_cons, List.count_nil]
    omega
  rcases marks_of_offset hoffset with hthird | hZ | hz
  · left
    rw [hbefore ':' (by decide) (by decide) (by decide), hthird]
    rfl
  · right; left
    rw [← List.count_pos_iff, hbefore 'Z' (by decide) (by decide) (by decide)]
    exact Nat.add_pos_right _ (List.count_pos_iff.2 hZ)
  · right; right
    rw [← List.count_pos_iff, hbefore 'z' (by decide) (by decide) (by decide)]
    exact Nat.add_pos_right _ (List.count_pos_iff.2 hz)

lemma markCounts_of_mem_usualFormats : ∀ format ∈ usualFormats,
    ∀ items ∈ Format.ofText? format, items.count (.literal ':') ≤ 2 ∧
      items.count (.literal 'Z') = 0 ∧ items.count (.literal 'z') = 0 := by
  decide

lemma SharesMarks.timestamp_read_eq_none {format : String} {text : List Char}
    (hformat : format ∈ usualFormats) (h : SharesMarks format text) :
    Timestamp.read text = none := by
  obtain ⟨items, hitems, hcount⟩ := h
  obtain ⟨hcolon, hZ, hz⟩ := markCounts_of_mem_usualFormats format hformat items hitems
  rw [← hcount _ (by decide)] at hcolon hZ hz
  refine Option.eq_none_iff_forall_ne_some.2 fun d hd => ?_
  rcases Timestamp.marks_of_read hd with h | h | h
  · omega
  · exact List.count_eq_zero.1 hZ h
  · exact List.count_eq_zero.1 hz h

lemma Fits.timestamp_read_eq_none {format : String} {text : List Char}
    (hformat : format ∈ usualFormats) (h : Fits format text) : Timestamp.read text = none :=
  (h.sharesMarks hformat).timestamp_read_eq_none hformat

/-! ## One result, whatever the order -/

/-- A format that does not fit a text reads nothing from it. -/
lemma read_eq_none_of_not_fits {format : String} {text : List Char} (h : ¬Fits format text) :
    readDateTimeBy format text = none ∧ readDateBy format text = none := by
  cases hitems : Format.ofText? format with
  | none => simp [readDateTimeBy, readDateBy, hitems]
  | some items =>
    cases hread : items.read text with
    | none => simp [readDateTimeBy, readDateBy, hitems, hread]
    | some fields => exact absurd ⟨items, fields, hitems, hread⟩ h

/-- A usual format with a time that makes no date and time of a text makes no date of it either. -/
lemma readDateBy_eq_none_of_readDateTimeBy {format : String} (hformat : format ∈ dateTimeFormats)
    {text : List Char} (h : readDateTimeBy format text = none) : readDateBy format text = none := by
  refine Option.eq_none_iff_forall_ne_some.2 fun d hd => ?_
  obtain ⟨items, hitems, hd⟩ := Option.bind_eq_some_iff.1 hd
  obtain ⟨fields, hread, hdate⟩ := Option.bind_eq_some_iff.1 hd
  have hplain := isPlain_of_mem_usualFormats format (List.mem_append_left _ hformat) items hitems
  have htells := tellsTime_of_mem_dateTimeFormats format hformat items hitems
  obtain ⟨time, htime⟩ := Format.exists_time?_of_read hplain htells hread
  simp [readDateTimeBy, hitems, hread, Fields.dateTime?, hdate, htime] at h

/-- A usual format without a time makes no date and time. -/
lemma readDateTimeBy_eq_none_of_mem_dateFormats {format : String} (hformat : format ∈ dateFormats)
    (text : List Char) : readDateTimeBy format text = none := by
  refine Option.eq_none_iff_forall_ne_some.2 fun d hd => ?_
  obtain ⟨items, hitems, hd⟩ := Option.bind_eq_some_iff.1 hd
  obtain ⟨fields, hread, hd⟩ := Option.bind_eq_some_iff.1 hd
  obtain ⟨date, -, hd⟩ := Option.bind_eq_some_iff.1 hd
  obtain ⟨time, htime, -⟩ := Option.bind_eq_some_iff.1 hd
  have hplain := isPlain_of_mem_usualFormats format (List.mem_append_right _ hformat) items hitems
  have hhalf := halfDay_not_mem_of_mem_dateFormats format hformat items hitems
  rw [Format.time?_eq_none_of_read hplain hhalf hread] at htime
  cases htime

/-- What a single format makes of a text: a date and time, or else a date at midnight. -/
def readBy (format : String) (text : List Char) : Option DateTime :=
  (readDateTimeBy format text).or <|
    (readDateBy format text).map fun date => ⟨date, Time.midnight⟩

lemma findSome?_eq_ite {α β : Type} [DecidableEq α] {l : List α} {g : α → Option β} {a : α}
    (h : ∀ b ∈ l, b ≠ a → g b = none) : l.findSome? g = if a ∈ l then g a else none := by
  induction l with
  | nil => rfl
  | cons b l ih =>
    have htail := ih fun c hc => h c (List.mem_cons_of_mem b hc)
    by_cases hb : b = a
    · subst hb
      cases hg : g b <;> simp [hg, htail]
    · simp [h b (by simp) hb, htail, Ne.symm hb]

section

variable {dateTimes dates : List String} {text : List Char}

/-- Formats of which none fits read nothing. -/
lemma readByFormats_eq_none (h : ∀ format ∈ dateTimes ++ dates, ¬Fits format text) :
    readByFormats dateTimes dates text = none := by
  simp only [readByFormats, Option.or_eq_none_iff, List.findSome?_eq_none_iff,
    Option.map_eq_none_iff]
  exact ⟨fun f hf => (read_eq_none_of_not_fits (h f (List.mem_append_left _ hf))).1,
    fun f hf => (read_eq_none_of_not_fits (h f (List.mem_append_right _ hf))).2⟩

/-- The usual formats, in any order and with those for a date and time also taken for a date, make
of a text what the one of them makes whose marks it has. -/
lemma SharesMarks.readByFormats_eq_readBy (hdateTimes : dateTimeFormats ⊆ dateTimes)
    (hdateTimes' : dateTimes ⊆ usualFormats) (hdates : dateFormats ⊆ dates)
    (hdates' : dates ⊆ usualFormats) {format : String} (hformat : format ∈ usualFormats)
    (h : SharesMarks format text) : readByFormats dateTimes dates text = readBy format text := by
  have hother : ∀ g ∈ usualFormats, g ≠ format → ¬Fits g text := fun g hg hne hfits =>
    hne ((hfits.sharesMarks hg).eq hg hformat h)
  have hdateTime : (if format ∈ dateTimes then readDateTimeBy format text else none) =
      readDateTimeBy format text := by
    split
    · rfl
    · next hnot =>
      have hdate : format ∈ dateFormats :=
        (List.mem_append.1 hformat).resolve_left fun hmem => hnot (hdateTimes hmem)
      rw [readDateTimeBy_eq_none_of_mem_dateFormats hdate]
  rw [readByFormats, readBy,
    findSome?_eq_ite (a := format) fun g hg hne =>
      (read_eq_none_of_not_fits (hother g (hdateTimes' hg) hne)).1,
    findSome?_eq_ite (a := format) fun g hg hne => by
      rw [(read_eq_none_of_not_fits (hother g (hdates' hg) hne)).2, Option.map_none],
    hdateTime]
  split
  · rfl
  · next hnot =>
    -- the format is not tried for a date, so it has a time
    have hmem : format ∈ dateTimeFormats :=
      (List.mem_append.1 hformat).resolve_right fun hmem => hnot (hdates hmem)
    cases hread : readDateTimeBy format text with
    | none => rw [readDateBy_eq_none_of_readDateTimeBy hmem hread, Option.map_none]
    | some d => rfl

lemma readByFormats_eq_readBy (hdateTimes : dateTimeFormats ⊆ dateTimes)
    (hdateTimes' : dateTimes ⊆ usualFormats) (hdates : dateFormats ⊆ dates)
    (hdates' : dates ⊆ usualFormats) {format : String} (hformat : format ∈ usualFormats)
    (h : Fits format text) : readByFormats dateTimes dates text = readBy format text :=
  (h.sharesMarks hformat).readByFormats_eq_readBy hdateTimes hdateTimes' hdates hdates' hformat

lemma readByFormats_usual (hdateTimes : dateTimeFormats ⊆ dateTimes)
    (hdateTimes' : dateTimes ⊆ usualFormats) (hdates : dateFormats ⊆ dates)
    (hdates' : dates ⊆ usualFormats) :
    readByFormats dateTimes dates text = readByFormats dateTimeFormats dateFormats text := by
  by_cases h : ∃ format ∈ usualFormats, Fits format text
  · obtain ⟨format, hformat, hfits⟩ := h
    rw [readByFormats_eq_readBy hdateTimes hdateTimes' hdates hdates' hformat hfits,
      readByFormats_eq_readBy (List.Subset.refl _) (List.subset_append_left _ _)
        (List.Subset.refl _) (List.subset_append_right _ _) hformat hfits]
  · have hnone : ∀ format ∈ usualFormats, ¬Fits format text := fun f hf hfits =>
      h ⟨f, hf, hfits⟩
    rw [readByFormats_eq_none hnone, readByFormats_eq_none]
    intro f hf
    rcases List.mem_append.1 hf with hf | hf
    · exact hnone f (hdateTimes' hf)
    · exact hnone f (hdates' hf)

/-- No timestamp comes before the format whose marks the text has. -/
lemma SharesMarks.readDateTime_eq {format : String} (hformat : format ∈ usualFormats)
    (h : SharesMarks format text) : readDateTime text = readBy format text := by
  rw [readDateTime, h.timestamp_read_eq_none hformat, Option.none_or]
  exact h.readByFormats_eq_readBy (List.Subset.refl _) (List.subset_append_left _ _)
    (List.Subset.refl _) (List.subset_append_right _ _) hformat

lemma readByFormats_eq_none_of_timestamp {d : DateTime} (h : Timestamp.read text = some d) :
    readByFormats dateTimeFormats dateFormats text = none := by
  refine readByFormats_eq_none fun format hformat hfits => ?_
  rw [hfits.timestamp_read_eq_none hformat] at h
  cases h

lemma readDateTimeExact_usual {formats : List String} (h : formats.Perm usualFormats) :
    readDateTimeExact formats text = readByFormats dateTimeFormats dateFormats text := by
  have hne : formats ≠ [] := by
    rintro rfl
    exact absurd h.length_eq (by decide)
  rw [readDateTimeExact, if_neg (by simpa using hne)]
  exact readByFormats_usual (List.Subset.trans (List.subset_append_left _ _) h.symm.subset)
    h.subset (List.Subset.trans (List.subset_append_right _ _) h.symm.subset) h.subset

end

/-- No text fits two of the usual formats. Given to a conversion in any order, they read a text as
the conversion without formats does exactly when it is no timestamp: both fail, or both give the
same date and time. Nor does the order matter in which the conversion without formats tries them. -/
theorem dateTimeExact_usual {formats : List String} (h : formats.Perm usualFormats)
    (text : String) :
    (∀ f ∈ formats, ∀ g ∈ formats, Fits f (trim text.toList) → Fits g (trim text.toList) → f = g) ∧
    ((Conversion.dateTimeExact formats).convert text = Conversion.dateTime.convert text ↔
      Timestamp.read (trim text.toList) = none) ∧
    ∀ dateTimes dates, dateTimes.Perm dateTimeFormats → dates.Perm dateFormats →
      readByFormats dateTimes dates (trim text.toList) =
        readByFormats dateTimeFormats dateFormats (trim text.toList) := by
  refine ⟨fun f hf g hg hfit hgit => hfit.eq (h.subset hf) (h.subset hg) hgit, ?_, ?_⟩
  · have hexact : (Conversion.dateTimeExact formats).read (trim text.toList) =
        readByFormats dateTimeFormats dateFormats (trim text.toList) := readDateTimeExact_usual h
    have husual : Conversion.dateTime.read (trim text.toList) =
        (Timestamp.read (trim text.toList)).or
          (readByFormats dateTimeFormats dateFormats (trim text.toList)) := rfl
    constructor
    · intro hsame
      refine Option.eq_none_iff_forall_ne_some.2 fun d hd => ?_
      have hne : trim text.toList ≠ [] := by
        intro hnil
        rw [hnil] at hd
        cases hd
      have hok : Conversion.dateTime.convert text = .ok d :=
        Conversion.convert_eq_ok_iff.2 ⟨hne, by rw [husual, hd, Option.some_or]⟩
      obtain ⟨-, hread⟩ := Conversion.convert_eq_ok_iff.1 (hsame.trans hok)
      rw [hexact, readByFormats_eq_none_of_timestamp hd] at hread
      cases hread
    · intro hnone
      rw [hnone, Option.none_or, ← hexact] at husual
      simp only [Conversion.convert, Conversion.value?, husual, Conversion.target]
  · intro dateTimes dates hdateTimes hdates
    exact readByFormats_usual hdateTimes.symm.subset
      (List.Subset.trans hdateTimes.subset (List.subset_append_left _ _)) hdates.symm.subset
      (List.Subset.trans hdates.subset (List.subset_append_right _ _))

/-- The month before the day, read by the usual formats from the last to the first. -/
theorem dateTimeExact_usual_reverse :
    Conversion.dateTime.convert " 05/17/2013 10:30" = .ok ⟨⟨2013, 5, 17⟩, ⟨10, 30, 0, 0⟩⟩ ∧
      (Conversion.dateTimeExact usualFormats.reverse).convert " 05/17/2013 10:30" =
        Conversion.dateTime.convert " 05/17/2013 10:30" :=
  ⟨by decide, (dateTimeExact_usual (List.reverse_perm usualFormats) _).2.1.2 (by decide)⟩

end Postulate.Calendar
