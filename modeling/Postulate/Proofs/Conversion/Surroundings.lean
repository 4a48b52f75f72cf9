import Mathlib.Tactic.Lemma
import Postulate.TextCheck

/-!
# White space around a text

A conversion reads what is left of a text without the white space at its two ends, so two texts of
which the same is left are read alike (`Conversion.value?_congr`). Only an error tells them apart:
it shows the text as it was given.

The main result is `convert_surrounded`. For every conversion, the one by given formats with any
formats, white space put around a text changes neither whether the text can be read nor the value,
nor the answer of the text check; the error names the text with all the white space around it; and a
text of white space alone is never read.
-/

namespace Postulate

open Postulate.Text

namespace Conversion

variable {t : ValueType} {conversion : Conversion t} {text text' : String}

/-- Texts are read alike when the same is left of them without the white space at their ends. -/
lemma value?_congr (conversion : Conversion t) (h : trim text.toList = trim text'.toList) :
    conversion.value? text = conversion.value? text' := by
  simp only [value?, h]

/-- A conversion fails on the same texts, too, but the error shows which text it was. -/
lemma convert_eq_error_congr (h : conversion.value? text = conversion.value? text')
    (e : ConversionError) :
    conversion.convert text = .error e ↔
      (∃ e', conversion.convert text' = .error e') ∧ e = ⟨text, conversion.target⟩ := by
  simp only [convert, h]
  cases conversion.value? text' <;> simp [eq_comm]

/-- A blank text is not read. -/
lemma value?_eq_none_of_blank (conversion : Conversion t)
    (h : ∀ c ∈ text.toList, isWhiteSpace c = true) : conversion.value? text = none := by
  have hempty : trim text.toList = [] := by
    have hblank := isBlank_iff.2 h
    rwa [isBlank, List.isEmpty_iff] at hblank
  simp [value?, hempty]

/-- What the conversion makes of a text does not depend on the white space that is around it in
another text, but for the error. -/
structure ReadsThrough (conversion : Conversion t) (text surrounded : String) : Prop where
  /-- The same value is read. -/
  ok_iff (value : t.Carrier) :
    conversion.convert surrounded = .ok value ↔ conversion.convert text = .ok value
  /-- Where nothing is read, the error names the whole text and what it should have been. -/
  error_iff (e : ConversionError) :
    conversion.convert surrounded = .error e ↔
      (∃ e', conversion.convert text = .error e') ∧ e = ⟨surrounded, conversion.target⟩
  passes_eq : conversion.textCheck.passes surrounded = conversion.textCheck.passes text

lemma readsThrough_of_value?_eq (h : conversion.value? text' = conversion.value? text) :
    conversion.ReadsThrough text text' where
  ok_iff value := by
    simp only [convert, h]
    cases conversion.value? text <;> simp
  error_iff := convert_eq_error_congr h
  passes_eq := by
    simp only [passes_textCheck, convert, h]
    cases conversion.value? text <;> rfl

end Conversion

/-- White space around a text does not matter to any conversion and its text check, except that the
error shows it; and white space alone is not read. -/
theorem convert_surrounded {t : ValueType} (conversion : Conversion t) :
    (∀ text front back : String, (∀ c ∈ front.toList, isWhiteSpace c = true) →
      (∀ c ∈ back.toList, isWhiteSpace c = true) →
        conversion.ReadsThrough text (front ++ text ++ back)) ∧
    ∀ blank : String, (∀ c ∈ blank.toList, isWhiteSpace c = true) →
      conversion.convert blank = .error ⟨blank, conversion.target⟩ ∧
        conversion.textCheck.passes blank = false := by
  constructor
  · intro text front back hfront hback
    refine Conversion.readsThrough_of_value?_eq (conversion.value?_congr ?_)
    rw [String.toList_append, String.toList_append, trim_append_append hfront hback]
  · intro blank hblank
    have hfails : conversion.convert blank = .error ⟨blank, conversion.target⟩ := by
      rw [Conversion.convert, conversion.value?_eq_none_of_blank hblank]
    exact ⟨hfails, by rw [Conversion.passes_textCheck, hfails]; rfl⟩

/-- A wide space in front and a line end behind: a day is read through them, a day that does not
exist is refused with them, and alone they are no decimal. -/
theorem convert_surrounded_wide :
    (Conversion.dateTimeExact ["%d.%m.%Y"]).convert "\u200317.05.2013\u0085" =
      .ok ⟨⟨2013, 5, 17⟩, Calendar.Time.midnight⟩ ∧
    (Conversion.dateTimeExact ["%d.%m.%Y"]).convert "\u200331.02.2013\u0085" =
      .error ⟨"\u200331.02.2013\u0085", "date-time"⟩ ∧
    Conversion.decimal.convert "\u2003\u0085" = .error ⟨"\u2003\u0085", "decimal"⟩ := by
  have hfront : ∀ c ∈ "\u2003".toList, isWhiteSpace c = true := List.all_eq_true.1 (by decide)
  have hback : ∀ c ∈ "\u0085".toList, isWhiteSpace c = true := List.all_eq_true.1 (by decide)
  have hday := (convert_surrounded (.dateTimeExact ["%d.%m.%Y"])).1
  have hmissing : (Conversion.dateTimeExact ["%d.%m.%Y"]).convert "31.02.2013" =
      .error ⟨"31.02.2013", "date-time"⟩ := rfl
  exact ⟨((hday "17.05.2013" _ _ hfront hback).ok_iff _).2 rfl,
    ((hday "31.02.2013" _ _ hfront hback).error_iff _).2 ⟨⟨_, hmissing⟩, rfl⟩,
    ((convert_surrounded .decimal).2 "\u2003\u0085" (List.all_eq_true.1 (by decide))).1⟩

/-- The check of email addresses reads no value, and white space matters to it. -/
example : TextCheck.isEmail.passes "a@b.de" = true ∧ TextCheck.isEmail.passes " a@b.de" = false := by
  decide

end Postulate
