import Postulate.Proofs.Number.Nearest
import Postulate.Proofs.Number.Separated
import Postulate.Proofs.Number.Whole

/-!
# Digits of other scripts

The forms of separated literals and of decimals are described with digits of every script: taking a
text apart finds them all. What is found is then read by readers that know the digits of ASCII only,
and none of its characters gets past them. Of a separated literal all that is left without the
commas is read as a literal, the characters of which are known; and a decimal is looked at to its
end, behind the digit that rounds it, too (`Decimal.isDigits_of_readFraction`).

The main result is `convert_numeric_ascii`: a text with a digit of another script converts to no
number of any type.
-/

namespace Postulate.Number

open Postulate.Text

/-- What is read as a double consists of the characters of numbers. -/
lemma isNumeralCharacter_of_readDouble {text : List Char} {x : Float}
    (h : readDouble text = some x) {c : Char} (hc : c ∈ text) : IsNumeralCharacter c := by
  refine IsLiteral.isNumeralCharacter_of_removeCommas ?_ hc
  by_cases hcomma : ',' ∈ text
  · obtain ⟨s, -, -, hremoved⟩ := (readDouble_eq_some_iff_of_comma_mem hcomma).1 h
    exact isLiteral_of_readDouble (by simp [removeCommas]) hremoved
  · rw [removeCommas_eq_self hcomma]
    exact isLiteral_of_readDouble hcomma h

variable {t : ValueType} {conversion : Conversion t}

/-- The conversions to numbers. -/
inductive IsNumeric : ∀ {t : ValueType}, Conversion t → Prop
  | int : IsNumeric .int
  | long : IsNumeric .long
  | float : IsNumeric .float
  | double : IsNumeric .double
  | decimal : IsNumeric .decimal

/-- What converts to a number consists of the characters of numbers. -/
lemma IsNumeric.isNumeralCharacter (numeric : IsNumeric conversion) {text : String}
    {value : t.Carrier} (h : conversion.convert text = .ok value) {c : Char}
    (hc : c ∈ trim text.toList) : IsNumeralCharacter c := by
  cases numeric with
  | int =>
    obtain ⟨s, hs, -⟩ := (convert_eq_ok_iff_spelling Integer.isWord_int fun _ => rfl).1 h
    exact .literal (s.isLiteralCharacter (hs ▸ hc))
  | long =>
    obtain ⟨s, hs, -⟩ := (convert_eq_ok_iff_spelling Integer.isWord_long fun _ => rfl).1 h
    exact .literal (s.isLiteralCharacter (hs ▸ hc))
  | float => exact .literal ((exists_convert_float_iff.1 ⟨value, h⟩).isLiteralCharacter hc)
  | double => exact isNumeralCharacter_of_readDouble (convert_double_eq_ok_iff.1 h) hc
  | decimal =>
    obtain ⟨s, hs, -⟩ := convert_decimal_eq_ok_iff.1 h
    exact s.isNumeralCharacter (hs ▸ hc)

/-- Numbers are only ever read from digits of ASCII. With a decimal digit of another script at any
place of a text, white space around it ignored, its conversion to a number of any type is an error;
and a text that converts to a number consists of the characters of numbers, whose only decimal
digits are those of ASCII. -/
theorem convert_numeric_ascii (numeric : IsNumeric conversion) (text : String) :
    (∀ c ∈ trim text.toList, isDecimalNumber c = true → c.isDigit = false →
      conversion.convert text = .error ⟨text, conversion.target⟩) ∧
    ∀ value, conversion.convert text = .ok value → ∀ c ∈ trim text.toList,
      IsNumeralCharacter c ∧ (isDecimalNumber c = true → c.isDigit = true) := by
  have haccepted : ∀ value, conversion.convert text = .ok value → ∀ c ∈ trim text.toList,
      IsNumeralCharacter c ∧ (isDecimalNumber c = true → c.isDigit = true) := by
    intro value h c hc
    have hcharacter := numeric.isNumeralCharacter h hc
    exact ⟨hcharacter, hcharacter.isDigit⟩
  refine ⟨fun c hc hnumber hother => ?_, haccepted⟩
  refine Conversion.convert_eq_error_iff.2 ⟨fun value h => ?_, rfl⟩
  rw [(haccepted value h c hc).2 hnumber] at hother
  cases hother

/-- A digit of another script far behind the digits that a decimal can hold, and one behind a
separator. -/
theorem convert_numeric_ascii_devanagari :
    Conversion.decimal.convert "0.123456789012345678901234567812५" =
      .error ⟨"0.123456789012345678901234567812५", "decimal"⟩ ∧
    Conversion.double.convert " 1,23५.5" = .error ⟨" 1,23५.5", "f64"⟩ ∧
    (∃ x, Conversion.double.convert " 1,234.5" = .ok x) ∧
    ∀ c ∈ "1,234.5".toList, isDecimalNumber c = true → c.isDigit = true := by
  refine ⟨?_, ?_, ?_⟩
  · exact (convert_numeric_ascii .decimal _).1 '५' (by decide) (by decide) (by decide)
  · exact (convert_numeric_ascii .double _).1 '५' (by decide) (by decide) (by decide)
  · obtain ⟨x, hx⟩ : ∃ x, Conversion.double.convert " 1,234.5" = .ok x :=
      exists_convert_double_iff.2 (by decide)
    exact ⟨⟨x, hx⟩, fun c hc => ((convert_numeric_ascii .double _).2 x hx c hc).2⟩

/-- Both texts can be taken apart. The digit of another script stands where no digit counts any more
in the one, and in front of the point in the other. -/
example :
    (Decimal.Written.ofText? "0.12345678901234567890123456781٣".toList).isSome = true ∧
      Decimal.ofText? "0.12345678901234567890123456781٣".toList = none ∧
      (ungroup "1,23५.5".toList).isSome = true ∧ (readDouble "1,23५.5".toList).isNone = true := by
  decide

end Postulate.Number
