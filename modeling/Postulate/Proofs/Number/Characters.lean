import Postulate.Proofs.Number.Spelling
import Postulate.Proofs.Text.Digits
import Postulate.Proofs.Text.Letters

/-!
# The characters of written numbers

Written numbers of every kind are made of few characters. Literals need the ASCII digits, the two
signs, the point, and the ASCII letters of exponents and of names (`IsLiteralCharacter`); where
thousands are separated the comma comes to them (`IsNumeralCharacter`).

None of these characters is white space, so that nothing is trimmed off a written number
(`trim_eq_self_of_isNumeralCharacter`), and of the decimal digits of all scripts only those of ASCII
are among them (`IsNumeralCharacter.isDigit`).
-/

namespace Postulate.Number

open Postulate.Text

/-- The characters of numbers without separators. -/
inductive IsLiteralCharacter : Char → Prop
  | digit {c : Char} (isDigit : c.isDigit = true) : IsLiteralCharacter c
  | letter {c : Char} (isAlpha : c.isAlpha = true) : IsLiteralCharacter c
  | sign (s : Sign) : IsLiteralCharacter s.mark
  | point : IsLiteralCharacter '.'

/-- The characters that numbers are written with. -/
inductive IsNumeralCharacter : Char → Prop
  | literal {c : Char} (isLiteral : IsLiteralCharacter c) : IsNumeralCharacter c
  | comma : IsNumeralCharacter ','

lemma toNat_of_isAlpha {c : Char} (h : c.isAlpha = true) : 0x41 ≤ c.toNat ∧ c.toNat ≤ 0x7A := by
  rw [isAlpha_iff, isUpper_iff, isLower_iff] at h
  omega

lemma IsLiteralCharacter.ne_comma {c : Char} (h : IsLiteralCharacter c) : c ≠ ',' := by
  cases h with
  | digit isDigit =>
    rintro rfl
    cases isDigit
  | letter isAlpha =>
    rintro rfl
    cases isAlpha
  | sign s => cases s <;> decide
  | point => decide

namespace IsNumeralCharacter

variable {c : Char}

/-- They are graphic characters of ASCII. -/
lemma toNat_range (h : IsNumeralCharacter c) : 0x21 ≤ c.toNat ∧ c.toNat < 0x7F := by
  rcases h with (h | h | s | _) | _
  · have := toNat_of_isDigit h
    omega
  · have := toNat_of_isAlpha h
    omega
  · cases s <;> decide
  · decide
  · decide

lemma isWhiteSpace_eq_false (h : IsNumeralCharacter c) : isWhiteSpace c = false := by
  have hranges : ∀ range ∈ whiteSpace, range.2 < 0x21 ∨ 0x7F ≤ range.1 := by decide
  by_contra hspace
  rw [Bool.not_eq_false, isWhiteSpace, CodePoints.has_iff] at hspace
  obtain ⟨range, hmem, hrange⟩ := hspace
  have := hranges range hmem
  have := h.toNat_range
  omega

/-- The only decimal digits among them are those of ASCII. -/
lemma isDigit (h : IsNumeralCharacter c) (hnumber : isDecimalNumber c = true) :
    c.isDigit = true := by
  have hranges : ∀ range ∈ decimalNumber, range = (0x30, 0x39) ∨ 0x7F ≤ range.1 := by decide
  obtain ⟨range, hmem, hrange⟩ := CodePoints.has_iff.1 hnumber
  rcases hranges range hmem with rfl | hbeyond
  · exact Char.isDigit_iff_toNat.2 hrange
  · have := h.toNat_range
    omega

end IsNumeralCharacter

/-- Nothing is trimmed off a text of such characters. -/
lemma trim_eq_self_of_isNumeralCharacter {text : List Char}
    (h : ∀ c ∈ text, IsNumeralCharacter c) : trim text = text :=
  trim_eq_self_of_forall fun c hc => (h c hc).isWhiteSpace_eq_false

/-! ## The parts of numbers -/

lemma IsDigits.isLiteralCharacter {digits : List Char} (h : IsDigits digits) {c : Char}
    (hc : c ∈ digits) : IsLiteralCharacter c := .digit (h c hc)

lemma Sign.isLiteralCharacter {sign : Option Sign} {c : Char} (hc : c ∈ Sign.text sign) :
    IsLiteralCharacter c := by
  cases sign with
  | none => cases hc
  | some s =>
    rw [List.mem_singleton.1 hc]
    exact .sign s

/-- The point and the digits behind it, if they are there. -/
lemma isLiteralCharacter_of_mem_pointText {afterPoint : Option (List Char)}
    (h : IsDigits (afterPoint.getD [])) {c : Char}
    (hc : c ∈ Decimal.Spelling.pointText afterPoint) : IsLiteralCharacter c := by
  cases afterPoint with
  | none => cases hc
  | some digits =>
    rcases List.mem_cons.1 hc with rfl | hc
    · exact .point
    · exact h.isLiteralCharacter hc

lemma IsIntegral.isNumeralCharacter {text : List Char} (h : IsIntegral text) {c : Char}
    (hc : c ∈ text) : IsNumeralCharacter c := by
  rcases h.isDigit_or_comma hc with hdigit | rfl
  · exact .literal (.digit hdigit)
  · exact .comma

lemma Decimal.Spelling.isNumeralCharacter (s : Decimal.Spelling) {c : Char} (hc : c ∈ s.text) :
    IsNumeralCharacter c := by
  simp only [text, body, List.mem_append] at hc
  rcases hc with (hc | hc | hc) | hc
  · exact .literal (Sign.isLiteralCharacter hc)
  · exact s.isIntegral.isNumeralCharacter hc
  · exact .literal (isLiteralCharacter_of_mem_pointText s.isDigits hc)
  · exact .literal (Sign.isLiteralCharacter hc)

end Postulate.Number
