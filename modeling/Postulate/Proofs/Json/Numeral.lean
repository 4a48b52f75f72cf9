import Mathlib.Tactic.Lemma
import Postulate.Json.Token
import Postulate.Proofs.Number.Literal

/-!
# How numbers are spelled in JSON

A number of JSON is perhaps a minus sign, an integer part, perhaps a point with digits after it, and
perhaps an exponent (`Token.IsNumeral`). Digits stand on both sides of the point, and no zero stands
in front of other digits of the integer part. The exponent is that of other floating-point literals.

Every part takes its digits and hands the rest on, and the rest starts with no digit, so the parts
of a number are found again. The main result is `Token.isNumber_iff`: what counts as a number are
exactly the numbers of this grammar. The decimal notation of a natural number is one of them.
-/

namespace Postulate.Json.Token

open Postulate.Text (EndsDigits takeWhile_dropWhile_isDigit_iff)
open Postulate.Number (IsDigits IsExponent)
open Postulate.Number.Decimal.Spelling (pointText)

/-- A number of JSON. -/
inductive IsNumeral : List Char → Prop
  | mk (minus : Bool) {integral exponent : List Char} {afterPoint : Option (List Char)}
      (integral_isDigits : IsDigits integral) (some_digit : integral ≠ [])
      (no_leading_zero : integral.head? = some '0' → integral = ['0'])
      (fraction : ∀ digits ∈ afterPoint, digits ≠ [] ∧ IsDigits digits)
      (isExponent : IsExponent exponent) :
      IsNumeral ((if minus then ['-'] else []) ++
        (integral ++ (pointText afterPoint ++ exponent)))

variable {text rest : List Char} {continues : List Char → Bool}

/-! ## Parts -/

lemma digitsThen_iff : digitsThen continues text = Bool.true ↔
    ∃ digits rest, text = digits ++ rest ∧ digits ≠ [] ∧ IsDigits digits ∧ EndsDigits rest ∧
      continues rest = Bool.true := by
  have hsome : text.head?.any Char.isDigit = Bool.true ↔ text.takeWhile Char.isDigit ≠ [] := by
    cases text with
    | nil => simp
    | cons c rest => by_cases hc : c.isDigit = Bool.true <;> simp [hc]
  rw [digitsThen, Bool.and_eq_true, hsome]
  constructor
  · rintro ⟨hne, hcontinues⟩
    obtain ⟨hsplit, hdigits, hends⟩ := takeWhile_dropWhile_isDigit_iff.mp ⟨rfl, rfl⟩
    exact ⟨_, _, hsplit, hne, hdigits, hends, hcontinues⟩
  · rintro ⟨digits, rest, hsplit, hne, hdigits, hends, hcontinues⟩
    obtain ⟨rfl, rfl⟩ := takeWhile_dropWhile_isDigit_iff.mpr ⟨hsplit, hdigits, hends⟩
    exact ⟨hne, hcontinues⟩

lemma digitsThen_isEmpty_iff :
    digitsThen List.isEmpty text = Bool.true ↔ text ≠ [] ∧ IsDigits text := by
  rw [digitsThen_iff]
  constructor
  · rintro ⟨digits, rest, rfl, hne, hdigits, -, hempty⟩
    obtain rfl : rest = [] := List.isEmpty_iff.mp hempty
    rw [List.append_nil]
    exact ⟨hne, hdigits⟩
  · rintro ⟨hne, hdigits⟩
    exact ⟨text, [], by simp, hne, hdigits, rfl, rfl⟩

lemma isExponent_iff : isExponent text = Bool.true ↔ IsExponent text := by
  have hsign (rest : List Char) :
      (if rest.head?.any fun s => s = '+' || s = '-' then rest.drop 1 else rest) =
        (Postulate.Text.sign rest).2 := by
    fun_cases Postulate.Text.sign rest with
    | case1 => rfl
    | case2 => rfl
    | case3 _ hminus hplus =>
      cases rest with
      | nil => rfl
      | cons c rest =>
        have hc : c ≠ '+' ∧ c ≠ '-' :=
          ⟨fun h => hplus rest (by rw [h]), fun h => hminus rest (by rw [h])⟩
        simp [hc]
  rw [← Number.readExponent_isSome_iff]
  cases text with
  | nil => exact iff_of_true rfl rfl
  | cons c rest =>
    rw [Number.isSome_readExponent_cons, isExponent, hsign, Bool.and_eq_true,
      digitsThen_isEmpty_iff]
    simp

lemma isFraction_iff : isFraction text = Bool.true ↔
    ∃ afterPoint exponent, text = pointText afterPoint ++ exponent ∧
      (∀ digits ∈ afterPoint, digits ≠ [] ∧ IsDigits digits) ∧ IsExponent exponent := by
  constructor
  · intro h
    unfold isFraction at h
    split at h
    case h_1 rest =>
      obtain ⟨digits, exponent, rfl, hne, hdigits, -, hexponent⟩ := digitsThen_iff.mp h
      exact ⟨some digits, exponent, rfl, by simp [hne, hdigits], isExponent_iff.mp hexponent⟩
    case h_2 => exact ⟨none, text, rfl, by simp, isExponent_iff.mp h⟩
  · rintro ⟨afterPoint, exponent, rfl, hfraction, hexponent⟩
    cases afterPoint with
    | none =>
      have hpoint : ∀ rest, exponent ≠ '.' :: rest := by
        rintro rest rfl
        exact hexponent.ends.2 rfl
      change isFraction exponent = Bool.true
      unfold isFraction
      split
      case h_1 rest => exact absurd rfl (hpoint rest)
      case h_2 => exact isExponent_iff.mpr hexponent
    | some digits =>
      obtain ⟨hne, hdigits⟩ := hfraction digits rfl
      exact digitsThen_iff.mpr
        ⟨digits, exponent, rfl, hne, hdigits, hexponent.ends.1, isExponent_iff.mpr hexponent⟩

/-! ## Numbers -/

/-- Behind the sign, a number is an integer part and what may follow it. -/
lemma isNumber_iff_of_unsigned (h : text.head? ≠ some '-') : isNumber text = Bool.true ↔
    ∃ integral tail, text = integral ++ tail ∧ integral ≠ [] ∧ IsDigits integral ∧
      (integral.head? = some '0' → integral = ['0']) ∧ isFraction tail = Bool.true := by
  rw [isNumber, if_neg h]
  -- a zero in front is the whole integer part; otherwise the part is all the digits
  split
  case h_1 rest =>
    constructor
    · exact fun hrest => ⟨['0'], rest, rfl, by simp, by simp [IsDigits], fun _ => rfl, hrest⟩
    · rintro ⟨integral, tail, hsplit, hne, -, hzero, htail⟩
      obtain ⟨c, more, rfl⟩ := List.exists_cons_of_ne_nil hne
      obtain ⟨rfl, hrest⟩ := List.cons.inj hsplit
      obtain ⟨-, rfl⟩ := List.cons.inj (hzero rfl)
      rwa [hrest]
  case h_2 hzero =>
    rw [digitsThen_iff]
    constructor
    · rintro ⟨digits, tail, rfl, hne, hdigits, -, htail⟩
      refine ⟨digits, tail, rfl, hne, hdigits, fun hhead => ?_, htail⟩
      obtain ⟨c, more, rfl⟩ := List.exists_cons_of_ne_nil hne
      obtain rfl : c = '0' := Option.some.inj hhead
      exact absurd rfl (hzero (more ++ tail))
    · rintro ⟨integral, tail, rfl, hne, hdigits, -, htail⟩
      obtain ⟨afterPoint, exponent, rfl, -, hexponent⟩ := isFraction_iff.mp htail
      exact ⟨integral, _, rfl, hne, hdigits,
        (Number.isTail_pointText_append hexponent afterPoint).endsDigits, htail⟩

lemma isNumber_minus_cons (h : text.head? ≠ some '-') :
    isNumber ('-' :: text) = isNumber text := by
  have hsigned : ('-' :: text).head? = some '-' := rfl
  rw [isNumber, if_pos hsigned, isNumber, if_neg h]
  rfl

/-- With or without its sign, a number is unsigned behind it. -/
lemma exists_unsigned (h : isNumber text = Bool.true) : ∃ (minus : Bool) (unsigned : List Char),
    text = (if minus then ['-'] else []) ++ unsigned ∧ unsigned.head? ≠ some '-' ∧
      isNumber unsigned = Bool.true := by
  by_cases hsigned : text.head? = some '-'
  · obtain ⟨rest, rfl⟩ := List.head?_eq_some_iff.mp hsigned
    have hrest : rest.head? ≠ some '-' := by
      intro hrest
      obtain ⟨more, rfl⟩ := List.head?_eq_some_iff.mp hrest
      cases h
    exact ⟨Bool.true, rest, rfl, hrest, by rwa [← isNumber_minus_cons hrest]⟩
  · exact ⟨Bool.false, text, rfl, hsigned, h⟩

lemma head?_append_ne_minus {integral : List Char} (hne : integral ≠ [])
    (hdigits : IsDigits integral) (tail : List Char) : (integral ++ tail).head? ≠ some '-' := by
  obtain ⟨c, more, rfl⟩ := List.exists_cons_of_ne_nil hne
  intro h
  obtain rfl : c = '-' := Option.some.inj h
  exact absurd (hdigits '-' (by simp)) (by decide)

/-- What counts as a number is a number of the grammar. -/
theorem isNumber_iff : isNumber text = Bool.true ↔ IsNumeral text := by
  constructor
  · intro h
    obtain ⟨minus, unsigned, rfl, hunsigned, hnumber⟩ := exists_unsigned h
    obtain ⟨integral, tail, rfl, hne, hdigits, hzero, htail⟩ :=
      (isNumber_iff_of_unsigned hunsigned).mp hnumber
    obtain ⟨afterPoint, exponent, rfl, hfraction, hexponent⟩ := isFraction_iff.mp htail
    exact .mk minus hdigits hne hzero hfraction hexponent
  · rintro @⟨minus, integral, exponent, afterPoint, hdigits, hne, hzero, hfraction, hexponent⟩
    have hhead := head?_append_ne_minus hne hdigits (pointText afterPoint ++ exponent)
    have hnumber := (isNumber_iff_of_unsigned hhead).mpr ⟨_, _, rfl, hne, hdigits, hzero,
      isFraction_iff.mpr ⟨_, _, rfl, hfraction, hexponent⟩⟩
    cases minus with
    | false => exact hnumber
    | true => exact (isNumber_minus_cons hhead).trans hnumber

/-! ## Characters -/

lemma IsNumeral.isNumberCharacter_of_mem (h : IsNumeral text) {c : Char} (hc : c ∈ text) :
    isNumberCharacter c = Bool.true := by
  have hdigit {digits : List Char} (hdigits : IsDigits digits) (hmem : c ∈ digits) :
      isNumberCharacter c = Bool.true := by
    simp [isNumberCharacter, hdigits c hmem]
  rcases h with @⟨minus, integral, exponent, afterPoint, hintegral, -, -, hfraction, hexponent⟩
  simp only [List.mem_append] at hc
  rcases hc with hsign | hintegralPart | hpoint | hexponentPart
  · cases minus with
    | false => cases hsign
    | true =>
      rw [List.mem_singleton.mp hsign]
      rfl
  · exact hdigit hintegral hintegralPart
  · cases afterPoint with
    | none => cases hpoint
    | some digits =>
      rcases List.mem_cons.mp hpoint with hpoint | hdigits
      · rw [hpoint]
        rfl
      · exact hdigit (hfraction digits rfl).2 hdigits
  · rcases hexponent with _ | ⟨hmark, sign, hdigits, -⟩
    · cases hexponentPart
    · simp only [List.mem_cons, List.mem_append] at hexponentPart
      rcases hexponentPart with heq | hsign | hdigitPart
      · rw [heq]
        rcases hmark with hmark | hmark <;> rw [hmark] <;> rfl
      · cases sign with
        | none => cases hsign
        | some sign =>
          rw [List.mem_singleton.mp hsign]
          cases sign <;> rfl
      · exact hdigit hdigits hdigitPart

/-- A number starts with a digit or the minus sign. -/
lemma IsNumeral.exists_eq_cons (h : IsNumeral text) :
    ∃ c more, text = c :: more ∧ (c.isDigit || c = '-') = Bool.true := by
  rcases h with @⟨minus, integral, exponent, afterPoint, hintegral, hne, -, -, -⟩
  cases minus with
  | true => exact ⟨_, _, rfl, rfl⟩
  | false =>
    obtain ⟨c, more, rfl⟩ := List.exists_cons_of_ne_nil hne
    exact ⟨c, _, rfl, by simp [hintegral c (by simp)]⟩

/-! ## Natural numbers -/

/-- No zero stands in front of the decimal notation of another number. -/
lemma head?_toDigits_ne {n : Nat} (h : 0 < n) : (Nat.toDigits 10 n).head? ≠ some '0' := by
  induction n using Nat.strongRecOn with
  | ind n ih =>
    rcases Nat.lt_or_ge n 10 with hlt | hge
    · rw [Nat.toDigits_of_lt_base hlt]
      have hdigit : ∀ k < 10, 0 < k → Nat.digitChar k ≠ '0' := by decide
      simpa using hdigit n hlt h
    · rw [Nat.toDigits_of_base_le (by decide) hge,
        List.head?_append_of_ne_nil _ Nat.toDigits_ne_nil]
      exact ih (n / 10) (by omega) (by omega)

lemma isNumber_toDigits (n : Nat) : isNumber (Nat.toDigits 10 n) = Bool.true := by
  have hdigits : IsDigits (Nat.toDigits 10 n) := fun c hc =>
    Nat.isDigit_of_mem_toDigits (by decide) (by decide) hc
  have hzero : (Nat.toDigits 10 n).head? = some '0' → Nat.toDigits 10 n = ['0'] := by
    intro hhead
    rcases Nat.eq_zero_or_pos n with rfl | hpos
    · rfl
    · exact absurd hhead (head?_toDigits_ne hpos)
  have hnumeral := @IsNumeral.mk Bool.false _ _ none hdigits Nat.toDigits_ne_nil hzero
    (by simp) .absent
  rw [isNumber_iff]
  simpa [pointText] using hnumeral

end Postulate.Json.Token
