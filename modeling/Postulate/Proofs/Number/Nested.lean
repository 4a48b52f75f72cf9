import Postulate.Proofs.Number.Nearest
import Postulate.Proofs.Number.Separated
import Postulate.Proofs.Number.Whole
import Postulate.TextCheck

/-!
# How the checks of numbers include one another

Each type of numbers has its own way of reading, and yet the spellings fit into each other. A
spelled integer is a spelled decimal without a point (`Integer.Spelling.decimal`) and a literal
without a point and without an exponent. A spelled decimal with no sign behind it is a literal, or a
separated literal if there are commas in its integer part.

The main result is `checks_nested`, which puts the inclusions together for any text and says of the
integers that the number stays the same.
-/

namespace Postulate.Number

open Postulate.Text
open Decimal.Spelling (pointText)

variable {text : String}

/-! ## Integers -/

namespace Integer

lemma InWord.of_int {n : ℤ} (h : InWord 32 n) : InWord 64 n := by
  obtain ⟨hlow, hhigh⟩ := h
  constructor <;> norm_num at hlow hhigh ⊢ <;> omega

/-- A minus sign makes no difference to zero. -/
lemma signed_and_ne_zero (negative : Bool) (n : ℕ) :
    signed (negative && n != 0) n = signed negative n := by
  cases negative <;> cases n <;> simp [signed]

namespace Spelling

variable (s : Spelling)

/-- The integer as a decimal without a point. -/
def decimal : Decimal.Spelling where
  leading := s.sign
  integral := s.digits
  afterPoint := none
  trailing := none
  isIntegral := .plain s.isDigits
  isDigits := by simp [IsDigits]
  one_sign := Or.inr rfl
  some_digit := Or.inl s.some_digit

lemma text_decimal : s.decimal.text = s.text := by
  simp [decimal, Decimal.Spelling.text, Decimal.Spelling.body, pointText, text, Sign.text]

lemma isNegative_decimal : s.decimal.isNegative = s.isNegative := Bool.or_false _

/-- An integer of 64 bits is read as a decimal without rounding. -/
lemma exists_ofText? (h : InWord 64 s.value) :
    ∃ d, Decimal.ofText? s.text = some d ∧ d.scale = 0 ∧ d.signedMantissa = s.value := by
  have hbound : digitsValue s.digits < Decimal.mantissaBound := by
    rw [InWord, value, signed] at h
    rw [Decimal.mantissaBound_eq]
    split at h <;> norm_num at h ⊢ <;> omega
  have hplain : removeCommas s.decimal.integral = s.digits :=
    removeCommas_eq_self (comma_notMem_of_isDigits s.isDigits)
  refine ⟨⟨s.isNegative && digitsValue s.digits != 0, digitsValue s.digits, 0⟩, ?_, rfl,
    signed_and_ne_zero _ _⟩
  rw [← s.text_decimal, s.decimal.ofText?_text, hplain, if_neg (not_le.2 hbound),
    isNegative_decimal]
  rfl

end Spelling

end Integer

/-! ## Literals -/

/-- A sign or none, digits, and perhaps a point and digits behind it are a literal. -/
lemma isLiteral_of_isDigits (sign : Option Sign) {integral : List Char}
    {afterPoint : Option (List Char)} (hintegral : IsDigits integral)
    (hfraction : IsDigits (afterPoint.getD []))
    (hsome : integral ≠ [] ∨ afterPoint.getD [] ≠ []) :
    IsLiteral (Sign.text sign ++ (integral ++ pointText afterPoint)) := by
  have hunsigned := IsUnsigned.numeral hintegral hfraction hsome .absent
  rw [List.append_nil] at hunsigned
  exact .mk sign hunsigned

lemma Integer.Spelling.isLiteral (s : Integer.Spelling) : IsLiteral s.text := by
  have h : IsLiteral (Sign.text s.sign ++ (s.digits ++ pointText none)) :=
    isLiteral_of_isDigits s.sign s.isDigits (by simp [IsDigits]) (Or.inl s.some_digit)
  rwa [pointText, List.append_nil] at h

lemma isSome_readDouble_of_isLiteral {text : List Char} (h : IsLiteral text) :
    (readDouble text).isSome = true :=
  readDouble_isSome_iff.2 ⟨text, ungroup_of_comma_notMem h.comma_notMem, h⟩

/-- With the separators of decimals the text is read as a double, too. -/
lemma isSome_readDouble_of_isIntegral (sign : Option Sign) {integral : List Char}
    {afterPoint : Option (List Char)} (hintegral : IsIntegral integral)
    (hfraction : IsDigits (afterPoint.getD []))
    (hsome : integral ≠ [] ∨ afterPoint.getD [] ≠ []) :
    (readDouble (Sign.text sign ++ (integral ++ pointText afterPoint))).isSome = true := by
  rcases isIntegral_iff_isDigits_or_grouping.1 hintegral with hdigits | ⟨g, rfl⟩
  · exact isSome_readDouble_of_isLiteral (isLiteral_of_isDigits sign hdigits hfraction hsome)
  · -- without its commas the text is a literal, and the commas are separators
    have htail := isTail_pointText_append .absent afterPoint
    rw [List.append_nil] at htail
    have hungroup := Separated.ungroup_text ⟨sign, g, _, htail⟩
    exact readDouble_isSome_iff.2 ⟨_, hungroup,
      isLiteral_of_isDigits sign g.isDigits_digits hfraction (Or.inl g.digits_ne_nil)⟩

/-- A decimal with no sign behind it is read as a double. -/
lemma Decimal.Spelling.isSome_readDouble (s : Decimal.Spelling)
    (h : Sign.MissesMark s.text.getLast?) : (readDouble s.text).isSome = true := by
  have hnone : s.trailing = none := by
    cases htrailing : s.trailing with
    | none => rfl
    | some sign => simp [text, htrailing, Sign.text, Sign.MissesMark] at h
  have htext : s.text = Sign.text s.leading ++ (s.integral ++ pointText s.afterPoint) := by
    rw [text, hnone]
    exact List.append_nil _
  rw [htext]
  exact isSome_readDouble_of_isIntegral s.leading s.isIntegral s.isDigits s.some_digit

/-! ## The checks -/

/-- How the checks of numbers include one another on a text, and that they agree on the numbers. -/
structure ChecksNested (text : String) : Prop where
  isLong_of_isInt (h : TextCheck.isInt.passes text = true) : TextCheck.isLong.passes text = true
  /-- An integer of 32 bits is the same integer of 64 bits. -/
  long_of_int {n : Int32} (h : Conversion.int.convert text = .ok n) :
    ∃ m, Conversion.long.convert text = .ok m ∧ m.toInt = n.toInt
  /-- An integer of 64 bits is one of 32 bits if it is in their range. -/
  isInt_of_isLong {m : Int64} (h : Conversion.long.convert text = .ok m)
    (fits : Integer.InWord 32 m.toInt) : TextCheck.isInt.passes text = true
  isDecimal_of_isLong (h : TextCheck.isLong.passes text = true) :
    TextCheck.isDecimal.passes text = true
  /-- An integer of 64 bits is the same decimal, and without fraction digits. -/
  decimal_of_long {m : Int64} (h : Conversion.long.convert text = .ok m) :
    ∃ d, Conversion.decimal.convert text = .ok d ∧ d.scale = 0 ∧ d.signedMantissa = m.toInt
  isFloat_of_isLong (h : TextCheck.isLong.passes text = true) :
    TextCheck.isFloat.passes text = true
  isDouble_of_isFloat (h : TextCheck.isFloat.passes text = true) :
    TextCheck.isDouble.passes text = true
  /-- Only commas make a difference between the two types of literals. -/
  isDouble_iff_isFloat (comma_notMem : ',' ∉ text.toList) :
    TextCheck.isDouble.passes text = true ↔ TextCheck.isFloat.passes text = true
  /-- Only a sign behind the digits keeps a decimal from being a double. -/
  isDouble_of_isDecimal (no_trailing_sign : Sign.MissesMark (trim text.toList).getLast?)
    (h : TextCheck.isDecimal.passes text = true) : TextCheck.isDouble.passes text = true

lemma long_of_int {n : Int32} (h : Conversion.int.convert text = .ok n) :
    ∃ m, Conversion.long.convert text = .ok m ∧ m.toInt = n.toInt := by
  obtain ⟨hspelled, hfits⟩ := (readsExactly_int.converts_iff text n.toInt).1 ⟨n, h, rfl⟩
  exact (readsExactly_long.converts_iff text n.toInt).2 ⟨hspelled, hfits.of_int⟩

lemma int_of_long {m : Int64} (h : Conversion.long.convert text = .ok m)
    (fits : Integer.InWord 32 m.toInt) : ∃ n, Conversion.int.convert text = .ok n := by
  obtain ⟨hspelled, -⟩ := (readsExactly_long.converts_iff text m.toInt).1 ⟨m, h, rfl⟩
  obtain ⟨n, hn, -⟩ := (readsExactly_int.converts_iff text m.toInt).2 ⟨hspelled, fits⟩
  exact ⟨n, hn⟩

lemma decimal_of_long {m : Int64} (h : Conversion.long.convert text = .ok m) :
    ∃ d, Conversion.decimal.convert text = .ok d ∧ d.scale = 0 ∧ d.signedMantissa = m.toInt := by
  obtain ⟨⟨s, hs, hvalue⟩, hfits⟩ := (readsExactly_long.converts_iff text m.toInt).1 ⟨m, h, rfl⟩
  obtain ⟨d, hread, hscale, hnumber⟩ := s.exists_ofText? (hvalue ▸ hfits)
  rw [hs] at hread
  have hne : trim text.toList ≠ [] := hs ▸ s.text_ne_nil
  exact ⟨d, Conversion.convert_eq_ok_iff.2 ⟨hne, hread⟩, hscale, hnumber.trans hvalue⟩

lemma isFloat_of_isLong (h : TextCheck.isLong.passes text = true) :
    TextCheck.isFloat.passes text = true := by
  obtain ⟨m, hm⟩ := Conversion.accepts_iff.1 h
  obtain ⟨⟨s, hs, -⟩, -⟩ := (readsExactly_long.converts_iff text m.toInt).1 ⟨m, hm, rfl⟩
  refine Conversion.accepts_iff.2 (exists_convert_float_iff.2 ?_)
  rw [← hs]
  exact s.isLiteral

lemma isDouble_of_isFloat (h : TextCheck.isFloat.passes text = true) :
    TextCheck.isDouble.passes text = true := by
  have hliteral := exists_convert_float_iff.1 (Conversion.accepts_iff.1 h)
  exact Conversion.accepts_iff.2
    (exists_convert_double_iff.2 (isSome_readDouble_of_isLiteral hliteral))

lemma isFloat_of_isDouble (comma_notMem : ',' ∉ text.toList)
    (h : TextCheck.isDouble.passes text = true) : TextCheck.isFloat.passes text = true := by
  have hcomma : ',' ∉ trim text.toList := fun hc => comma_notMem (mem_of_mem_trim hc)
  obtain ⟨x, hx⟩ := Conversion.accepts_iff.1 h
  have hliteral := isLiteral_of_readDouble hcomma (convert_double_eq_ok_iff.1 hx)
  exact Conversion.accepts_iff.2 (exists_convert_float_iff.2 hliteral)

lemma isDouble_of_isDecimal (no_trailing_sign : Sign.MissesMark (trim text.toList).getLast?)
    (h : TextCheck.isDecimal.passes text = true) : TextCheck.isDouble.passes text = true := by
  obtain ⟨d, hd⟩ := Conversion.accepts_iff.1 h
  obtain ⟨s, hs, -⟩ := convert_decimal_eq_ok_iff.1 hd
  rw [← hs] at no_trailing_sign
  refine Conversion.accepts_iff.2 (exists_convert_double_iff.2 ?_)
  rw [← hs]
  exact s.isSome_readDouble no_trailing_sign

/-- The checks of numbers include one another on every text, and agree on the numbers. -/
theorem checks_nested (text : String) : ChecksNested text where
  isLong_of_isInt h := by
    obtain ⟨n, hn⟩ := Conversion.accepts_iff.1 h
    obtain ⟨m, hm, -⟩ := long_of_int hn
    exact Conversion.accepts_iff.2 ⟨m, hm⟩
  long_of_int := long_of_int
  isInt_of_isLong h fits := Conversion.accepts_iff.2 (int_of_long h fits)
  isDecimal_of_isLong h := by
    obtain ⟨m, hm⟩ := Conversion.accepts_iff.1 h
    obtain ⟨d, hd, -⟩ := decimal_of_long hm
    exact Conversion.accepts_iff.2 ⟨d, hd⟩
  decimal_of_long := decimal_of_long
  isFloat_of_isLong := isFloat_of_isLong
  isDouble_of_isFloat := isDouble_of_isFloat
  isDouble_iff_isFloat comma_notMem := ⟨isFloat_of_isDouble comma_notMem, isDouble_of_isFloat⟩
  isDouble_of_isDecimal := isDouble_of_isDecimal

/-- The separators and the sign that set the checks apart. -/
example : TextCheck.isFloat.passes "1,234.5" = false ∧ TextCheck.isDouble.passes "1,234.5" = true ∧
    TextCheck.isDecimal.passes "1234.5-" = true ∧ TextCheck.isDouble.passes "1234.5-" = false := by
  decide

end Postulate.Number
