import Mathlib.Data.Rat.Floor
import Mathlib.Order.Bounds.Basic
import Mathlib.Tactic.FieldSimp
import Mathlib.Tactic.Ring
import Mathlib.Tactic.Positivity
import Postulate.Conversion
import Postulate.Proofs.Number.Spelling
import Postulate.Proofs.Text.Digits

/-!
# The nearest decimal

What a spelled decimal denotes is an exact rational number (`Spelling.value`). The digits are taken
in one by one, and the first one that does not fit any more decides the rounding. This file shows
that what comes out is the denoted number rounded half away from zero, with as many fraction digits
as mantissa and scale can hold (`Spelling.Rounds`). Digits of another script are refused at any
place (`isDigits_of_readIntegral`, `isDigits_of_readFraction`), so only spelled decimals are read.

The invariant of the loop is that the mantissa is the leading part of all the digits: `T / 10 ^ r`,
where `T` is the number that all digits together make and `r` counts the digits still to come. So
every rounding it could end with is a rounding of `T` (`dropRounded`), and which of them are below
the bound is a question about `T` alone (`Holds`). The main result is `convert_decimal_nearest`.
-/

namespace Postulate.Number

open Postulate.Text

/-! ## Rounding half away from zero -/

/-- A rational number rounded to an integer, a half away from zero. -/
def roundAway (x : ℚ) : ℤ := if x < 0 then -⌊-x + 1 / 2⌋ else ⌊x + 1 / 2⌋

lemma roundAway_neg (x : ℚ) : roundAway (-x) = -roundAway x := by
  rcases lt_trichotomy x 0 with h | rfl | h
  · simp [roundAway, h, h.le]
  · norm_num [roundAway]
  · simp [roundAway, h, h.le]

/-- A natural number without its last digits, rounded by them, a half upwards. -/
def dropRounded (n dropped : ℕ) : ℕ := (2 * n + 10 ^ dropped) / (2 * 10 ^ dropped)

@[simp] lemma dropRounded_zero (n : ℕ) : dropRounded n 0 = n := by
  simp only [dropRounded, pow_zero, mul_one]
  omega

/-- The digit that is dropped last decides the rounding. -/
lemma dropRounded_succ (n dropped : ℕ) :
    dropRounded n (dropped + 1) = (n / 10 ^ dropped + 5) / 10 := by
  have hpos : 0 < 2 * 10 ^ dropped := by positivity
  have hsum : 2 * n + 10 ^ (dropped + 1) = 2 * n + 5 * (2 * 10 ^ dropped) := by ring
  have hprod : 2 * 10 ^ (dropped + 1) = 2 * 10 ^ dropped * 10 := by ring
  rw [dropRounded, hsum, hprod, ← Nat.div_div_eq_div_mul, Nat.add_mul_div_right _ _ hpos,
    Nat.mul_div_mul_left _ _ (by norm_num)]

lemma div_le_dropRounded (n dropped : ℕ) : n / 10 ^ dropped ≤ dropRounded n dropped := by
  rw [dropRounded, ← Nat.mul_div_mul_left n (10 ^ dropped) (by norm_num : 0 < 2)]
  exact Nat.div_le_div_right (Nat.le_add_right _ _)

/-- With more digits dropped the number that is left cannot grow. -/
lemma dropRounded_anti (n : ℕ) {a b : ℕ} (h : a ≤ b) : dropRounded n b ≤ dropRounded n a := by
  induction b, h using Nat.le_induction with
  | base => rfl
  | succ b _ ih =>
    have := div_le_dropRounded n b
    rw [dropRounded_succ]
    omega

lemma roundAway_div_pow (n k : ℕ) : roundAway ((n : ℚ) / 10 ^ k) = dropRounded n k := by
  have hnonneg : ¬(n : ℚ) / 10 ^ k < 0 := not_lt.2 (by positivity)
  have hquot : (n : ℚ) / 10 ^ k + 1 / 2 = ((2 * n + 10 ^ k : ℕ) : ℚ) / ((2 * 10 ^ k : ℕ) : ℚ) := by
    push_cast
    field_simp
  rw [roundAway, if_neg hnonneg, hquot, dropRounded, Rat.floor_natCast_div_natCast]
  norm_cast

namespace Decimal

/-! ## Every character is looked at -/

lemma readIntegral_of_isDigits {digits : List Char} (h : IsDigits digits) :
    readIntegral digits =
      if mantissaBound ≤ digitsValue digits then none else some (digitsValue digits) := by
  have hall : digits.all Char.isDigit = true := List.all_eq_true.2 h
  by_cases hlarge : mantissaBound ≤ digitsValue digits
  · simp [readIntegral, hlarge]
  · simp [readIntegral, hall, hlarge, not_le.1 hlarge]

lemma isDigits_of_readIntegral {digits : List Char} {n : ℕ} (h : readIntegral digits = some n) :
    IsDigits digits := by
  rw [readIntegral] at h
  split at h
  · next hread => exact List.all_eq_true.1 hread.1
  · cases h

/-- When all digits are those of ASCII, only the room that is left decides what becomes of the
first. -/
lemma readFraction_cons {c : Char} {rest : List Char} (h : IsDigits (c :: rest))
    (mantissa scale : ℕ) :
    readFraction mantissa scale (c :: rest) =
      if scale < maxScale ∧ 10 * mantissa + digitValue c < mantissaBound then
        readFraction (10 * mantissa + digitValue c) (scale + 1) rest
      else roundBy (digitValue c) mantissa scale := by
  have hc : c.isDigit = true := h c (by simp)
  have hrest : rest.all Char.isDigit = true := List.all_eq_true.2 fun d hd => h d (by simp [hd])
  simp [readFraction, hc, hrest]

/-- No digit of another script is passed over, neither one that counts nor one that comes after the
rounding. -/
lemma isDigits_of_readFraction {mantissa scale : ℕ} {digits : List Char} {result : ℕ × ℕ}
    (h : readFraction mantissa scale digits = some result) : IsDigits digits := by
  fun_induction readFraction mantissa scale digits with
  | case1 => simp [IsDigits]
  | case2 => cases h
  | case3 mantissa scale c rest next hdigit hfits ih =>
    have hc : c.isDigit = true := by simpa using hdigit
    exact List.forall_mem_cons.2 ⟨hc, ih h⟩
  | case4 mantissa scale c rest next hdigit hfits hrest =>
    have hc : c.isDigit = true := by simpa using hdigit
    exact List.forall_mem_cons.2 ⟨hc, List.all_eq_true.1 hrest⟩
  | case5 => cases h

/-! ## Which rounding is taken -/

/-- The number `total / 10 ^ places`, rounded to so many fraction digits, is a decimal. -/
def Holds (total places scale : ℕ) : Prop :=
  scale ≤ min 28 places ∧ dropRounded total (places - scale) < 2 ^ 96

lemma mantissaBound_eq : mantissaBound = 2 ^ 96 := by
  norm_num [mantissaBound]

/-- The digits of the fraction are taken in as far as they fit, and the number comes out with the
greatest scale that can hold it, rounded by the first digit left over; if no scale can hold it there
is no result. -/
lemma readFraction_spec {total places mantissa scale : ℕ} {rest : List Char}
    (hrest : IsDigits rest) (hplaces : places = scale + rest.length)
    (htotal : total = mantissa * 10 ^ rest.length + digitsValue rest) (hfits : mantissa < 2 ^ 96)
    (hscale : scale ≤ 28) :
    (∃ k, IsGreatest {k | Holds total places k} k ∧
        readFraction mantissa scale rest = some (dropRounded total (places - k), k)) ∨
      (∀ k, ¬Holds total places k) ∧ readFraction mantissa scale rest = none := by
  induction rest generalizing mantissa scale with
  | nil =>
    obtain rfl : places = scale := by simpa using hplaces
    obtain rfl : total = mantissa := by simpa using htotal
    refine Or.inl ⟨places, ⟨⟨by simpa using hscale, by simpa using hfits⟩, ?_⟩,
      by simp [readFraction]⟩
    intro k hk
    exact hk.1.trans (min_le_right _ _)
  | cons c rest ih =>
    have hdigit := digitValue_lt (hrest c (by simp))
    have htail : IsDigits rest := fun d hd => hrest d (by simp [hd])
    have htail_lt := digitsValue_lt htail
    rw [digitsValue_cons, List.length_cons] at htotal
    rw [List.length_cons] at hplaces
    have htotal' :
        total = (10 * mantissa + digitValue c) * 10 ^ rest.length + digitsValue rest := by
      rw [htotal]
      ring
    rw [readFraction_cons hrest]
    split
    · next hnext =>
      rw [mantissaBound_eq, maxScale] at hnext
      exact ih htail (by omega) htotal' hnext.2 hnext.1
    · next hnext =>
      rw [mantissaBound_eq, maxScale] at hnext
      -- the digit does not fit: the mantissa stays the leading part of all digits
      have hdiv : total / 10 ^ rest.length = 10 * mantissa + digitValue c := by
        rw [htotal', Nat.mul_comm, Nat.mul_add_div (by positivity), Nat.div_eq_of_lt htail_lt,
          Nat.add_zero]
      have hdiv' : total / 10 ^ (rest.length + 1) = mantissa := by
        rw [pow_succ, ← Nat.div_div_eq_div_mul, hdiv]
        omega
      have hround :
          dropRounded total (places - scale) = (10 * mantissa + digitValue c + 5) / 10 := by
        rw [show places - scale = rest.length + 1 by omega, dropRounded_succ, hdiv]
      have hbeyond : ∀ k, Holds total places k → k ≤ scale := by
        intro k hk
        by_contra hlt
        have hle := dropRounded_anti total (show places - k ≤ rest.length by omega)
        have hbound := div_le_dropRounded total rest.length
        have := hk.1
        have := hk.2
        omega
      rw [roundBy, mantissaBound_eq]
      split_ifs with hdown hup hzero
      · have hsame : dropRounded total (places - scale) = mantissa := by omega
        refine Or.inl ⟨scale, ⟨⟨by omega, ?_⟩, hbeyond⟩, ?_⟩
        · rwa [hsame]
        · rw [hsame]
      · have hmore : dropRounded total (places - scale) = mantissa + 1 := by omega
        refine Or.inl ⟨scale, ⟨⟨by omega, ?_⟩, hbeyond⟩, ?_⟩
        · rwa [hmore]
        · rw [hmore]
      · refine Or.inr ⟨fun k hk => ?_, rfl⟩
        obtain rfl : k = scale := by have := hbeyond k hk; omega
        have := hk.2
        omega
      · -- the rounded mantissa is the bound: one more digit is given up
        have hback : dropRounded total (places - (scale - 1)) = (mantissa + 5) / 10 := by
          rw [show places - (scale - 1) = rest.length + 1 + 1 by omega, dropRounded_succ, hdiv']
        refine Or.inl ⟨scale - 1, ⟨⟨by omega, by rw [hback]; omega⟩, ?_⟩, by rw [hback]⟩
        intro k hk
        have hle := hbeyond k hk
        have hne : k ≠ scale := by
          rintro rfl
          have := hk.2
          omega
        omega

/-- Fewer fraction digits make the mantissa smaller, so some scale does if none at all does. -/
lemma holds_zero_of_holds {total places k : ℕ} (h : Holds total places k) : Holds total places 0 :=
  ⟨Nat.zero_le _,
    (dropRounded_anti total (Nat.sub_le_sub_left (Nat.zero_le k) places)).trans_lt h.2⟩

namespace Spelling

variable (s : Spelling)

/-- All digits of the number, without separators and without the point. -/
def digits : List Char := removeCommas s.integral ++ s.fraction

/-- The number that the digits denote. -/
def magnitude : ℚ :=
  digitsValue (removeCommas s.integral) + digitsValue s.fraction / 10 ^ s.fraction.length

/-- The denoted number: a minus at either end negates it. -/
def value : ℚ := if s.isNegative then -s.magnitude else s.magnitude

/-- The decimal is the denoted number rounded half away from zero, with the greatest scale for
which the mantissa is below the bound. Zero has no sign. -/
structure Rounds (d : Decimal) : Prop where
  scale : IsGreatest
    {k | k ≤ min 28 s.fraction.length ∧ roundAway (s.magnitude * 10 ^ k) < 2 ^ 96} d.scale
  number : d.signedMantissa = roundAway (s.value * 10 ^ d.scale)
  unsigned_zero : d.mantissa = 0 → d.negative = false

lemma magnitude_mul_pow {k : ℕ} (h : k ≤ s.fraction.length) :
    s.magnitude * 10 ^ k = (digitsValue s.digits : ℚ) / 10 ^ (s.fraction.length - k) := by
  have hpow : (10 : ℚ) ^ s.fraction.length = 10 ^ (s.fraction.length - k) * 10 ^ k := by
    rw [← pow_add, Nat.sub_add_cancel h]
  rw [magnitude, digits, digitsValue_append]
  push_cast
  rw [hpow]
  field_simp

lemma roundAway_magnitude {k : ℕ} (h : k ≤ s.fraction.length) :
    roundAway (s.magnitude * 10 ^ k) =
      dropRounded (digitsValue s.digits) (s.fraction.length - k) := by
  rw [s.magnitude_mul_pow h, roundAway_div_pow]

lemma holds_iff {k : ℕ} :
    Holds (digitsValue s.digits) s.fraction.length k ↔
      k ≤ min 28 s.fraction.length ∧ roundAway (s.magnitude * 10 ^ k) < 2 ^ 96 := by
  refine and_congr_right fun h => ?_
  rw [s.roundAway_magnitude (h.trans (min_le_right _ _))]
  norm_cast

lemma roundAway_value (k : ℕ) :
    roundAway (s.value * 10 ^ k) =
      if s.isNegative then -roundAway (s.magnitude * 10 ^ k)
      else roundAway (s.magnitude * 10 ^ k) := by
  rw [value]
  split
  · rw [neg_mul, roundAway_neg]
  · rfl

/-- There is one decimal at most. -/
lemma Rounds.eq {s : Spelling} {d e : Decimal} (hd : s.Rounds d) (he : s.Rounds e) : d = e := by
  have hscale : d.scale = e.scale := hd.scale.unique he.scale
  have hnumber : d.signedMantissa = e.signedMantissa := by rw [hd.number, he.number, hscale]
  have hzero := hd.unsigned_zero
  have hzero' := he.unsigned_zero
  obtain ⟨dneg, dman, dscale⟩ := d
  obtain ⟨eneg, eman, escale⟩ := e
  cases dneg <;> cases eneg <;> simp_all [signedMantissa]

lemma ofText?_text :
    ofText? s.text =
      if mantissaBound ≤ digitsValue (removeCommas s.integral) then none
      else (readFraction (digitsValue (removeCommas s.integral)) 0 s.fraction).map
        fun (mantissa, scale) => ⟨s.isNegative && mantissa != 0, mantissa, scale⟩ := by
  obtain ⟨hwritten, -⟩ := Written.ofText?_eq_some_iff.2 ⟨s, rfl, rfl⟩
  have hdigits := s.isIntegral.isDigits_removeCommas
  simp only [ofText?, hwritten, Option.bind_eq_bind, Option.bind_some, written,
    readIntegral_of_isDigits hdigits]
  by_cases hlarge : mantissaBound ≤ digitsValue (removeCommas s.integral)
  · rw [if_pos hlarge, if_pos hlarge, Option.bind_none]
  · rw [if_neg hlarge, if_neg hlarge, Option.bind_some]
    cases readFraction (digitsValue (removeCommas s.integral)) 0 s.fraction <;> rfl

/-- The greatest scale that can hold the number gives the decimal that rounds it. -/
lemma rounds_of_isGreatest {k : ℕ}
    (h : IsGreatest {k | Holds (digitsValue s.digits) s.fraction.length k} k) :
    let mantissa := dropRounded (digitsValue s.digits) (s.fraction.length - k)
    s.Rounds ⟨s.isNegative && mantissa != 0, mantissa, k⟩ := by
  intro mantissa
  refine ⟨by simpa only [holds_iff] using h, ?_, ?_⟩
  · rw [roundAway_value, s.roundAway_magnitude (h.1.1.trans (min_le_right _ _))]
    change signedMantissa _ = if _ then -(mantissa : ℤ) else mantissa
    cases s.isNegative
    · simp [signedMantissa]
    · by_cases hzero : mantissa = 0 <;> simp [signedMantissa, hzero]
  · intro hzero
    change mantissa = 0 at hzero
    simp [hzero]

/-- Reading a spelled decimal rounds the number it denotes, or no rounding of it can be held. -/
lemma rounds_or_not_holds :
    (∃ d, s.Rounds d ∧ ofText? s.text = some d) ∨
      (∀ k, ¬Holds (digitsValue s.digits) s.fraction.length k) ∧ ofText? s.text = none := by
  rw [ofText?_text, mantissaBound_eq]
  have htotal : digitsValue s.digits =
      digitsValue (removeCommas s.integral) * 10 ^ s.fraction.length + digitsValue s.fraction :=
    digitsValue_append _ _
  split
  · next hlarge =>
    refine Or.inr ⟨fun k hk => ?_, rfl⟩
    have hround := div_le_dropRounded (digitsValue s.digits) s.fraction.length
    have hzero : dropRounded (digitsValue s.digits) s.fraction.length < 2 ^ 96 :=
      (holds_zero_of_holds hk).2
    have hdiv : digitsValue (removeCommas s.integral) ≤
        digitsValue s.digits / 10 ^ s.fraction.length := by
      rw [htotal, Nat.le_div_iff_mul_le (by positivity)]
      omega
    omega
  · next hsmall =>
    have hfits := not_le.1 hsmall
    have hdigits : IsDigits s.fraction := s.isDigits
    rcases readFraction_spec hdigits (Nat.zero_add _).symm htotal hfits (Nat.zero_le _) with
      ⟨k, hgreatest, hread⟩ | ⟨hnone, hread⟩
    · exact Or.inl ⟨_, s.rounds_of_isGreatest hgreatest, by rw [hread]; rfl⟩
    · exact Or.inr ⟨hnone, by rw [hread]; rfl⟩

lemma ofText?_eq_some_iff {d : Decimal} : ofText? s.text = some d ↔ s.Rounds d := by
  rcases s.rounds_or_not_holds with ⟨e, hrounds, hread⟩ | ⟨hnone, hread⟩
  · rw [hread, Option.some.injEq]
    exact ⟨fun h => h ▸ hrounds, fun h => hrounds.eq h⟩
  · rw [hread]
    refine ⟨fun h => (by cases h), fun h => ?_⟩
    exact absurd (s.holds_iff.2 h.scale.1) (hnone _)

/-- A decimal that rounds the number exists exactly when the nearest integer is below the bound. -/
lemma exists_rounds_iff : (∃ d, s.Rounds d) ↔ roundAway s.magnitude < 2 ^ 96 := by
  have hzero :
      Holds (digitsValue s.digits) s.fraction.length 0 ↔ roundAway s.magnitude < 2 ^ 96 := by
    rw [s.holds_iff, pow_zero, mul_one]
    exact and_iff_right (Nat.zero_le _)
  rw [← hzero]
  constructor
  · rintro ⟨d, h⟩
    exact holds_zero_of_holds (s.holds_iff.2 h.scale.1)
  · intro h
    rcases s.rounds_or_not_holds with ⟨d, hrounds, -⟩ | ⟨hnone, -⟩
    · exact ⟨d, hrounds⟩
    · exact absurd h (hnone 0)

/-- A number whose digits all fit is not rounded. -/
lemma Rounds.exact {s : Spelling} {d : Decimal} (h : s.Rounds d) (hlength : s.fraction.length ≤ 28)
    (hdigits : digitsValue s.digits < 2 ^ 96) :
    d.scale = s.fraction.length ∧ (d.signedMantissa : ℚ) = s.value * 10 ^ d.scale := by
  have hall : Holds (digitsValue s.digits) s.fraction.length s.fraction.length :=
    ⟨le_min hlength le_rfl, by simpa using hdigits⟩
  have hscale : d.scale = s.fraction.length :=
    le_antisymm (h.scale.1.1.trans (min_le_right _ _)) (h.scale.2 (s.holds_iff.1 hall))
  refine ⟨hscale, ?_⟩
  have hwhole : s.magnitude * 10 ^ s.fraction.length = (digitsValue s.digits : ℚ) := by
    rw [s.magnitude_mul_pow le_rfl, Nat.sub_self, pow_zero, div_one]
  rw [h.number, hscale, roundAway_value, s.roundAway_magnitude le_rfl, Nat.sub_self,
    dropRounded_zero, value]
  split
  · rw [neg_mul, hwhole]
    push_cast
    rfl
  · rw [hwhole]
    norm_cast

end Spelling

/-- Only spelled decimals are read. -/
lemma exists_text_eq_of_ofText? {text : List Char} {d : Decimal} (h : ofText? text = some d) :
    ∃ s : Spelling, s.text = text := by
  simp only [ofText?, Option.bind_eq_bind, Option.bind_eq_some_iff] at h
  obtain ⟨w, hwritten, n, hintegral, result, hfraction, -⟩ := h
  have hascii : w.IsAscii :=
    ⟨isDigits_of_readIntegral hintegral, isDigits_of_readFraction hfraction⟩
  obtain ⟨s, hs, -⟩ := Written.ofText?_eq_some_iff.1 ⟨hwritten, hascii⟩
  exact ⟨s, hs⟩

end Decimal

open Decimal

lemma convert_decimal_eq_ok_iff {text : String} {d : Decimal} :
    Conversion.decimal.convert text = .ok d ↔
      ∃ s : Spelling, s.text = trim text.toList ∧ s.Rounds d := by
  rw [Conversion.convert_eq_ok_iff]
  change _ ∧ ofText? (trim text.toList) = some d ↔ _
  constructor
  · rintro ⟨-, hread⟩
    obtain ⟨s, hs⟩ := exists_text_eq_of_ofText? hread
    rw [← hs, s.ofText?_eq_some_iff] at hread
    exact ⟨s, hs, hread⟩
  · rintro ⟨s, hs, hrounds⟩
    rw [← hs, s.ofText?_eq_some_iff]
    exact ⟨by simp [Spelling.text, s.body_ne_nil], hrounds⟩

/-- A text converts to a decimal exactly when it is a spelled decimal, white space around it
ignored, whose number rounded to an integer is below `2 ^ 96`; and it converts to the decimal that
is nearest to the number, half away from zero, with the greatest scale up to 28 and up to the digits
written that the mantissa allows. A number of at most 28 fraction digits whose digits are below
`2 ^ 96` comes out exactly, with all its fraction digits. -/
theorem convert_decimal_nearest (text : String) :
    ((∃ d, Conversion.decimal.convert text = .ok d) ↔
      ∃ s : Spelling, s.text = trim text.toList ∧ roundAway s.magnitude < 2 ^ 96) ∧
    (∀ d, Conversion.decimal.convert text = .ok d ↔
      ∃ s : Spelling, s.text = trim text.toList ∧ s.Rounds d) ∧
    ∀ s : Spelling, s.text = trim text.toList → s.fraction.length ≤ 28 →
      digitsValue s.digits < 2 ^ 96 →
      ∃ d, Conversion.decimal.convert text = .ok d ∧ d.scale = s.fraction.length ∧
        (d.signedMantissa : ℚ) = s.value * 10 ^ d.scale := by
  refine ⟨?_, fun d => convert_decimal_eq_ok_iff, ?_⟩
  · constructor
    · rintro ⟨d, h⟩
      obtain ⟨s, hs, hrounds⟩ := convert_decimal_eq_ok_iff.1 h
      exact ⟨s, hs, s.exists_rounds_iff.1 ⟨d, hrounds⟩⟩
    · rintro ⟨s, hs, hbound⟩
      obtain ⟨d, hrounds⟩ := s.exists_rounds_iff.2 hbound
      exact ⟨d, convert_decimal_eq_ok_iff.2 ⟨s, hs, hrounds⟩⟩
  · intro s hs hlength hdigits
    have hall : Holds (digitsValue s.digits) s.fraction.length s.fraction.length :=
      ⟨le_min hlength le_rfl, by simpa using hdigits⟩
    rcases s.rounds_or_not_holds with ⟨d, hrounds, -⟩ | ⟨hnone, -⟩
    · exact ⟨d, convert_decimal_eq_ok_iff.2 ⟨s, hs, hrounds⟩, hrounds.exact hlength hdigits⟩
    · exact absurd hall (hnone _)

end Postulate.Number
