import Mathlib.Data.List.Induction
import Mathlib.Tactic.Lemma
import Mathlib.Tactic.Ring
import Postulate.Text.Lookahead

/-!
# Digits and the number they make

A run of digits is a number in base ten: every digit is below ten, digits behind others shift them
by a power of ten, and so many digits make a number below that power (`digitsValue_lt`). Every such
number has a numeral of so many digits (`digitsValue_numeral`), and the scanners of numbers read it
(`number_numeral`, `fixedNumber_numeral`, `longNumber_numeral`).
-/

namespace Postulate.Text

lemma digitsValue_append (a b : List Char) :
    digitsValue (a ++ b) = digitsValue a * 10 ^ b.length + digitsValue b := by
  induction b using List.reverseRecOn with
  | nil => simp
  | append_singleton b c ih =>
    rw [← List.append_assoc, digitsValue_concat, digitsValue_concat, ih, List.length_append,
      List.length_singleton]
    ring

lemma digitsValue_cons (c : Char) (digits : List Char) :
    digitsValue (c :: digits) = digitValue c * 10 ^ digits.length + digitsValue digits := by
  have hsingle : digitsValue [c] = digitValue c := by simp [digitsValue]
  rw [← List.singleton_append, digitsValue_append, hsingle]

lemma toNat_of_isDigit {c : Char} (h : c.isDigit = true) : 0x30 ≤ c.toNat ∧ c.toNat ≤ 0x39 := by
  simp only [Char.isDigit, Bool.and_eq_true, decide_eq_true_eq, ge_iff_le, UInt32.le_iff_toNat_le,
    Char.toNat_val] at h
  exact h

/-- The digits of ASCII are among those of all scripts. -/
lemma isDecimalNumber_of_isDigit {c : Char} (h : c.isDigit = true) : isDecimalNumber c = true :=
  CodePoints.has_iff.2 ⟨(0x30, 0x39), by decide, toNat_of_isDigit h⟩

lemma digitValue_lt {c : Char} (h : c.isDigit = true) : digitValue c < 10 := by
  have hcode := toNat_of_isDigit h
  have hzero : '0'.toNat = 0x30 := rfl
  rw [digitValue]
  omega

lemma isWhiteSpace_of_isDigit {c : Char} (h : c.isDigit = true) : isWhiteSpace c = false := by
  by_contra hspace
  rw [Bool.not_eq_false, isWhiteSpace, CodePoints.has_iff] at hspace
  have hcode := toNat_of_isDigit h
  simp only [whiteSpace, List.mem_cons, List.not_mem_nil, or_false, exists_eq_or_imp,
    exists_eq_left] at hspace
  omega

lemma digitsValue_lt {digits : List Char} (h : ∀ c ∈ digits, c.isDigit = true) :
    digitsValue digits < 10 ^ digits.length := by
  induction digits using List.reverseRecOn with
  | nil => simp
  | append_singleton digits c ih =>
    have hc := digitValue_lt (h c (by simp))
    have hfront := ih fun d hd => h d (by simp [hd])
    rw [digitsValue_concat, List.length_append, List.length_singleton, pow_succ]
    omega

/-! ## Numbers in digits -/

/-- A number in so many digits; digits that it has more are lost. -/
def numeral : Nat → Nat → List Char
  | 0, _ => []
  | width + 1, n => numeral width (n / 10) ++ [Nat.digitChar (n % 10)]

@[simp] lemma length_numeral (width n : Nat) : (numeral width n).length = width := by
  induction width generalizing n with
  | zero => rfl
  | succ width ih => simp [numeral, ih]

lemma numeral_ne_nil {width n : Nat} (h : 0 < width) : numeral width n ≠ [] :=
  List.length_pos_iff.1 (by rwa [length_numeral])

lemma isDigit_digitChar : ∀ n < 10, (Nat.digitChar n).isDigit = true := by
  decide

lemma digitValue_digitChar : ∀ n < 10, digitValue (Nat.digitChar n) = n := by
  decide

lemma isDigit_of_mem_numeral {width n : Nat} : ∀ c ∈ numeral width n, c.isDigit = true := by
  induction width generalizing n with
  | zero => simp [numeral]
  | succ width ih =>
    intro c hc
    rcases List.mem_append.1 hc with hc | hc
    · exact ih c hc
    · rw [List.mem_singleton.1 hc]
      exact isDigit_digitChar _ (Nat.mod_lt _ (by decide))

/-- With digits enough nothing of the number is lost. -/
lemma digitsValue_numeral {width n : Nat} (h : n < 10 ^ width) :
    digitsValue (numeral width n) = n := by
  induction width generalizing n with
  | zero =>
    obtain rfl : n = 0 := by simpa using h
    rfl
  | succ width ih =>
    have hquot : n / 10 < 10 ^ width := by
      rw [pow_succ] at h
      omega
    rw [numeral, digitsValue_concat, ih hquot, digitValue_digitChar _ (Nat.mod_lt _ (by decide))]
    omega

/-- The decimal notation of a number makes the number. -/
lemma digitsValue_toDigits (n : Nat) : digitsValue (Nat.toDigits 10 n) = n :=
  Nat.ofDigitChars_eq_foldl.symm.trans Nat.ofDigitChars_ten_toDigits

section

variable {width n : Nat} {rest : List Char}

/-- A numeral of the full width is read, whatever stands behind it. -/
lemma number_numeral (hwidth : 0 < width) (h : n < 10 ^ width) :
    number width (numeral width n ++ rest) = some (n, rest) :=
  number_eq_some_iff.2 ⟨_, rfl, numeral_ne_nil hwidth, isDigit_of_mem_numeral,
    Or.inl (length_numeral width n), (digitsValue_numeral h).symm⟩

lemma fixedNumber_numeral (h : n < 10 ^ width) :
    fixedNumber width (numeral width n ++ rest) = some (n, rest) :=
  fixedNumber_eq_some_iff.2 ⟨_, rfl, length_numeral width n, isDigit_of_mem_numeral,
    (digitsValue_numeral h).symm⟩

lemma longNumber_numeral (hwidth : 0 < width) (h : n < 10 ^ width) (hrest : EndsDigits rest) :
    longNumber (numeral width n ++ rest) = some (n, rest) :=
  longNumber_eq_some_iff.2 ⟨_, rfl, numeral_ne_nil hwidth, isDigit_of_mem_numeral, hrest,
    (digitsValue_numeral h).symm⟩

end

end Postulate.Text
