import Mathlib.Tactic.Linarith
import Mathlib.Tactic.Positivity
import Mathlib.Tactic.Ring
import Postulate.Chain.Transformation
import Postulate.Proofs.Number.Characters

/-!
# Integers of any length

A spelled integer is a sign or none and digits, at least one (`Integer.Spelling`). There may be any
number of digits and any number of zeros among them in front, so the length of a text says nothing
about whether its number fits a word.

Reading computes the number without bound and asks afterwards whether it fits. `accumulate` is the
loop that keeps to the word all the way: each digit multiplies the number so far by ten and is added
to it, or subtracted from it below a minus sign, and the loop is stuck as soon as one of the two
leaves the word. Below a minus sign the numbers on the way grow downwards, so that the least number
of the word, which has no positive counterpart, is reached like any other. On its way to a number
the loop never gets further from zero than that number is, so it is stuck exactly on the numbers
that do not fit (`accumulate_eq`).

The main result is `convert_integers_exact`, for words of 32 and of 64 bits alike.
-/

namespace Postulate.Number

open Postulate.Text

namespace Integer

/-! ## Spelled integers -/

/-- An integer as it is spelled. -/
structure Spelling where
  sign : Option Sign
  digits : List Char
  isDigits : IsDigits digits
  some_digit : digits ≠ []

/-- A natural number with the sign that stands before it. -/
def signed (negative : Bool) (n : ℕ) : ℤ := if negative then -(n : ℤ) else n

lemma readInteger_eq (text : List Char) :
    readInteger text =
      if (Text.sign text).2.isEmpty || !(Text.sign text).2.all Char.isDigit then none
      else some (signed (Text.sign text).1 (digitsValue (Text.sign text).2)) := by
  rw [signed, apply_ite some]
  rfl

namespace Spelling

/-- The text of a spelled integer. -/
def text (s : Spelling) : List Char := Sign.text s.sign ++ s.digits

def isNegative (s : Spelling) : Bool := s.sign = some .minus

/-- The denoted number. -/
def value (s : Spelling) : ℤ := signed s.isNegative (digitsValue s.digits)

variable (s : Spelling)

lemma text_ne_nil : s.text ≠ [] := by
  simp [text, s.some_digit]

lemma isLiteralCharacter {c : Char} (hc : c ∈ s.text) : IsLiteralCharacter c := by
  rcases List.mem_append.1 hc with hc | hc
  · exact Sign.isLiteralCharacter hc
  · exact s.isDigits.isLiteralCharacter hc

lemma readInteger_text : readInteger s.text = some s.value := by
  have hdigits : ¬(s.digits.isEmpty || !s.digits.all Char.isDigit) = true := by
    simpa [s.some_digit, IsDigits] using s.isDigits
  rw [readInteger_eq, text, Sign.sign_text_append _ s.isDigits.missesMark_head?, if_neg hdigits]
  rfl

/-- A text spells one number at most. -/
lemma value_eq_of_text_eq {s s' : Spelling} (h : s.text = s'.text) : s.value = s'.value := by
  rw [← Option.some_inj, ← s.readInteger_text, ← s'.readInteger_text, h]

end Spelling

/-- What is read are exactly the spelled integers, with the numbers they denote. -/
lemma readInteger_eq_some_iff {text : List Char} {n : ℤ} :
    readInteger text = some n ↔ ∃ s : Spelling, s.text = text ∧ s.value = n := by
  constructor
  · intro h
    obtain ⟨sign, hnegative, hsplit⟩ := Sign.exists_eq_text_append_sign text
    rw [readInteger_eq, hnegative] at h
    split at h
    · cases h
    · next hdigits =>
      rw [Bool.or_eq_true, not_or, List.isEmpty_iff, Bool.not_eq_true', Bool.not_eq_false,
        List.all_eq_true] at hdigits
      exact ⟨⟨sign, _, hdigits.2, hdigits.1⟩, hsplit.symm, Option.some.inj h⟩
  · rintro ⟨s, rfl, rfl⟩
    exact s.readInteger_text

/-- Every integer is spelled by its decimal notation. -/
lemma exists_spelling_toString (n : ℤ) :
    ∃ s : Spelling, s.text = (toString n).toList ∧ s.value = n := by
  have hdigits (k : ℕ) : IsDigits (Nat.toDigits 10 k) := fun c hc =>
    Nat.isDigit_of_mem_toDigits (by norm_num) (by norm_num) hc
  rw [Int.toString_eq_repr, Int.repr_eq_if]
  split
  · next hnonneg =>
    refine ⟨⟨none, _, hdigits n.toNat, Nat.toDigits_ne_nil⟩, ?_, ?_⟩
    · simp [Spelling.text, Sign.text, Nat.repr_eq_ofList_toDigits]
    · simp [Spelling.value, Spelling.isNegative, signed, digitsValue_toDigits, hnonneg]
  · next hneg =>
    refine ⟨⟨some .minus, _, hdigits (-n).toNat, Nat.toDigits_ne_nil⟩, ?_, ?_⟩
    · simp [Spelling.text, Sign.text, Sign.mark, Nat.repr_eq_ofList_toDigits]
    · have hle : n ≤ 0 := by omega
      simp [Spelling.value, Spelling.isNegative, signed, digitsValue_toDigits, hle]

/-! ## The loop within a word -/

/-- The numbers of a signed word of so many bits. -/
def InWord (bits : ℕ) (n : ℤ) : Prop := -2 ^ (bits - 1) ≤ n ∧ n < 2 ^ (bits - 1)

lemma fitsWord_iff {bits : ℕ} {n : ℤ} : fitsWord bits n = true ↔ InWord bits n := by
  simp [fitsWord, InWord]

/-- The number, if it fits the word. -/
def fit (bits : ℕ) (n : ℤ) : Option ℤ := if fitsWord bits n then some n else none

lemma fit_of_inWord {bits : ℕ} {n : ℤ} (h : InWord bits n) : fit bits n = some n := by
  rw [fit, if_pos (fitsWord_iff.2 h)]

lemma fit_of_not_inWord {bits : ℕ} {n : ℤ} (h : ¬InWord bits n) : fit bits n = none := by
  rw [fit, if_neg (by rwa [fitsWord_iff])]

/-- The next digit is added, or subtracted below a minus sign. -/
def addDigit (negative : Bool) (n : ℤ) (c : Char) : ℤ :=
  if negative then n - digitValue c else n + digitValue c

/-- Takes in digits one by one, from the number reached so far, and never leaves the word. -/
def accumulate (bits : ℕ) (negative : Bool) (n : ℤ) : List Char → Option ℤ
  | [] => some n
  | c :: rest =>
    (fit bits (10 * n)).bind fun tenfold =>
      (fit bits (addDigit negative tenfold c)).bind fun next =>
        accumulate bits negative next rest

/-- Either way the number gets further from zero by the digit. -/
lemma addDigit_signed (negative : Bool) (n : ℕ) (c : Char) :
    addDigit negative (signed negative n) c = signed negative (n + digitValue c) := by
  cases negative <;> simp [addDigit, signed]
  ring

/-- What is nearer to zero than a number of the word, on the same side, is in the word too. -/
lemma InWord.of_le {bits a b : ℕ} {negative : Bool} (h : InWord bits (signed negative b))
    (hle : a ≤ b) : InWord bits (signed negative a) := by
  have hpos : (0 : ℤ) < 2 ^ (bits - 1) := by positivity
  have hle' : (a : ℤ) ≤ b := by exact_mod_cast hle
  cases negative <;> simp only [InWord, signed, Bool.false_eq_true, if_false, if_true] at h ⊢ <;>
    constructor <;> linarith [h.1, h.2, Int.natCast_nonneg a]

/-- The loop comes to the number that all digits make, and is stuck if that does not fit. -/
lemma accumulate_eq {bits n : ℕ} {negative : Bool} (digits : List Char)
    (h : InWord bits (signed negative n)) :
    accumulate bits negative (signed negative n) digits =
      fit bits (signed negative (n * 10 ^ digits.length + digitsValue digits)) := by
  induction digits generalizing n with
  | nil => simpa [accumulate] using (fit_of_inWord h).symm
  | cons c rest ih =>
    have htotal : n * 10 ^ (c :: rest).length + digitsValue (c :: rest) =
        (10 * n + digitValue c) * 10 ^ rest.length + digitsValue rest := by
      rw [digitsValue_cons, List.length_cons]
      ring
    have htenfold : 10 * signed negative n = signed negative (10 * n) := by
      cases negative <;> simp [signed]
    have hnext := addDigit_signed negative (10 * n) c
    have hle : 10 * n + digitValue c ≤
        (10 * n + digitValue c) * 10 ^ rest.length + digitsValue rest :=
      le_add_right (Nat.le_mul_of_pos_right _ (by positivity))
    rw [accumulate, htenfold, htotal]
    by_cases hfits : InWord bits (signed negative (10 * n + digitValue c))
    · rw [fit_of_inWord (hfits.of_le (Nat.le_add_right _ _)), Option.bind_some, hnext,
        fit_of_inWord hfits, Option.bind_some, ih hfits]
    · -- already the number with this digit is outside, and so is the one that all digits make
      rw [fit_of_not_inWord fun hall => hfits (hall.of_le hle)]
      by_cases htens : InWord bits (signed negative (10 * n))
      · rw [fit_of_inWord htens, Option.bind_some, hnext, fit_of_not_inWord hfits, Option.bind_none]
      · rw [fit_of_not_inWord htens, Option.bind_none]

lemma inWord_zero (bits : ℕ) : InWord bits 0 := by
  simp [InWord]

/-- From nothing, the digits of a spelled integer lead to its number. -/
lemma Spelling.accumulate_digits (s : Spelling) (bits : ℕ) :
    accumulate bits s.isNegative 0 s.digits = fit bits s.value := by
  have hzero : signed s.isNegative 0 = 0 := by
    simp [signed]
  have hloop := accumulate_eq (n := 0) s.digits (hzero ▸ inWord_zero bits)
  rwa [hzero, Nat.zero_mul, Nat.zero_add] at hloop

/-- Half of a word reaches one number further. -/
example : accumulate 32 true 0 "0002147483648".toList = some (-2147483648) ∧
    accumulate 32 false 0 "0002147483648".toList = none := by
  decide

/-! ## Words -/

/-- The type holds exactly the numbers of a word of so many bits. -/
structure IsWord (bits : ℕ) {α : Type} (number : α → ℤ) (ofNumber : ℤ → α) : Prop where
  inWord (w : α) : InWord bits (number w)
  ofNumber_number (w : α) : ofNumber (number w) = w
  number_ofNumber {n : ℤ} (h : InWord bits n) : number (ofNumber n) = n

lemma isWord_int : IsWord 32 Int32.toInt Int32.ofInt where
  inWord w := ⟨w.le_toInt, w.toInt_lt⟩
  ofNumber_number := Int32.ofInt_toInt
  number_ofNumber h := Int32.toInt_ofInt_of_le h.1 h.2

lemma isWord_long : IsWord 64 Int64.toInt Int64.ofInt where
  inWord w := ⟨w.le_toInt, w.toInt_lt⟩
  ofNumber_number := Int64.ofInt_toInt
  number_ofNumber h := Int64.toInt_ofInt_of_le h.1 h.2

/-- A word is read exactly when its number is. -/
lemma IsWord.read_eq_some_iff {bits : ℕ} {α : Type} {number : α → ℤ} {ofNumber : ℤ → α}
    (word : IsWord bits number ofNumber) {text : List Char} {w : α} :
    ((readInteger text).filter (fitsWord bits)).map ofNumber = some w ↔
      readInteger text = some (number w) := by
  constructor
  · intro h
    obtain ⟨n, hn, rfl⟩ := Option.map_eq_some_iff.1 h
    obtain ⟨hread, hfits⟩ := Option.filter_eq_some_iff.1 hn
    rw [hread, word.number_ofNumber (fitsWord_iff.1 hfits)]
  · intro h
    rw [h, Option.filter_some_pos (fitsWord_iff.2 (word.inWord w)), Option.map_some,
      word.ofNumber_number]

end Integer

open Integer

variable {t : ValueType}

/-- A conversion reads integers into words of so many bits, and reads every one of them. `number` is
the number that a word stands for, and `print` writes a word in decimal notation. -/
structure ReadsExactly (bits : ℕ) (conversion : Conversion t) (number : t.Carrier → ℤ)
    (print : Transformation t .text) : Prop where
  /-- A text converts to a number exactly when it spells the number, white space around it ignored,
  and the number is one of the word. -/
  converts_iff (text : String) (n : ℤ) :
    (∃ w, conversion.convert text = .ok w ∧ number w = n) ↔
      (∃ s : Spelling, s.text = trim text.toList ∧ s.value = n) ∧ InWord bits n
  /-- Both ends of the range are read, however they are spelled. -/
  ends {text : String} {s : Spelling} (spelled : s.text = trim text.toList)
    (is_end : s.value = -2 ^ (bits - 1) ∨ s.value = 2 ^ (bits - 1) - 1) :
    ∃ w, conversion.convert text = .ok w ∧ number w = s.value
  /-- The numbers one beyond the ends are not. -/
  beyond {text : String} {s : Spelling} (spelled : s.text = trim text.toList)
    (is_beyond : s.value = -2 ^ (bits - 1) - 1 ∨ s.value = 2 ^ (bits - 1)) :
    conversion.convert text = .error ⟨text, conversion.target⟩
  /-- The loop that keeps to the word comes to the same for any number of digits: on its way to a
  number of the word it never has to leave the word. -/
  accumulates {text : String} {s : Spelling} (spelled : s.text = trim text.toList) :
    accumulate bits s.isNegative 0 s.digits = (conversion.convert text).toOption.map number
  /-- Every word is read back from its decimal notation. -/
  printed (w : t.Carrier) : conversion.convert (print.apply w) = .ok w

section

variable {bits : ℕ} {conversion : Conversion t} {number : t.Carrier → ℤ} {ofNumber : ℤ → t.Carrier}
  (word : IsWord bits number ofNumber)
  (read_eq : ∀ text, conversion.read text =
    ((readInteger text).filter (fitsWord bits)).map ofNumber)
include word read_eq

lemma convert_eq_ok_iff_spelling {text : String} {w : t.Carrier} :
    conversion.convert text = .ok w ↔
      ∃ s : Spelling, s.text = trim text.toList ∧ s.value = number w := by
  rw [Conversion.convert_eq_ok_iff, read_eq, word.read_eq_some_iff, readInteger_eq_some_iff]
  refine and_iff_right_of_imp ?_
  rintro ⟨s, hs, -⟩
  rw [← hs]
  exact s.text_ne_nil

lemma convert_of_inWord {text : String} {s : Spelling} (spelled : s.text = trim text.toList)
    (h : InWord bits s.value) : conversion.convert text = .ok (ofNumber s.value) :=
  (convert_eq_ok_iff_spelling word read_eq).2 ⟨s, spelled, (word.number_ofNumber h).symm⟩

lemma convert_of_not_inWord {text : String} {s : Spelling} (spelled : s.text = trim text.toList)
    (h : ¬InWord bits s.value) : conversion.convert text = .error ⟨text, conversion.target⟩ := by
  refine Conversion.convert_eq_error_iff.2 ⟨fun w hw => h ?_, rfl⟩
  obtain ⟨s', hs', hvalue⟩ := (convert_eq_ok_iff_spelling word read_eq).1 hw
  rw [Spelling.value_eq_of_text_eq (spelled.trans hs'.symm), hvalue]
  exact word.inWord w

lemma readsExactly {print : Transformation t .text}
    (print_eq : ∀ w, print.apply w = toString (number w)) :
    ReadsExactly bits conversion number print where
  converts_iff text n := by
    constructor
    · rintro ⟨w, hw, rfl⟩
      exact ⟨(convert_eq_ok_iff_spelling word read_eq).1 hw, word.inWord w⟩
    · rintro ⟨⟨s, spelled, rfl⟩, h⟩
      exact ⟨_, convert_of_inWord word read_eq spelled h, word.number_ofNumber h⟩
  ends {text s} spelled is_end := by
    have hpos : (0 : ℤ) < 2 ^ (bits - 1) := by positivity
    have h : InWord bits s.value := by
      rw [InWord]
      omega
    exact ⟨_, convert_of_inWord word read_eq spelled h, word.number_ofNumber h⟩
  beyond {text s} spelled is_beyond := by
    refine convert_of_not_inWord word read_eq spelled ?_
    rw [InWord]
    omega
  accumulates {text s} spelled := by
    rw [s.accumulate_digits]
    by_cases h : InWord bits s.value
    · rw [fit_of_inWord h, convert_of_inWord word read_eq spelled h, Except.toOption,
        Option.map_some, word.number_ofNumber h]
    · rw [fit_of_not_inWord h, convert_of_not_inWord word read_eq spelled h]
      rfl
  printed w := by
    obtain ⟨s, hs, hvalue⟩ := exists_spelling_toString (number w)
    have hbare : trim s.text = s.text :=
      trim_eq_self_of_isNumeralCharacter fun c hc => .literal (s.isLiteralCharacter hc)
    rw [print_eq, convert_eq_ok_iff_spelling word read_eq]
    exact ⟨s, by rw [← hs, hbare], hvalue⟩

end

lemma readsExactly_int : ReadsExactly 32 .int Int32.toInt .intText :=
  readsExactly isWord_int (fun _ => rfl) fun _ => rfl

lemma readsExactly_long : ReadsExactly 64 .long Int64.toInt .longText :=
  readsExactly isWord_long (fun _ => rfl) fun _ => rfl

/-- Integers of 32 and of 64 bits are read exactly, whatever the length of the text. -/
theorem convert_integers_exact :
    ReadsExactly 32 .int Int32.toInt .intText ∧ ReadsExactly 64 .long Int64.toInt .longText :=
  ⟨readsExactly_int, readsExactly_long⟩

end Postulate.Number
