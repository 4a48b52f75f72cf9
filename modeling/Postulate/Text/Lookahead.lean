import Postulate.Text.Digits
import Postulate.Text.WhiteSpace

/-!
# Reading from the front of a text

A scanner takes what it recognises off the front of a text and hands back the rest. These are
the scanners from which the readers of numbers and dates are put together.
-/

namespace Postulate.Text

/-- What a scanner makes of a text: a value and the text after it, or nothing. -/
abbrev Scanner (α : Type) := List Char → Option (α × List Char)

/-- Takes exactly the given character. -/
def expect (c : Char) : List Char → Option (List Char)
  | [] => none
  | d :: rest => if d = c then some rest else none

/-- Takes a number of one to `width` ASCII digits, as many as there are. -/
def number (width : Nat) : Scanner Nat := fun text =>
  let digits := (text.take width).takeWhile Char.isDigit
  if digits.isEmpty then none else some (digitsValue digits, text.drop digits.length)

/-- Takes a number of any positive count of ASCII digits. -/
def longNumber : Scanner Nat := fun text =>
  let digits := text.takeWhile Char.isDigit
  if digits.isEmpty then none else some (digitsValue digits, text.dropWhile Char.isDigit)

/-- Takes a number of exactly `width` ASCII digits. -/
def fixedNumber (width : Nat) : Scanner Nat := fun text =>
  let digits := text.take width
  if digits.length = width ∧ digits.all Char.isDigit then
    some (digitsValue digits, text.drop width)
  else none

/-- Takes a word, ignoring the case of ASCII letters. The word is given in lower case. -/
def word : List Char → List Char → Option (List Char)
  | [], text => some text
  | _ :: _, [] => none
  | c :: rest, d :: text => if d.toLower = c then word rest text else none

/-- Takes a minus or plus sign if one is there; true means minus. -/
def sign : List Char → Bool × List Char
  | '-' :: rest => (true, rest)
  | '+' :: rest => (false, rest)
  | text => (false, text)

theorem expect_eq_some_iff {c : Char} {text rest : List Char} :
    expect c text = some rest ↔ text = c :: rest := by
  cases text with
  | nil => simp [expect]
  | cons d text =>
    by_cases h : d = c
    · simp [expect, h]
    · simp [expect, h]

/-! ## Digits in front of a text -/

/-- The characters at the front of a text that have a property and what is left are known from any
way to write the text as characters that have it and a text that starts with none. -/
theorem takeWhile_dropWhile_iff {p : Char → Bool} {text front rest : List Char} :
    text.takeWhile p = front ∧ text.dropWhile p = rest ↔
      text = front ++ rest ∧ (∀ c ∈ front, p c = true) ∧ rest.head?.all (!p ·) = true := by
  constructor
  · rintro ⟨rfl, rfl⟩
    refine ⟨List.takeWhile_append_dropWhile.symm,
      fun c hc => List.all_eq_true.1 List.all_takeWhile c hc, ?_⟩
    cases h : text.dropWhile p with
    | nil => rfl
    | cons c rest =>
      have hc := List.head_dropWhile_not (p := p) (l := text) (by simp [h])
      simpa [h] using hc
  · rintro ⟨rfl, hfront, hrest⟩
    rw [List.takeWhile_append_of_pos hfront, List.dropWhile_append_of_pos hfront]
    cases rest with
    | nil => simp
    | cons c rest =>
      have hc : p c = false := by simpa using hrest
      simp [hc]

/-- A run of digits in front of the text ends before it: the text starts with no ASCII digit. -/
def EndsDigits (text : List Char) : Prop := text.head?.all (!Char.isDigit ·) = true

/-- The digits at the front of a text and what is left. -/
theorem takeWhile_dropWhile_isDigit_iff {text digits rest : List Char} :
    text.takeWhile Char.isDigit = digits ∧ text.dropWhile Char.isDigit = rest ↔
      text = digits ++ rest ∧ (∀ c ∈ digits, c.isDigit = true) ∧ EndsDigits rest :=
  takeWhile_dropWhile_iff

theorem longNumber_eq_some_iff {text rest : List Char} {value : Nat} :
    longNumber text = some (value, rest) ↔
      ∃ digits, text = digits ++ rest ∧ digits ≠ [] ∧ (∀ c ∈ digits, c.isDigit = true) ∧
        EndsDigits rest ∧ value = digitsValue digits := by
  constructor
  · intro h
    simp only [longNumber] at h
    split at h
    · cases h
    · next hne =>
      obtain ⟨rfl, rfl⟩ : digitsValue _ = value ∧ _ = rest := by simpa using h
      obtain ⟨hsplit, hdigits, hrest⟩ := takeWhile_dropWhile_isDigit_iff.1 ⟨rfl, rfl⟩
      exact ⟨_, hsplit, by simpa using hne, hdigits, hrest, rfl⟩
  · rintro ⟨digits, hsplit, hne, hdigits, hrest, rfl⟩
    obtain ⟨htake, hdrop⟩ := takeWhile_dropWhile_isDigit_iff.2 ⟨hsplit, hdigits, hrest⟩
    simp [longNumber, htake, hdrop, hne]

theorem fixedNumber_eq_some_iff {width value : Nat} {text rest : List Char} :
    fixedNumber width text = some (value, rest) ↔
      ∃ digits, text = digits ++ rest ∧ digits.length = width ∧
        (∀ c ∈ digits, c.isDigit = true) ∧ value = digitsValue digits := by
  constructor
  · intro h
    simp only [fixedNumber] at h
    split at h
    · next hdigits =>
      obtain ⟨rfl, rfl⟩ : digitsValue _ = value ∧ _ = rest := by simpa using h
      exact ⟨text.take width, (List.take_append_drop width text).symm, hdigits.1,
        List.all_eq_true.1 hdigits.2, rfl⟩
    · cases h
  · rintro ⟨digits, rfl, rfl, hdigits, rfl⟩
    simpa [fixedNumber] using hdigits

theorem EndsDigits.take {text : List Char} (h : EndsDigits text) (count : Nat) :
    EndsDigits (text.take count) := by
  cases count with
  | zero => rfl
  | succ count =>
    cases text with
    | nil => rfl
    | cons c text => exact h

/-- A number ends with its last possible digit or where the digits end. -/
theorem number_eq_some_iff {width value : Nat} {text rest : List Char} :
    number width text = some (value, rest) ↔
      ∃ digits, text = digits ++ rest ∧ digits ≠ [] ∧ (∀ c ∈ digits, c.isDigit = true) ∧
        (digits.length = width ∨ digits.length < width ∧ EndsDigits rest) ∧
        value = digitsValue digits := by
  constructor
  · intro h
    simp only [number] at h
    split at h
    · cases h
    · next hne =>
      obtain ⟨rfl, rfl⟩ : digitsValue _ = value ∧ _ = rest := by simpa using h
      obtain ⟨hsplit, hdigits, hmore⟩ :=
        (@takeWhile_dropWhile_isDigit_iff (text.take width) _ _).1 ⟨rfl, rfl⟩
      generalize (text.take width).takeWhile Char.isDigit = digits at *
      generalize (text.take width).dropWhile Char.isDigit = more at *
      have hwhole : text = digits ++ (more ++ text.drop width) := by
        rw [← List.append_assoc, ← hsplit, List.take_append_drop]
      have hrest : text.drop digits.length = more ++ text.drop width := by
        conv => lhs; rw [hwhole]
        simp
      refine ⟨digits, by rw [hrest]; exact hwhole, by simpa using hne, hdigits, ?_, rfl⟩
      have hlen := congrArg List.length hsplit
      rw [List.length_take, List.length_append] at hlen
      cases more with
      | nil =>
        rw [List.length_nil] at hlen
        rcases Nat.lt_or_ge text.length width with hshort | hlong
        · right
          rw [hrest, List.drop_eq_nil_of_le (Nat.le_of_lt hshort)]
          exact ⟨by omega, rfl⟩
        · left
          omega
      | cons c more =>
        rw [List.length_cons] at hlen
        exact Or.inr ⟨by omega, by rw [hrest]; exact hmore⟩
  · rintro ⟨digits, rfl, hne, hdigits, hwidth, rfl⟩
    have htake : ((digits ++ rest).take width).takeWhile Char.isDigit = digits := by
      refine ((@takeWhile_dropWhile_isDigit_iff _ _ (rest.take (width - digits.length))).2
        ⟨?_, hdigits, ?_⟩).1
      · rw [List.take_append, List.take_of_length_le (by omega)]
      · rcases hwidth with h | ⟨-, h⟩
        · simp [h, EndsDigits]
        · exact h.take _
    simp [number, htake, hne]

end Postulate.Text
