import Postulate.Conversion
import Postulate.Proofs.Number.Characters

/-!
# How floating-point literals are spelled

A literal is a sign or none and an unsigned literal: a named one, in any case, or a numeral. A
numeral is digits, perhaps a point with digits after it, and perhaps an exponent, which is a mark, a
sign or none and digits, at least one. Digits may be missing on one side of the point, but not on
both.

The readers of the parts each take what belongs to them and leave the rest; so the parts of a
numeral are found again because none of them can go on in the next one. The main result is
`readFloating_isSome_iff`: what is read are exactly the literals of this grammar. It does not depend
on the width of the number that is asked for.
-/

namespace Postulate.Number

open Postulate.Text
open Decimal.Spelling (pointText)

/-- An exponent, if there is one. -/
inductive IsExponent : List Char → Prop
  | absent : IsExponent []
  | present {mark : Char} {digits : List Char} (isMark : mark = 'e' ∨ mark = 'E')
      (sign : Option Sign) (digits_isDigits : IsDigits digits) (some_digit : digits ≠ []) :
      IsExponent (mark :: (Sign.text sign ++ digits))

/-- The names that literals have, in lower case. -/
def literalNames : List (List Char) := ["inf".toList, "infinity".toList, "nan".toList]

/-- A literal without a sign. -/
inductive IsUnsigned : List Char → Prop
  | numeral {integral exponent : List Char} {afterPoint : Option (List Char)}
      (integral_isDigits : IsDigits integral) (fraction_isDigits : IsDigits (afterPoint.getD []))
      (some_digit : integral ≠ [] ∨ afterPoint.getD [] ≠ []) (isExponent : IsExponent exponent) :
      IsUnsigned (integral ++ (pointText afterPoint ++ exponent))
  | named {name : List Char} (isName : name.map Char.toLower ∈ literalNames) : IsUnsigned name

/-- A literal, with the sign that may stand before it. -/
inductive IsLiteral : List Char → Prop
  | mk (sign : Option Sign) {body : List Char} (isUnsigned : IsUnsigned body) :
      IsLiteral (Sign.text sign ++ body)

/-! ## Exponents -/

lemma isSome_readExponent_cons {c : Char} {rest : List Char} :
    (readExponent (c :: rest)).isSome = true ↔
      (c = 'e' ∨ c = 'E') ∧ (Text.sign rest).2 ≠ [] ∧ IsDigits (Text.sign rest).2 := by
  simp only [readExponent]
  split
  · next h => simpa [IsDigits] using h
  · next h => simpa [IsDigits] using h

lemma readExponent_isSome_iff {text : List Char} :
    (readExponent text).isSome = true ↔ IsExponent text := by
  constructor
  · intro h
    cases text with
    | nil => exact .absent
    | cons c rest =>
      obtain ⟨hmark, hsome, hdigits⟩ := isSome_readExponent_cons.1 h
      obtain ⟨sign, -, hsplit⟩ := Sign.exists_eq_text_append_sign rest
      rw [hsplit]
      exact .present hmark sign hdigits hsome
  · rintro (_ | ⟨hmark, sign, hdigits, hsome⟩)
    · rfl
    · rw [isSome_readExponent_cons, Sign.sign_text_append _ hdigits.missesMark_head?]
      exact ⟨hmark, hsome, hdigits⟩

/-- An exponent goes on neither a run of digits nor an integer part that has no point. -/
lemma IsExponent.ends {text : List Char} (h : IsExponent text) :
    EndsDigits text ∧ text.head? ≠ some '.' := by
  rcases h with _ | ⟨rfl | rfl, sign, hdigits, hsome⟩ <;> exact ⟨rfl, by simp⟩

/-! ## Tails -/

/-- What may stand behind the integer part of a numeral: nothing, or a text that starts with a point
or an exponent mark. -/
def IsTail (tail : List Char) : Prop :=
  (tail.head?.all fun c => c = '.' ∨ c = 'e' ∨ c = 'E') = true

/-- A tail starts with none of the characters that a point and the marks are not among. -/
lemma IsTail.ends {tail : List Char} (h : IsTail tail) {p : Char → Bool}
    (hp : p '.' = false ∧ p 'e' = false ∧ p 'E' = false) : tail.head?.all (!p ·) = true := by
  cases tail with
  | nil => rfl
  | cons c rest =>
    have hc : c = '.' ∨ c = 'e' ∨ c = 'E' := by simpa [IsTail] using h
    rcases hc with rfl | rfl | rfl <;> simp [hp]

lemma IsTail.endsDigits {tail : List Char} (h : IsTail tail) : EndsDigits tail := h.ends (by decide)

lemma isTail_pointText_append {exponent : List Char} (h : IsExponent exponent)
    (afterPoint : Option (List Char)) : IsTail (pointText afterPoint ++ exponent) := by
  cases afterPoint with
  | some digits => rfl
  | none => rcases h with _ | ⟨rfl | rfl, sign, hdigits, hsome⟩ <;> rfl

/-! ## Numerals -/

/-- A text is a point and the digits behind it, or neither, and what is left. -/
lemma exists_eq_pointText_append (t : List Char) :
    ∃ afterPoint : Option (List Char), (fractionDigits t).1 = afterPoint.getD [] ∧
      IsDigits (afterPoint.getD []) ∧ t = pointText afterPoint ++ (fractionDigits t).2 := by
  fun_cases fractionDigits t with
  | case1 rest =>
    refine ⟨some (rest.takeWhile Char.isDigit), rfl,
      fun c hc => List.all_eq_true.1 List.all_takeWhile c hc, ?_⟩
    simp [pointText]
  | case2 => exact ⟨none, rfl, by simp [IsDigits], rfl⟩

lemma fractionDigits_pointText_append {afterPoint : Option (List Char)} {rest : List Char}
    (h : IsDigits (afterPoint.getD [])) (hrest : EndsDigits rest) (hpoint : rest.head? ≠ some '.') :
    fractionDigits (pointText afterPoint ++ rest) = (afterPoint.getD [], rest) := by
  cases afterPoint with
  | none =>
    fun_cases fractionDigits rest with
    | case1 => simp at hpoint
    | case2 => rfl
  | some digits =>
    obtain ⟨htake, hdrop⟩ := takeWhile_dropWhile_isDigit_iff.2 ⟨rfl, h, hrest⟩
    simp only [Option.getD_some] at htake hdrop
    simp [pointText, fractionDigits, htake, hdrop]

lemma isSome_readNumeral {text : List Char} :
    (readNumeral text).isSome = true ↔
      (text.takeWhile Char.isDigit ≠ [] ∨
          (fractionDigits (text.dropWhile Char.isDigit)).1 ≠ []) ∧
        IsExponent (fractionDigits (text.dropWhile Char.isDigit)).2 := by
  simp only [readNumeral, ← readExponent_isSome_iff]
  split
  · next h =>
    rw [Bool.and_eq_true, List.isEmpty_iff, List.isEmpty_iff] at h
    exact iff_of_false Bool.false_ne_true fun hsome => hsome.1.elim (absurd h.1) (absurd h.2)
  · next h =>
    rw [Bool.and_eq_true, List.isEmpty_iff, List.isEmpty_iff, not_and_or] at h
    rw [Option.isSome_map]
    exact (and_iff_right h).symm

lemma readNumeral_isSome_iff {text : List Char} :
    (readNumeral text).isSome = true ↔
      ∃ integral afterPoint exponent, IsDigits integral ∧ IsDigits (afterPoint.getD []) ∧
        (integral ≠ [] ∨ afterPoint.getD [] ≠ []) ∧ IsExponent exponent ∧
        text = integral ++ (pointText afterPoint ++ exponent) := by
  rw [isSome_readNumeral]
  constructor
  · rintro ⟨hsome, hexponent⟩
    obtain ⟨afterPoint, hfraction, hdigits, hsplit⟩ :=
      exists_eq_pointText_append (text.dropWhile Char.isDigit)
    rw [hfraction] at hsome
    refine ⟨_, afterPoint, _, fun c hc => List.all_eq_true.1 List.all_takeWhile c hc, hdigits,
      hsome, hexponent, ?_⟩
    rw [← hsplit, List.takeWhile_append_dropWhile]
  · rintro ⟨integral, afterPoint, exponent, hintegral, hfraction, hsome, hexponent, rfl⟩
    obtain ⟨htake, hdrop⟩ := takeWhile_dropWhile_isDigit_iff.2
      ⟨rfl, hintegral, (isTail_pointText_append hexponent afterPoint).endsDigits⟩
    rw [htake, hdrop, fractionDigits_pointText_append hfraction hexponent.ends.1 hexponent.ends.2]
    exact ⟨hsome, hexponent⟩

/-! ## Literals -/

lemma readNamed_isSome_iff {text : List Char} :
    (readNamed text).isSome = true ↔ text.map Char.toLower ∈ literalNames := by
  simp only [readNamed, literalNames, List.mem_cons, List.not_mem_nil, or_false, ← or_assoc]
  split
  · next hinfinity => exact iff_of_true rfl (Or.inl hinfinity)
  · next hinfinity =>
    rw [or_iff_right hinfinity]
    split
    · next hnan => exact iff_of_true rfl hnan
    · next hnan => exact iff_of_false Bool.false_ne_true hnan

/-- A name consists of letters. -/
lemma isAlpha_of_mem_name {name : List Char} (h : name.map Char.toLower ∈ literalNames) {c : Char}
    (hc : c ∈ name) : c.isAlpha = true := by
  have hletters : literalNames.all (·.all Char.isAlpha) = true := by decide
  have hlower : c.toLower.isAlpha = true :=
    List.all_eq_true.1 (List.all_eq_true.1 hletters _ h) _ (List.mem_map_of_mem hc)
  obtain ⟨hupper, -⟩ | ⟨-, hsame⟩ := isLower_toLower_or_eq c
  · exact isAlpha_iff.2 (Or.inl hupper)
  · rwa [hsame] at hlower

/-- An unsigned literal is read as a numeral or as a name. -/
lemma isUnsigned_iff {text : List Char} :
    IsUnsigned text ↔ ((readNumeral text).or (readNamed text)).isSome = true := by
  rw [Option.isSome_or, Bool.or_eq_true, readNumeral_isSome_iff, readNamed_isSome_iff]
  constructor
  · rintro (⟨hintegral, hfraction, hsome, hexponent⟩ | h)
    · exact Or.inl ⟨_, _, _, hintegral, hfraction, hsome, hexponent, rfl⟩
    · exact Or.inr h
  · rintro (⟨_, _, _, hintegral, hfraction, hsome, hexponent, rfl⟩ | h)
    · exact .numeral hintegral hfraction hsome hexponent
    · exact .named h

lemma IsExponent.isLiteralCharacter {text : List Char} (h : IsExponent text) {c : Char}
    (hc : c ∈ text) : IsLiteralCharacter c := by
  rcases h with _ | ⟨hmark, sign, hdigits, -⟩
  · cases hc
  · rcases List.mem_cons.1 hc with rfl | hc
    · exact .letter (by rcases hmark with rfl | rfl <;> rfl)
    · rcases List.mem_append.1 hc with hc | hc
      · exact Sign.isLiteralCharacter hc
      · exact hdigits.isLiteralCharacter hc

namespace IsUnsigned

variable {text : List Char}

lemma missesMark_head? (h : IsUnsigned text) : Sign.MissesMark text.head? := by
  rcases h with @⟨integral, exponent, afterPoint, hintegral, -, hsome, -⟩ | h
  · cases integral with
    | cons c rest => exact hintegral.missesMark_head?
    | nil =>
      cases afterPoint with
      | none => simp at hsome
      | some digits => rfl
  · cases text with
    | nil => rfl
    | cons c rest =>
      have hletter := isAlpha_of_mem_name h (c := c) (by simp)
      have hmark : Sign.isMark c = false := by
        by_contra hmark
        obtain ⟨sign, rfl⟩ := Sign.exists_mark (by simpa using hmark)
        cases sign <;> cases hletter
      simp [Sign.MissesMark, hmark]

lemma isLiteralCharacter (h : IsUnsigned text) {c : Char} (hc : c ∈ text) :
    IsLiteralCharacter c := by
  rcases h with ⟨hintegral, hfraction, -, hexponent⟩ | h
  · simp only [List.mem_append] at hc
    rcases hc with hc | hc | hc
    · exact hintegral.isLiteralCharacter hc
    · exact isLiteralCharacter_of_mem_pointText hfraction hc
    · exact hexponent.isLiteralCharacter hc
  · exact .letter (isAlpha_of_mem_name h hc)

/-- Digits in front of an unsigned literal are its integer part, and what stands behind them is a
tail. -/
lemma isTail_of_digits {digits rest : List Char} (h : IsUnsigned (digits ++ rest))
    (hdigits : IsDigits digits) (hsome : digits ≠ []) (hrest : EndsDigits rest) : IsTail rest := by
  rw [isUnsigned_iff, Option.isSome_or, Bool.or_eq_true, readNumeral_isSome_iff,
    readNamed_isSome_iff] at h
  rcases h with ⟨integral, afterPoint, exponent, hintegral, -, -, hexponent, hsplit⟩ | h
  · have htail := isTail_pointText_append hexponent afterPoint
    have hfirst := takeWhile_dropWhile_isDigit_iff.2 ⟨rfl, hdigits, hrest⟩
    have hsecond := takeWhile_dropWhile_isDigit_iff.2 ⟨hsplit, hintegral, htail.endsDigits⟩
    rwa [← hfirst.2, hsecond.2]
  · obtain ⟨c, digits, rfl⟩ := List.exists_cons_of_ne_nil hsome
    have hrange := toNat_of_isAlpha (isAlpha_of_mem_name h (c := c) (by simp))
    have hrange' := toNat_of_isDigit (hdigits c (by simp))
    omega

end IsUnsigned

/-- A literal is read exactly if what stands behind its sign is an unsigned literal. -/
lemma isSome_readFloating {text : List Char} :
    (readFloating text).isSome = true ↔ IsUnsigned (Text.sign text).2 := by
  rw [isUnsigned_iff, readFloating]
  simp

/-- What is read are exactly the literals. -/
lemma readFloating_isSome_iff {text : List Char} :
    (readFloating text).isSome = true ↔ IsLiteral text := by
  rw [isSome_readFloating]
  constructor
  · intro h
    obtain ⟨sign, -, hsplit⟩ := Sign.exists_eq_text_append_sign text
    rw [hsplit]
    exact .mk sign h
  · rintro ⟨sign, h⟩
    rwa [Sign.sign_text_append _ h.missesMark_head?]

/-- The width of the number does not matter. -/
lemma BinaryFormat.read_isSome_iff (format : BinaryFormat) {text : List Char} :
    (format.read text).isSome = true ↔ IsLiteral text := by
  rw [← readFloating_isSome_iff, BinaryFormat.read, Option.isSome_map]

namespace IsLiteral

variable {text : List Char}

lemma isLiteralCharacter (h : IsLiteral text) {c : Char} (hc : c ∈ text) :
    IsLiteralCharacter c := by
  obtain ⟨sign, h⟩ := h
  rcases List.mem_append.1 hc with hc | hc
  · exact Sign.isLiteralCharacter hc
  · exact h.isLiteralCharacter hc

lemma comma_notMem (h : IsLiteral text) : ',' ∉ text := fun hc =>
  (h.isLiteralCharacter hc).ne_comma rfl

end IsLiteral

/-- The literals, white space around them ignored, are what converts to a number of 32 bits. -/
lemma exists_convert_float_iff {text : String} :
    (∃ x, Conversion.float.convert text = .ok x) ↔ IsLiteral (trim text.toList) := by
  have hread : (readFloat (trim text.toList)).isSome = true ↔ IsLiteral (trim text.toList) := by
    rw [readFloat, Option.isSome_map, BinaryFormat.read_isSome_iff]
  rw [← hread, Option.isSome_iff_exists]
  refine exists_congr fun x => Conversion.convert_eq_ok_iff.trans (and_iff_right_of_imp ?_)
  intro hx hnil
  rw [show Conversion.float.read = readFloat from rfl, hnil] at hx
  cases hx

end Postulate.Number
