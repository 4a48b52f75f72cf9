import Mathlib.Computability.Language
import Postulate.Proofs.Email.Grammar
import Postulate.TextCheck

/-!
# Addresses as a pattern

An address is often given by a regular pattern over the whole text, case ignored:

* a quote, characters other than quotes, and a quote; or an alphanumeric character, alone or with
  local characters and one more alphanumeric character behind it;
* an `@`;
* four numbers of one to three digits with dots between them, in brackets; or labels with a dot
  behind each, and 2 to 17 alphanumeric characters.

The pattern can be matched in many ways: the characters of a label overlap, an optional group ends
like the one in front of it, and a quoted text may hold further `@`s. It does not forbid two dots in
a row, which is asked afterwards of an unquoted local part, cut off at the last `@`. The main result
is `isEmail_passes_iff`: the check, the grammar, and the pattern with its second question agree, so
that the `@` of the pattern is always the last one.
-/

namespace Postulate.Email

open Postulate.Text
open scoped Computability

/-! ## Patterns -/

/-- One character of a class. -/
def oneOf (p : Char → Prop) : Language Char := {w | ∃ c, p c ∧ w = [c]}

/-- The given character. -/
def mark (c : Char) : Language Char := {[c]}

/-- A pattern repeated at least and at most so many times. -/
def times (least most : ℕ) (l : Language Char) : Language Char :=
  {w | ∃ n, least ≤ n ∧ n ≤ most ∧ w ∈ l ^ n}

section

variable {p : Char → Prop} {c : Char} {l : Language Char} {w : List Char}

lemma mem_oneOf : w ∈ oneOf p ↔ ∃ c, p c ∧ w = [c] := Iff.rfl

lemma mem_mark_mul : w ∈ mark c * l ↔ ∃ v ∈ l, w = c :: v := by
  rw [Language.mem_mul]
  constructor
  · rintro ⟨_, rfl, v, hv, rfl⟩
    exact ⟨v, hv, rfl⟩
  · rintro ⟨v, hv, rfl⟩
    exact ⟨[c], rfl, v, hv, rfl⟩

lemma mem_mul_mark : w ∈ l * mark c ↔ ∃ v ∈ l, w = v ++ [c] := by
  rw [Language.mem_mul]
  constructor
  · rintro ⟨v, hv, _, rfl, rfl⟩
    exact ⟨v, hv, rfl⟩
  · rintro ⟨v, hv, rfl⟩
    exact ⟨v, hv, [c], rfl, rfl⟩

lemma mem_oneOf_mul : w ∈ oneOf p * l ↔ ∃ c, p c ∧ ∃ v ∈ l, w = c :: v := by
  rw [Language.mem_mul]
  constructor
  · rintro ⟨_, ⟨c, hc, rfl⟩, v, hv, rfl⟩
    exact ⟨c, hc, v, hv, rfl⟩
  · rintro ⟨c, hc, v, hv, rfl⟩
    exact ⟨[c], ⟨c, hc, rfl⟩, v, hv, rfl⟩

lemma mem_oneOf_pow {n : ℕ} : w ∈ oneOf p ^ n ↔ w.length = n ∧ ∀ c ∈ w, p c := by
  induction n generalizing w with
  | zero =>
    rw [pow_zero, Language.mem_one, List.length_eq_zero_iff]
    exact ⟨fun h => ⟨h, by simp [h]⟩, And.left⟩
  | succ n ih =>
    simp only [pow_succ', mem_oneOf_mul, ih]
    cases w with
    | nil => simp
    | cons c v =>
      simp only [List.cons.injEq, List.length_cons, Nat.add_right_cancel_iff, List.mem_cons,
        forall_eq_or_imp]
      constructor
      · rintro ⟨_, hd, _, ⟨hlength, hv⟩, rfl, rfl⟩
        exact ⟨hlength, hd, hv⟩
      · rintro ⟨hlength, hc, hv⟩
        exact ⟨c, hc, v, ⟨hlength, hv⟩, rfl, rfl⟩

lemma mem_times_oneOf {least most : ℕ} :
    w ∈ times least most (oneOf p) ↔ least ≤ w.length ∧ w.length ≤ most ∧ ∀ c ∈ w, p c := by
  constructor
  · rintro ⟨n, hleast, hmost, hw⟩
    obtain ⟨rfl, hall⟩ := mem_oneOf_pow.1 hw
    exact ⟨hleast, hmost, hall⟩
  · rintro ⟨hleast, hmost, hall⟩
    exact ⟨w.length, hleast, hmost, mem_oneOf_pow.2 ⟨rfl, hall⟩⟩

lemma mem_oneOf_kstar : w ∈ (oneOf p)∗ ↔ ∀ c ∈ w, p c := by
  rw [Language.kstar_eq_iSup_pow, Language.mem_iSup]
  simp [mem_oneOf_pow]

/-- One or more times a pattern is a list of its texts that is not empty. -/
lemma mem_mul_kstar :
    w ∈ l * l∗ ↔ ∃ parts : List (List Char), parts ≠ [] ∧ (∀ part ∈ parts, part ∈ l) ∧
      w = parts.flatten := by
  rw [Language.mem_mul]
  constructor
  · rintro ⟨first, hfirst, rest, hrest, rfl⟩
    obtain ⟨parts, rfl, hparts⟩ := Language.mem_kstar.1 hrest
    refine ⟨first :: parts, by simp, ?_, rfl⟩
    simpa using ⟨hfirst, hparts⟩
  · rintro ⟨parts, hne, hparts, rfl⟩
    obtain ⟨first, parts, rfl⟩ := List.exists_cons_of_ne_nil hne
    exact ⟨first, hparts first (by simp), parts.flatten,
      Language.join_mem_kstar fun part hp => hparts part (by simp [hp]), rfl⟩

end

/-! ## The pattern of addresses -/

/-- A text between quotes. -/
def quotedPattern : Language Char :=
  mark '"' * (oneOf (· ≠ '"') * (oneOf (· ≠ '"'))∗) * mark '"'

/-- An alphanumeric character, and perhaps local characters with another one behind them. -/
def plainPattern : Language Char :=
  oneOf IsAlphanumeric * (1 + (oneOf (isLocalCharacter · = true))∗ * oneOf IsAlphanumeric)

/-- One to three digits. -/
def numberPattern : Language Char := times 1 3 (oneOf (isDecimalNumber · = true))

/-- Three times a number and a dot, then a number, in brackets. -/
def bracketedPattern : Language Char :=
  mark '[' * ((numberPattern * mark '.') ^ 3 * numberPattern) * mark ']'

/-- A label and the dot behind it. -/
def labelPattern : Language Char :=
  oneOf IsAlphanumeric *
    ((oneOf fun c => isWordCharacter c = true ∨ c = '-')∗ * (oneOf IsAlphanumeric)∗) * mark '.'

/-- One or more labels and a last one. -/
def namedPattern : Language Char :=
  labelPattern * labelPattern∗ * times 2 17 (oneOf IsAlphanumeric)

/-- The pattern of a whole address. -/
def pattern : Language Char :=
  (quotedPattern + plainPattern) * (mark '@' * (bracketedPattern + namedPattern))

lemma mem_quotedPattern {w : List Char} :
    w ∈ quotedPattern ↔
      ∃ inner : List Char, inner ≠ [] ∧ '"' ∉ inner ∧ w = '"' :: (inner ++ ['"']) := by
  simp only [quotedPattern, mem_mul_mark, mem_mark_mul, mem_oneOf_mul, mem_oneOf_kstar]
  constructor
  · rintro ⟨_, ⟨_, ⟨c, hc, rest, hrest, rfl⟩, rfl⟩, rfl⟩
    refine ⟨c :: rest, by simp, ?_, rfl⟩
    rw [List.mem_cons, not_or]
    exact ⟨hc.symm, fun h => hrest '"' h rfl⟩
  · rintro ⟨inner, hne, hquote, rfl⟩
    obtain ⟨c, rest, rfl⟩ := List.exists_cons_of_ne_nil hne
    rw [List.mem_cons, not_or] at hquote
    exact ⟨_, ⟨_, ⟨c, Ne.symm hquote.1, rest, fun d hd h => hquote.2 (h ▸ hd), rfl⟩, rfl⟩, rfl⟩

lemma mem_plainPattern {w : List Char} :
    w ∈ plainPattern ↔ (∃ c, IsAlphanumeric c ∧ w = [c]) ∨
      ∃ first between last, IsAlphanumeric first ∧ IsAlphanumeric last ∧
        (∀ c ∈ between, isLocalCharacter c = true) ∧ w = first :: (between ++ [last]) := by
  rw [plainPattern, mem_oneOf_mul]
  simp only [Language.mem_add, Language.mem_one, Language.mem_mul, mem_oneOf_kstar, mem_oneOf]
  constructor
  · rintro ⟨first, hfirst, _, rfl | ⟨between, hbetween, _, ⟨last, hlast, rfl⟩, rfl⟩, rfl⟩
    · exact Or.inl ⟨first, hfirst, rfl⟩
    · exact Or.inr ⟨first, between, last, hfirst, hlast, hbetween, rfl⟩
  · rintro (⟨c, hc, rfl⟩ | ⟨first, between, last, hfirst, hlast, hbetween, rfl⟩)
    · exact ⟨c, hc, [], Or.inl rfl, rfl⟩
    · exact ⟨first, hfirst, _, Or.inr ⟨between, hbetween, _, ⟨last, hlast, rfl⟩, rfl⟩, rfl⟩

lemma mem_numberPattern {w : List Char} : w ∈ numberPattern ↔ IsNumber w :=
  mem_times_oneOf

lemma mem_bracketedPattern {w : List Char} :
    w ∈ bracketedPattern ↔ ∃ a b c d, IsNumber a ∧ IsNumber b ∧ IsNumber c ∧ IsNumber d ∧
      w = '[' :: (a ++ '.' :: b ++ '.' :: c ++ '.' :: d ++ [']']) := by
  rw [bracketedPattern, mem_mul_mark]
  simp only [mem_mark_mul]
  have hdotted : ∀ w, w ∈ numberPattern * mark '.' ↔ ∃ a, IsNumber a ∧ w = a ++ ['.'] := by
    simp only [mem_mul_mark, mem_numberPattern, implies_true]
  constructor
  · rintro ⟨_, ⟨inner, hinner, rfl⟩, rfl⟩
    obtain ⟨front, hfront, d, hd, rfl⟩ := Language.mem_mul.1 hinner
    obtain ⟨parts, rfl, hlength, hparts⟩ := Language.mem_pow.1 hfront
    obtain ⟨x, y, z, rfl⟩ := List.length_eq_three.1 hlength
    obtain ⟨a, ha, rfl⟩ := (hdotted x).1 (hparts x (by simp))
    obtain ⟨b, hb, rfl⟩ := (hdotted y).1 (hparts y (by simp))
    obtain ⟨c, hc, rfl⟩ := (hdotted z).1 (hparts z (by simp))
    exact ⟨a, b, c, d, ha, hb, hc, mem_numberPattern.1 hd, by simp⟩
  · rintro ⟨a, b, c, d, ha, hb, hc, hd, rfl⟩
    refine ⟨_, ⟨_, Language.mem_mul.2 ⟨[a ++ ['.'], b ++ ['.'], c ++ ['.']].flatten, ?_, d,
      mem_numberPattern.2 hd, rfl⟩, rfl⟩, by simp⟩
    refine Language.mem_pow.2 ⟨_, rfl, rfl, ?_⟩
    simp only [List.mem_cons, List.not_mem_nil, or_false, hdotted]
    rintro part (rfl | rfl | rfl)
    · exact ⟨a, ha, rfl⟩
    · exact ⟨b, hb, rfl⟩
    · exact ⟨c, hc, rfl⟩

/-- The alphanumeric characters at the end of a label are label characters like those before. -/
lemma mem_labelPattern {w : List Char} :
    w ∈ labelPattern ↔ ∃ label, IsInnerLabel label ∧ w = label ++ ['.'] := by
  simp only [labelPattern, mem_mul_mark, mem_oneOf_mul]
  simp only [Language.mem_mul, mem_oneOf_kstar]
  constructor
  · rintro ⟨_, ⟨c, hc, _, ⟨front, hfront, back, hback, rfl⟩, rfl⟩, rfl⟩
    refine ⟨_, ⟨c, front ++ back, rfl, hc, fun d hd => ?_⟩, rfl⟩
    rcases List.mem_append.1 hd with hd | hd
    · exact hfront d hd
    · exact Or.inl (isWordCharacter_of_isAlphanumeric (isAlphanumeric_iff.2 (hback d hd)))
  · rintro ⟨_, ⟨c, rest, rfl, hc, hrest⟩, rfl⟩
    exact ⟨_, ⟨c, hc, rest, ⟨rest, hrest, [], by simp, by simp⟩, rfl⟩, rfl⟩

lemma mem_namedPattern {w : List Char} :
    w ∈ namedPattern ↔ ∃ labels last, labels ≠ [] ∧ (∀ label ∈ labels, IsInnerLabel label) ∧
      IsLastLabel last ∧ w = labels.flatMap (· ++ ['.']) ++ last := by
  rw [namedPattern, Language.mem_mul]
  constructor
  · rintro ⟨_, hfront, last, hlast, rfl⟩
    obtain ⟨parts, hne, hparts, rfl⟩ := mem_mul_kstar.1 hfront
    have hlabels : ∀ part ∈ parts, IsInnerLabel part.dropLast ∧ part.dropLast ++ ['.'] = part := by
      intro part hpart
      obtain ⟨label, hlabel, rfl⟩ := mem_labelPattern.1 (hparts part hpart)
      rw [List.dropLast_concat]
      exact ⟨hlabel, rfl⟩
    have hflatten : (parts.map List.dropLast).flatMap (· ++ ['.']) = parts.flatten := by
      rw [List.flatMap_def, List.map_map]
      exact congrArg List.flatten
        ((List.map_congr_left fun part hpart => (hlabels part hpart).2).trans (List.map_id _))
    refine ⟨parts.map List.dropLast, last, by simpa using hne, ?_, mem_times_oneOf.1 hlast, by
      rw [hflatten]⟩
    simp only [List.mem_map]
    rintro _ ⟨part, hpart, rfl⟩
    exact (hlabels part hpart).1
  · rintro ⟨labels, last, hne, hlabels, hlast, rfl⟩
    refine ⟨_, mem_mul_kstar.2 ⟨labels.map (· ++ ['.']), by simpa using hne, ?_, rfl⟩, last,
      mem_times_oneOf.2 hlast, by rw [List.flatMap_def]⟩
    simp only [List.mem_map, mem_labelPattern]
    rintro _ ⟨label, hlabel, rfl⟩
    exact ⟨label, hlabels label hlabel, rfl⟩

/-! ## The check, the grammar and the pattern -/

/-- A local part is a text of the pattern in which no two dots follow each other, unless it starts
with a quote. -/
lemma isLocal_iff_mem_pattern {w : List Char} :
    IsLocal w ↔ w ∈ quotedPattern + plainPattern ∧ (w.head? = some '"' ∨ ¬['.', '.'] <:+: w) := by
  have hquote : ∀ c, IsAlphanumeric c → c ≠ '"' := fun c hc =>
    ne_of_isAlphanumeric (isAlphanumeric_iff.2 hc) (by decide +kernel)
  rw [Language.mem_add, mem_quotedPattern, mem_plainPattern]
  constructor
  · rintro (⟨hne, hinner⟩ | hc | ⟨hfirst, hlast, hbetween, hdots⟩)
    · exact ⟨Or.inl ⟨_, hne, hinner, rfl⟩, Or.inl rfl⟩
    · exact ⟨Or.inr (Or.inl ⟨_, hc, rfl⟩), Or.inr (by simp [List.infix_cons_iff])⟩
    · exact ⟨Or.inr (Or.inr ⟨_, _, _, hfirst, hlast, hbetween, rfl⟩), Or.inr hdots⟩
  · rintro ⟨⟨inner, hne, hinner, rfl⟩ | ⟨c, hc, rfl⟩ |
      ⟨first, between, last, hfirst, hlast, hbetween, rfl⟩, hdots⟩
    · exact .quoted hne hinner
    · exact .single hc
    · refine .plain hfirst hlast hbetween (hdots.resolve_left ?_)
      simpa using hquote first hfirst

lemma isDomain_iff_mem_pattern {w : List Char} :
    IsDomain w ↔ w ∈ bracketedPattern + namedPattern := by
  rw [isDomain_iff, Bool.or_eq_true, isBracketedAddress_iff, isDomainName_iff, Language.mem_add,
    mem_bracketedPattern, mem_namedPattern]

/-- No part of a domain holds an `@`, so the one in front of it is the last of the text. -/
lemma at_notMem_of_isDomain {w : List Char} (h : IsDomain w) : '@' ∉ w := by
  have hword : isWordCharacter '@' = false := by decide +kernel
  have halphanumeric : ∀ c, IsAlphanumeric c → '@' ≠ c := fun c hc =>
    (ne_of_isAlphanumeric (isAlphanumeric_iff.2 hc) hword).symm
  cases h with
  | bracketed ha hb hc hd =>
    have hnumber : ∀ text, IsNumber text → '@' ∉ text := fun text htext hat => by
      have := htext.2.2 '@' hat
      revert this
      decide
    simp [hnumber _ ha, hnumber _ hb, hnumber _ hc, hnumber _ hd]
  | named _ hlabels hlast =>
    simp only [List.mem_append, List.mem_flatMap, List.mem_singleton, not_or, not_exists, not_and]
    refine ⟨fun label hlabel => ⟨?_, by decide⟩, fun hat => halphanumeric _ (hlast.2.2 _ hat) rfl⟩
    obtain ⟨c, rest, rfl, hc, hrest⟩ := hlabels label hlabel
    rw [List.mem_cons, not_or]
    refine ⟨halphanumeric c hc, fun hat => ?_⟩
    rcases hrest '@' hat with h | h
    · rw [hword] at h
      cases h
    · cases h

/-- What a local part starts with is no white space. -/
lemma isWhiteSpace_head_of_isLocal {w : List Char} (h : IsLocal w) :
    ∃ c rest, w = c :: rest ∧ isWhiteSpace c = false := by
  cases h with
  | quoted => exact ⟨_, _, rfl, by decide⟩
  | single hc => exact ⟨_, _, rfl, isWhiteSpace_of_isAlphanumeric (isAlphanumeric_iff.2 hc)⟩
  | plain hfirst => exact ⟨_, _, rfl, isWhiteSpace_of_isAlphanumeric (isAlphanumeric_iff.2 hfirst)⟩

/-- What a domain ends with is no white space. -/
lemma isWhiteSpace_last_of_isDomain {w : List Char} (h : IsDomain w) :
    ∃ rest c, w = rest ++ [c] ∧ isWhiteSpace c = false := by
  cases h with
  | bracketed => exact ⟨_ :: _, _, rfl, by decide⟩
  | @named labels last _ _ hlast =>
    rcases List.eq_nil_or_concat last with rfl | ⟨rest, c, rfl⟩
    · exact absurd hlast.1 (by simp)
    · rw [List.concat_eq_append] at hlast ⊢
      refine ⟨labels.flatMap (· ++ ['.']) ++ rest, c, by simp, ?_⟩
      exact isWhiteSpace_of_isAlphanumeric (isAlphanumeric_iff.2 (hlast.2.2 c (by simp)))

/-- A text is accepted exactly when it is an address of the grammar, and exactly when it matches the
pattern and has, before its last `@`, a quote at the front or no two dots in a row. An accepted text
neither starts nor ends with white space. -/
theorem isEmail_passes_iff (text : String) :
    (TextCheck.isEmail.passes text = true ↔
      ∃ front back, text.toList = front ++ '@' :: back ∧ '@' ∉ back ∧ IsLocal front ∧
        IsDomain back) ∧
    (TextCheck.isEmail.passes text = true ↔
      text.toList ∈ pattern ∧ ∀ front back, text.toList = front ++ '@' :: back → '@' ∉ back →
        front.head? = some '"' ∨ ¬['.', '.'] <:+: front) ∧
    (TextCheck.isEmail.passes text = true →
      ∀ c, text.toList.head? = some c ∨ text.toList.getLast? = some c →
        isWhiteSpace c = false) := by
  change (isAddress text.toList = true ↔ _) ∧ (isAddress text.toList = true ↔ _) ∧
    (isAddress text.toList = true → _)
  refine ⟨isAddress_iff_grammar, ?_, ?_⟩
  · rw [isAddress_iff_grammar, pattern, Language.mem_mul]
    simp only [mem_mark_mul, ← isDomain_iff_mem_pattern]
    constructor
    · rintro ⟨front, back, htext, hback, hlocal, hdomain⟩
      obtain ⟨hfront, hdots⟩ := isLocal_iff_mem_pattern.1 hlocal
      refine ⟨⟨front, hfront, _, ⟨back, hdomain, rfl⟩, htext.symm⟩,
        fun front' back' htext' hback' => ?_⟩
      have hcut := cutAtLast_eq_some_iff.2 ⟨htext, hback⟩
      rw [cutAtLast_eq_some_iff.2 ⟨htext', hback'⟩, Option.some.injEq, Prod.mk.injEq] at hcut
      rwa [hcut.1]
    · rintro ⟨⟨front, hfront, _, ⟨back, hdomain, rfl⟩, htext⟩, hdots⟩
      have hback := at_notMem_of_isDomain hdomain
      exact ⟨front, back, htext.symm, hback,
        isLocal_iff_mem_pattern.2 ⟨hfront, hdots front back htext.symm hback⟩, hdomain⟩
  · intro h c hc
    obtain ⟨front, back, htext, -, hlocal, hdomain⟩ := isAddress_iff_grammar.1 h
    obtain ⟨first, rest, rfl, hfirst⟩ := isWhiteSpace_head_of_isLocal hlocal
    obtain ⟨others, last, rfl, hlast⟩ := isWhiteSpace_last_of_isDomain hdomain
    have hend : (first :: rest ++ '@' :: (others ++ [last])).getLast? = some last := by
      rw [← List.cons_append, ← List.append_assoc, List.getLast?_concat]
    rw [htext, hend] at hc
    rcases hc with hc | hc
    · obtain rfl : first = c := by simpa using hc
      exact hfirst
    · obtain rfl : last = c := by simpa using hc
      exact hlast

end Postulate.Email
