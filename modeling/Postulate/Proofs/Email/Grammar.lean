import Mathlib.Data.List.Infix
import Mathlib.Tactic.SplitIfs
import Postulate.Email
import Postulate.Proofs.Text.Digits
import Postulate.Proofs.Text.Letters
import Postulate.Text.WhiteSpace

/-!
# The grammar of addresses

An address is a local part, the last `@` of the text, and a domain. The two parts are given here by
what they are made of: `IsLocal` and `IsDomain` have a constructor for each form that a part may
have. The main result is `isAddress_iff_grammar`: the check, which cuts a text at its last `@` and
the domain at its dots, accepts exactly the addresses of the grammar.
-/

namespace Postulate.Email

open Postulate.Text

/-! ## Characters -/

/-- The simple case folding of a character, as far as it leads to ASCII: the capital letters, the
long s and the Kelvin sign. -/
def foldCase (c : Char) : Char :=
  if c = '\u017f' then 's' else if c = '\u212a' then 'k' else c.toLower

/-- A digit or a letter from a to z, in either case. -/
def IsAlphanumeric (c : Char) : Prop :=
  (foldCase c).isDigit = true ∨ (foldCase c).isLower = true

lemma isAlphanumeric_iff {c : Char} : isAlphanumeric c = true ↔ IsAlphanumeric c := by
  unfold IsAlphanumeric foldCase isAlphanumeric
  split_ifs with hs hk
  · simp [hs]
  · simp [hk]
  · have hascii : (c.isAlphanum || c = '\u017f' || c = '\u212a') = true ↔ c.isAlphanum = true := by
      simp [hs, hk]
    rw [hascii, isAlphanum_iff, isAlpha_iff]
    obtain ⟨hupper, hlower⟩ | ⟨hupper, hsame⟩ := isLower_toLower_or_eq c
    · exact iff_of_true (Or.inl (Or.inl hupper)) (Or.inr hlower)
    · simp [hsame, hupper, or_comm]

/-- The code points of alphanumeric characters. -/
lemma toNat_of_isAlphanumeric {c : Char} (h : isAlphanumeric c = true) :
    (0x30 ≤ c.toNat ∧ c.toNat ≤ 0x39) ∨ (0x41 ≤ c.toNat ∧ c.toNat ≤ 0x5A) ∨
      (0x61 ≤ c.toNat ∧ c.toNat ≤ 0x7A) ∨ c.toNat = 0x17F ∨ c.toNat = 0x212A := by
  simp only [isAlphanumeric, Bool.or_eq_true, decide_eq_true_eq, isAlphanum_iff, isAlpha_iff,
    isUpper_iff, isLower_iff] at h
  rcases h with (((h | h) | h) | rfl) | rfl
  · exact Or.inr (Or.inl h)
  · exact Or.inr (Or.inr (Or.inl h))
  · exact Or.inl (toNat_of_isDigit h)
  · exact Or.inr (Or.inr (Or.inr (Or.inl rfl)))
  · exact Or.inr (Or.inr (Or.inr (Or.inr rfl)))

lemma isWordCharacter_of_isAlphanumeric {c : Char} (h : isAlphanumeric c = true) :
    isWordCharacter c = true := by
  have hrange : ∀ range ∈ wordCharacters, range.1 ≤ c.toNat ∧ c.toNat ≤ range.2 →
      isWordCharacter c = true := fun range hmem h => CodePoints.has_iff.2 ⟨range, hmem, h⟩
  rcases toNat_of_isAlphanumeric h with h | h | h | h | h
  · exact hrange (0x30, 0x39) (by decide +kernel) h
  · exact hrange (0x41, 0x5A) (by decide +kernel) h
  · exact hrange (0x61, 0x7A) (by decide +kernel) h
  · exact hrange (0xF8, 0x2C1) (by decide +kernel) (by omega)
  · exact hrange (0x212A, 0x212D) (by decide +kernel) (by omega)

lemma isWhiteSpace_of_isAlphanumeric {c : Char} (h : isAlphanumeric c = true) :
    isWhiteSpace c = false := by
  by_contra hspace
  rw [Bool.not_eq_false, isWhiteSpace, CodePoints.has_iff] at hspace
  have hcode := toNat_of_isAlphanumeric h
  simp only [whiteSpace, List.mem_cons, List.not_mem_nil, or_false, exists_eq_or_imp,
    exists_eq_left] at hspace
  omega

/-- A character that no word holds is not alphanumeric either. -/
lemma ne_of_isAlphanumeric {c d : Char} (h : isAlphanumeric c = true)
    (hd : isWordCharacter d = false) : c ≠ d := by
  rintro rfl
  rw [isWordCharacter_of_isAlphanumeric h] at hd
  cases hd

lemma isWordCharacter_dot : isWordCharacter '.' = false := by
  decide +kernel

/-! ## Local parts -/

/-- A local part: a text between quotes, or a text between alphanumeric characters. -/
inductive IsLocal : List Char → Prop
  | quoted {inner : List Char} (inner_ne_nil : inner ≠ []) (no_quote : '"' ∉ inner) :
      IsLocal ('"' :: (inner ++ ['"']))
  | single {c : Char} (alphanumeric : IsAlphanumeric c) : IsLocal [c]
  | plain {first last : Char} {between : List Char} (first_alphanumeric : IsAlphanumeric first)
      (last_alphanumeric : IsAlphanumeric last)
      (between_local : ∀ c ∈ between, isLocalCharacter c = true)
      (no_double_dot : ¬['.', '.'] <:+: first :: (between ++ [last])) :
      IsLocal (first :: (between ++ [last]))

lemma hasDoubleDot_iff {text : List Char} : hasDoubleDot text = true ↔ ['.', '.'] <:+: text := by
  fun_induction hasDoubleDot text with
  | case1 rest => simp [List.infix_cons_iff]
  | case2 c rest hne ih =>
    rw [ih, List.infix_cons_iff, or_iff_right]
    rintro ⟨more, h⟩
    simp only [List.cons_append, List.nil_append, List.cons.injEq] at h
    exact hne more h.1.symm h.2.symm
  | case3 => simp

lemma isQuotedLocal_iff {text : List Char} :
    isQuotedLocal text = true ↔
      ∃ inner : List Char, inner ≠ [] ∧ '"' ∉ inner ∧ text = '"' :: (inner ++ ['"']) := by
  constructor
  · intro h
    cases text with
    | nil => cases h
    | cons c rest =>
      by_cases hc : c = '"'
      · subst hc
        simp only [isQuotedLocal, Bool.and_eq_true, decide_eq_true_eq, Bool.not_eq_true'] at h
        obtain ⟨⟨hlast, hlength⟩, hquote⟩ := h
        obtain ⟨inner, rfl⟩ := List.getLast?_eq_some_iff.1 hlast
        refine ⟨inner, ?_, by simpa using hquote, rfl⟩
        rintro rfl
        simp at hlength
      · simp [isQuotedLocal, hc] at h
  · rintro ⟨inner, hne, hquote, rfl⟩
    simp [isQuotedLocal, hquote, List.length_pos_iff, hne]

lemma isLocalCharacter_of_isAlphanumeric {c : Char} (h : isAlphanumeric c = true) :
    isLocalCharacter c = true := by
  rw [isLocalCharacter, isWordCharacter_of_isAlphanumeric h, Bool.true_or]

lemma isPlainLocal_singleton {c : Char} : isPlainLocal [c] = true ↔ IsAlphanumeric c := by
  rw [← isAlphanumeric_iff]
  constructor
  · intro h
    simp only [isPlainLocal, Bool.and_eq_true] at h
    simpa using h.1.1.1
  · intro h
    simp [isPlainLocal, h, isLocalCharacter_of_isAlphanumeric h, hasDoubleDot]

lemma isPlainLocal_cons_append {first last : Char} {between : List Char} :
    isPlainLocal (first :: (between ++ [last])) = true ↔
      IsAlphanumeric first ∧ IsAlphanumeric last ∧ (∀ c ∈ between, isLocalCharacter c = true) ∧
        ¬['.', '.'] <:+: first :: (between ++ [last]) := by
  rw [← isAlphanumeric_iff, ← isAlphanumeric_iff, ← hasDoubleDot_iff, Bool.not_eq_true]
  have hend : (first :: (between ++ [last])).getLast? = some last :=
    List.getLast?_concat (l := first :: between)
  simp only [isPlainLocal, hend, List.head?_cons, Option.any_some, Bool.and_eq_true,
    Bool.not_eq_true', List.all_eq_true]
  constructor
  · rintro ⟨⟨⟨hfirst, hlast⟩, hall⟩, hdots⟩
    exact ⟨hfirst, hlast, fun c hc => hall c (by simp [hc]), hdots⟩
  · rintro ⟨hfirst, hlast, hbetween, hdots⟩
    refine ⟨⟨⟨hfirst, hlast⟩, fun c hc => ?_⟩, hdots⟩
    simp only [List.mem_cons, List.mem_append, List.not_mem_nil, or_false] at hc
    rcases hc with rfl | hc | rfl
    · exact isLocalCharacter_of_isAlphanumeric hfirst
    · exact hbetween c hc
    · exact isLocalCharacter_of_isAlphanumeric hlast

lemma isLocal_iff {text : List Char} :
    IsLocal text ↔ (isQuotedLocal text || isPlainLocal text) = true := by
  rw [Bool.or_eq_true, isQuotedLocal_iff]
  constructor
  · rintro (⟨hne, hquote⟩ | h | ⟨hfirst, hlast, hbetween, hdots⟩)
    · exact Or.inl ⟨_, hne, hquote, rfl⟩
    · exact Or.inr (isPlainLocal_singleton.2 h)
    · exact Or.inr (isPlainLocal_cons_append.2 ⟨hfirst, hlast, hbetween, hdots⟩)
  · rintro (⟨inner, hne, hquote, rfl⟩ | h)
    · exact .quoted hne hquote
    · cases text with
      | nil => cases h
      | cons first rest =>
        rcases List.eq_nil_or_concat rest with rfl | ⟨between, last, rfl⟩
        · exact .single (isPlainLocal_singleton.1 h)
        · rw [List.concat_eq_append] at h ⊢
          obtain ⟨hfirst, hlast, hbetween, hdots⟩ := isPlainLocal_cons_append.1 h
          exact .plain hfirst hlast hbetween hdots

/-! ## Domains -/

/-- A run of one to three decimal digits of any script. -/
def IsNumber (text : List Char) : Prop :=
  1 ≤ text.length ∧ text.length ≤ 3 ∧ ∀ c ∈ text, isDecimalNumber c = true

/-- A label before the last one: an alphanumeric character, then word characters and hyphens. -/
def IsInnerLabel (text : List Char) : Prop :=
  ∃ c rest, text = c :: rest ∧ IsAlphanumeric c ∧ ∀ d ∈ rest, isWordCharacter d = true ∨ d = '-'

/-- The last label: 2 to 17 alphanumeric characters. -/
def IsLastLabel (text : List Char) : Prop :=
  2 ≤ text.length ∧ text.length ≤ 17 ∧ ∀ c ∈ text, IsAlphanumeric c

/-- A domain: four numbers in brackets, or at least two labels, each but the last with a dot behind
it. -/
inductive IsDomain : List Char → Prop
  | bracketed {a b c d : List Char} (ha : IsNumber a) (hb : IsNumber b) (hc : IsNumber c)
      (hd : IsNumber d) : IsDomain ('[' :: (a ++ '.' :: b ++ '.' :: c ++ '.' :: d ++ [']']))
  | named {labels : List (List Char)} {last : List Char} (some_label : labels ≠ [])
      (labels_inner : ∀ label ∈ labels, IsInnerLabel label) (last_isLastLabel : IsLastLabel last) :
      IsDomain (labels.flatMap (· ++ ['.']) ++ last)

lemma isNumber_iff {text : List Char} : IsNumber text ↔ isAddressNumber text = true := by
  simp [IsNumber, isAddressNumber, and_assoc]

lemma isInnerLabel_iff {text : List Char} : IsInnerLabel text ↔ isLabel text = true := by
  cases text with
  | nil => simp [IsInnerLabel, isLabel]
  | cons c rest =>
    simp only [isLabel, isLabelCharacter, Bool.and_eq_true, List.all_eq_true, Bool.or_eq_true,
      decide_eq_true_eq, isAlphanumeric_iff]
    constructor
    · rintro ⟨d, more, h, hd, hmore⟩
      obtain ⟨rfl, rfl⟩ : c = d ∧ rest = more := by simpa using h
      exact ⟨hd, hmore⟩
    · rintro ⟨hc, hrest⟩
      exact ⟨c, rest, rfl, hc, hrest⟩

lemma isLastLabel_iff {text : List Char} : IsLastLabel text ↔ isTopLabel text = true := by
  simp [IsLastLabel, isTopLabel, isAlphanumeric_iff, and_assoc]

lemma dot_notMem_of_isNumber {text : List Char} (h : IsNumber text) : '.' ∉ text := fun hdot => by
  have := h.2.2 '.' hdot
  revert this
  decide

lemma dot_notMem_of_isInnerLabel {text : List Char} (h : IsInnerLabel text) : '.' ∉ text := by
  obtain ⟨c, rest, rfl, hc, hrest⟩ := h
  rw [List.mem_cons, not_or]
  refine ⟨(ne_of_isAlphanumeric (isAlphanumeric_iff.2 hc) isWordCharacter_dot).symm, fun hdot => ?_⟩
  rcases hrest '.' hdot with h | h
  · rw [isWordCharacter_dot] at h
    cases h
  · cases h

lemma dot_notMem_of_isLastLabel {text : List Char} (h : IsLastLabel text) : '.' ∉ text :=
  fun hdot => ne_of_isAlphanumeric (isAlphanumeric_iff.2 (h.2.2 '.' hdot)) isWordCharacter_dot rfl

lemma isBracketedAddress_iff {text : List Char} :
    isBracketedAddress text = true ↔
      ∃ a b c d, IsNumber a ∧ IsNumber b ∧ IsNumber c ∧ IsNumber d ∧
        text = '[' :: (a ++ '.' :: b ++ '.' :: c ++ '.' :: d ++ [']']) := by
  constructor
  · intro h
    cases text with
    | nil => cases h
    | cons bracket rest =>
      by_cases hbracket : bracket = '['
      · subst hbracket
        simp only [isBracketedAddress, Bool.and_eq_true, decide_eq_true_eq, beq_iff_eq,
          List.all_eq_true] at h
        obtain ⟨⟨hlast, hlength⟩, hnumbers⟩ := h
        obtain ⟨inner, rfl⟩ := List.getLast?_eq_some_iff.1 hlast
        rw [List.dropLast_concat] at hlength hnumbers
        obtain ⟨a, b, c, d, hpieces⟩ : ∃ a b c d, pieces '.' inner = [a, b, c] ++ [d] :=
          List.length_eq_four.1 hlength
        rw [hpieces] at hnumbers
        obtain ⟨-, -, rfl⟩ := pieces_eq_append_singleton_iff.1 hpieces
        exact ⟨a, b, c, d, isNumber_iff.2 (hnumbers a (by simp)),
          isNumber_iff.2 (hnumbers b (by simp)), isNumber_iff.2 (hnumbers c (by simp)),
          isNumber_iff.2 (hnumbers d (by simp)), by simp⟩
      · simp [isBracketedAddress, hbracket] at h
  · rintro ⟨a, b, c, d, ha, hb, hc, hd, rfl⟩
    have hpieces : pieces '.' (a ++ '.' :: b ++ '.' :: c ++ '.' :: d) = [a, b, c] ++ [d] := by
      rw [pieces_eq_append_singleton_iff]
      refine ⟨?_, dot_notMem_of_isNumber hd, by simp⟩
      simp [dot_notMem_of_isNumber ha, dot_notMem_of_isNumber hb, dot_notMem_of_isNumber hc]
    rw [isNumber_iff] at ha hb hc hd
    simp only [isBracketedAddress, List.getLast?_concat, List.dropLast_concat, hpieces]
    simp [ha, hb, hc, hd]

lemma isDomainName_iff {text : List Char} :
    isDomainName text = true ↔
      ∃ labels last, labels ≠ [] ∧ (∀ label ∈ labels, IsInnerLabel label) ∧ IsLastLabel last ∧
        text = labels.flatMap (· ++ ['.']) ++ last := by
  constructor
  · intro h
    obtain ⟨labels, last, hpieces⟩ : ∃ labels last, pieces '.' text = labels ++ [last] := by
      rcases List.eq_nil_or_concat (pieces '.' text) with hnil | ⟨labels, last, h⟩
      · exact absurd hnil (pieces_ne_nil '.' text)
      · exact ⟨labels, last, h.trans List.concat_eq_append⟩
    simp only [isDomainName, hpieces, Bool.and_eq_true, decide_eq_true_eq, List.getLast?_concat,
      Option.any_some, List.dropLast_concat, List.all_eq_true] at h
    obtain ⟨⟨hlength, hlast⟩, hlabels⟩ := h
    refine ⟨labels, last, ?_, fun label hl => isInnerLabel_iff.2 (hlabels label hl),
      isLastLabel_iff.2 hlast, (pieces_eq_append_singleton_iff.1 hpieces).2.2⟩
    rintro rfl
    simp at hlength
  · rintro ⟨labels, last, hne, hlabels, hlast, htext⟩
    have hpieces : pieces '.' text = labels ++ [last] := pieces_eq_append_singleton_iff.2
      ⟨fun label hl => dot_notMem_of_isInnerLabel (hlabels label hl),
        dot_notMem_of_isLastLabel hlast, htext⟩
    have hlength : 2 ≤ (labels ++ [last]).length := by
      have := List.length_pos_iff.2 hne
      rw [List.length_append, List.length_singleton]
      omega
    simp only [isDomainName, hpieces, Bool.and_eq_true, decide_eq_true_eq, List.getLast?_concat,
      Option.any_some, List.dropLast_concat, List.all_eq_true]
    exact ⟨⟨hlength, isLastLabel_iff.1 hlast⟩,
      fun label hl => isInnerLabel_iff.1 (hlabels label hl)⟩

lemma isDomain_iff {text : List Char} :
    IsDomain text ↔ (isBracketedAddress text || isDomainName text) = true := by
  rw [Bool.or_eq_true, isBracketedAddress_iff, isDomainName_iff]
  constructor
  · rintro (⟨ha, hb, hc, hd⟩ | ⟨hne, hlabels, hlast⟩)
    · exact Or.inl ⟨_, _, _, _, ha, hb, hc, hd, rfl⟩
    · exact Or.inr ⟨_, _, hne, hlabels, hlast, rfl⟩
  · rintro (⟨a, b, c, d, ha, hb, hc, hd, rfl⟩ | ⟨labels, last, hne, hlabels, hlast, rfl⟩)
    · exact .bracketed ha hb hc hd
    · exact .named hne hlabels hlast

/-! ## Addresses -/

/-- The address is a local part and a domain around its last `@`. -/
lemma isAddress_iff_grammar {text : List Char} :
    isAddress text = true ↔
      ∃ front back, text = front ++ '@' :: back ∧ '@' ∉ back ∧ IsLocal front ∧ IsDomain back := by
  cases hcut : cutAtLast '@' text with
  | none =>
    have hmem := cutAtLast_eq_none_iff.1 hcut
    simp only [isAddress, hcut, Bool.false_eq_true, false_iff]
    rintro ⟨front, back, rfl, -⟩
    simp at hmem
  | some parts =>
    obtain ⟨front, back⟩ := parts
    obtain ⟨htext, hback⟩ := cutAtLast_eq_some_iff.1 hcut
    simp only [isAddress, hcut, Bool.and_eq_true, ← isLocal_iff, ← isDomain_iff]
    constructor
    · rintro ⟨hlocal, hdomain⟩
      exact ⟨front, back, htext, hback, hlocal, hdomain⟩
    · rintro ⟨front', back', htext', hback', hlocal, hdomain⟩
      have hcut' := cutAtLast_eq_some_iff.2 ⟨htext', hback'⟩
      obtain ⟨rfl, rfl⟩ : front = front' ∧ back = back' := by simpa [hcut] using hcut'
      exact ⟨hlocal, hdomain⟩

end Postulate.Email
