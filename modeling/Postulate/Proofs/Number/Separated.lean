import Postulate.Proofs.Number.Literal

/-!
# Thousands separators

Digits are grouped when one to three of them stand in front and all others come in groups of three,
each behind a comma (`Grouping`). A separated literal is a sign or none, grouped digits, and a tail
that is empty or starts where digits cannot go on, with a point or an exponent mark (`Separated`).

Taking a text apart groups digits of any script and leaves the tail as it is, commas included. That
is found out only when what is left is read, since literals have no comma and no digit but those of
ASCII. So in a separated literal that is read all commas are separators and can be taken out at once
(`readDouble_eq_some_iff_of_comma_mem`). They can be put back in one way: the groups are three
digits long, so the number of digits settles how many stand in front
(`Grouping.text_eq_of_digits_eq`).

The main result is `convert_double_separated`.
-/

namespace Postulate.Number

open Postulate.Text

/-! ## Grouped digits -/

/-- Digits in groups. -/
structure Grouping where
  leading : List Char
  groups : List (List Char)
  leading_isDigits : IsDigits leading
  leading_pos : 1 ≤ leading.length
  leading_le : leading.length ≤ 3
  some_group : groups ≠ []
  groups_digits : ∀ g ∈ groups, g.length = 3 ∧ IsDigits g

lemma comma_notMem_of_isDigits {digits : List Char} (h : IsDigits digits) : ',' ∉ digits :=
  fun hcomma => (h.isLiteralCharacter hcomma).ne_comma rfl

lemma removeCommas_append (a b : List Char) :
    removeCommas (a ++ b) = removeCommas a ++ removeCommas b := List.filter_append a b

lemma removeCommas_eq_self {text : List Char} (h : ',' ∉ text) : removeCommas text = text :=
  List.filter_eq_self.2 fun _ hc => bne_iff_ne.2 fun hcomma => h (hcomma ▸ hc)

namespace Grouping

/-- The digits with a comma before each group. -/
def text (g : Grouping) : List Char := g.leading ++ groupsText g.groups

/-- The digits alone. -/
def digits (g : Grouping) : List Char := g.leading ++ g.groups.flatten

variable (g : Grouping)

lemma digits_ne_nil : g.digits ≠ [] :=
  List.append_ne_nil_of_left_ne_nil (List.ne_nil_of_length_pos g.leading_pos) _

lemma isDigits_digits : IsDigits g.digits := by
  intro c hc
  rcases List.mem_append.1 hc with hc | hc
  · exact g.leading_isDigits c hc
  · obtain ⟨group, hgroup, hc⟩ := List.mem_flatten.1 hc
    exact (g.groups_digits group hgroup).2 c hc

lemma removeCommas_text : removeCommas g.text = g.digits := by
  have hgroups : ∀ gs : List (List Char), (∀ g ∈ gs, IsDigits g) →
      removeCommas (groupsText gs) = gs.flatten := by
    intro gs hgs
    induction gs with
    | nil => rfl
    | cons group gs ih =>
      have hgroup := removeCommas_eq_self (comma_notMem_of_isDigits (hgs group (by simp)))
      rw [groupsText, List.flatMap_cons, removeCommas_append, List.flatten_cons,
        ← ih fun g hg => hgs g (by simp [hg])]
      conv => rhs; rw [← hgroup]
      rfl
  rw [text, digits, removeCommas_append, hgroups _ fun group hg => (g.groups_digits group hg).2,
    removeCommas_eq_self (comma_notMem_of_isDigits g.leading_isDigits)]

lemma comma_mem_text : ',' ∈ g.text := by
  obtain ⟨group, groups, h⟩ := List.exists_cons_of_ne_nil g.some_group
  simp [text, groupsText, h]

/-- Whatever comes behind the digits in front, no sign is in front of it. -/
lemma missesMark_head?_append (rest : List Char) : Sign.MissesMark (g.leading ++ rest).head? := by
  rw [List.head?_append_of_ne_nil _ (List.ne_nil_of_length_pos g.leading_pos)]
  exact g.leading_isDigits.missesMark_head?

lemma length_flatten : g.groups.flatten.length = 3 * g.groups.length := by
  rw [List.length_flatten, List.map_congr_left fun group hg => (g.groups_digits group hg).1]
  simp [Nat.mul_comm]

/-- The digits can be grouped in one way only: the digits in front are so many as make the others a
multiple of three. -/
lemma text_eq_of_digits_eq {g g' : Grouping} (h : g.digits = g'.digits) : g.text = g'.text := by
  have hlength := congrArg List.length h
  simp only [digits, List.length_append, length_flatten] at hlength
  have hbounds := g.leading_pos
  have hbounds' := g'.leading_pos
  have hle := g.leading_le
  have hle' := g'.leading_le
  obtain ⟨hleading, hflatten⟩ := List.append_inj h (by omega)
  have hgroups : g.groups = g'.groups := by
    refine List.eq_iff_flatten_eq.2 ⟨hflatten, ?_⟩
    rw [List.map_congr_left fun group hg => (g.groups_digits group hg).1,
      List.map_congr_left fun group hg => (g'.groups_digits group hg).1]
    simp
    omega
  rw [text, text, hleading, hgroups]

lemma exists_groups {digits : List Char} (count : ℕ) (h : IsDigits digits)
    (hlength : digits.length = 3 * count) :
    ∃ groups : List (List Char), groups.length = count ∧
      (∀ g ∈ groups, g.length = 3 ∧ IsDigits g) ∧ groups.flatten = digits := by
  induction count generalizing digits with
  | zero => exact ⟨[], rfl, by simp, (List.eq_nil_of_length_eq_zero hlength).symm⟩
  | succ count ih =>
    have hrest : IsDigits (digits.drop 3) := fun c hc => h c (List.mem_of_mem_drop hc)
    have hrestLength : (digits.drop 3).length = 3 * count := by
      rw [List.length_drop, hlength]
      omega
    obtain ⟨groups, hcount, hgroups, hflatten⟩ := ih hrest hrestLength
    refine ⟨digits.take 3 :: groups, by simp [hcount], ?_, by simp [hflatten]⟩
    intro g hg
    rcases List.mem_cons.1 hg with rfl | hg
    · exact ⟨by rw [List.length_take]; omega, fun c hc => h c (List.mem_of_mem_take hc)⟩
    · exact hgroups g hg

/-- Four digits or more can be grouped. -/
lemma exists_digits_eq {digits : List Char} (h : IsDigits digits) (hlength : 4 ≤ digits.length) :
    ∃ g : Grouping, g.digits = digits := by
  let front := (digits.length - 1) % 3 + 1
  have hrest : IsDigits (digits.drop front) := fun c hc => h c (List.mem_of_mem_drop hc)
  have hrestLength : (digits.drop front).length = 3 * ((digits.length - front) / 3) := by
    rw [List.length_drop]
    omega
  obtain ⟨groups, hcount, hgroups, hflatten⟩ := exists_groups _ hrest hrestLength
  have hsome : groups ≠ [] := by
    rintro rfl
    simp only [List.length_nil] at hcount
    omega
  have hleading : (digits.take front).length = front := by
    rw [List.length_take]
    omega
  exact ⟨⟨digits.take front, groups, fun c hc => h c (List.mem_of_mem_take hc), by omega, by omega,
    hsome, hgroups⟩, by rw [Grouping.digits, hflatten, List.take_append_drop]⟩

end Grouping

lemma isGrouped_iff_exists_text_eq {text : List Char} :
    isGrouped text = true ∧ IsDigits (removeCommas text) ↔ ∃ g : Grouping, g.text = text := by
  rw [isGrouped_and_isDigits_iff]
  constructor
  · rintro ⟨leading, groups, hleading, hpos, hle, hsome, hgroups, rfl⟩
    exact ⟨⟨leading, groups, hleading, hpos, hle, hsome, hgroups⟩, rfl⟩
  · rintro ⟨g, rfl⟩
    exact ⟨g.leading, g.groups, g.leading_isDigits, g.leading_pos, g.leading_le, g.some_group,
      g.groups_digits, rfl⟩

/-- The integer parts of decimals are digits or grouped digits. -/
lemma isIntegral_iff_isDigits_or_grouping {text : List Char} :
    IsIntegral text ↔ IsDigits text ∨ ∃ g : Grouping, g.text = text := by
  constructor
  · rintro (hdigits | ⟨hleading, hpos, hle, hsome, hgroups⟩)
    · exact Or.inl hdigits
    · exact Or.inr ⟨⟨_, _, hleading, hpos, hle, hsome, hgroups⟩, rfl⟩
  · rintro (hdigits | ⟨g, rfl⟩)
    · exact .plain hdigits
    · exact .grouped g.leading_isDigits g.leading_pos g.leading_le g.some_group g.groups_digits

/-! ## Separated literals -/

/-- The characters of a grouped integer part, in any script. -/
def isWholeCharacter (c : Char) : Bool := isDecimalNumber c || c = ','

/-- A literal whose integer part is grouped. -/
structure Separated where
  sign : Option Sign
  whole : Grouping
  tail : List Char
  isTail : IsTail tail

lemma ungroup_of_comma_notMem {text : List Char} (h : ',' ∉ text) : ungroup text = some text := by
  simp [ungroup, h]

/-- A text with a comma is taken apart behind its sign. -/
lemma ungroup_of_comma_mem {text body : List Char} {sign : Option Sign} (h : ',' ∈ text)
    (hsign : text.head?.filter Sign.isMark = sign.map Sign.mark)
    (hsplit : text = Sign.text sign ++ body) :
    ungroup text =
      if isGrouped (body.takeWhile isWholeCharacter) &&
          ((body.dropWhile isWholeCharacter).head?.all fun c => c = '.' ∨ c = 'e' ∨ c = 'E') then
        some (Sign.text sign ++ removeCommas (body.takeWhile isWholeCharacter) ++
          body.dropWhile isWholeCharacter)
      else none := by
  have hfront : (if (text.head?.any fun c => c = '+' ∨ c = '-') then text.take 1 else []) =
      Sign.text sign := by
    cases sign with
    | none =>
      obtain ⟨c, rest, rfl⟩ := List.exists_cons_of_ne_nil (List.ne_nil_of_mem h)
      have hmark : ¬(c = '+' ∨ c = '-') := by
        simpa [Option.filter, Sign.isMark] using hsign
      simp [Sign.text, hmark]
    | some s => cases s <;> simp [hsplit, Sign.text, Sign.mark]
  have hbody : text.drop (Sign.text sign).length = body := by
    rw [hsplit, List.drop_left]
  rw [ungroup, if_pos (by simpa using h), hfront]
  dsimp only
  rw [hbody]
  rfl

lemma Grouping.isWholeCharacter_of_mem_text (g : Grouping) {c : Char} (hc : c ∈ g.text) :
    isWholeCharacter c = true := by
  have hdigit : ∀ d : Char, d.isDigit = true → isWholeCharacter d = true := fun d hd => by
    simp [isWholeCharacter, isDecimalNumber_of_isDigit hd]
  rcases List.mem_append.1 hc with hc | hc
  · exact hdigit c (g.leading_isDigits c hc)
  · obtain ⟨group, hgroup, hc⟩ := List.mem_flatMap.1 hc
    rcases List.mem_cons.1 hc with rfl | hc
    · rfl
    · exact hdigit c ((g.groups_digits group hgroup).2 c hc)

namespace Separated

/-- The text of a separated literal. -/
def text (s : Separated) : List Char := Sign.text s.sign ++ (s.whole.text ++ s.tail)

/-- The literal without the separators. -/
def plain (s : Separated) : List Char := Sign.text s.sign ++ (s.whole.digits ++ s.tail)

variable (s : Separated)

lemma comma_mem_text : ',' ∈ s.text := by
  simp [text, s.whole.comma_mem_text]

lemma ungroup_text : ungroup s.text = some s.plain := by
  have hmark : Sign.MissesMark (s.whole.text ++ s.tail).head? := by
    rw [Grouping.text, List.append_assoc]
    exact s.whole.missesMark_head?_append _
  obtain ⟨hwhole, htail⟩ := (takeWhile_dropWhile_iff (p := isWholeCharacter)).2
    ⟨rfl, fun c hc => s.whole.isWholeCharacter_of_mem_text hc, s.isTail.ends (by decide)⟩
  rw [ungroup_of_comma_mem s.comma_mem_text
      (Sign.head?_text_append s.sign hmark) rfl,
    hwhole, htail, if_pos, s.whole.removeCommas_text, plain, List.append_assoc]
  rw [Bool.and_eq_true]
  exact ⟨(isGrouped_iff_exists_text_eq.2 ⟨s.whole, rfl⟩).1, s.isTail⟩

/-- Where the tail has no comma, all commas are separators. -/
lemma removeCommas_text (h : ',' ∉ s.tail) : removeCommas s.text = s.plain := by
  have hsign : ',' ∉ Sign.text s.sign := fun hc => (Sign.isLiteralCharacter hc).ne_comma rfl
  rw [text, removeCommas_append, removeCommas_append, removeCommas_eq_self hsign,
    s.whole.removeCommas_text, removeCommas_eq_self h, plain]

/-- The only commas that stay are those of the tail. -/
lemma comma_notMem_plain_iff : ',' ∉ s.plain ↔ ',' ∉ s.tail := by
  constructor
  · intro h hc
    exact h (by simp [plain, hc])
  · intro h
    rw [← s.removeCommas_text h]
    simp [removeCommas]

/-- The sign that is scanned off a separated literal without the separators. -/
lemma sign_plain :
    Text.sign s.plain = (decide (s.sign = some .minus), s.whole.digits ++ s.tail) := by
  refine Sign.sign_text_append s.sign ?_
  rw [Grouping.digits, List.append_assoc]
  exact s.whole.missesMark_head?_append _

/-- There is one way to separate a literal. -/
lemma text_eq_of_plain_eq {s s' : Separated} (h : s.plain = s'.plain) : s.text = s'.text := by
  have hbody : s.whole.digits ++ s.tail = s'.whole.digits ++ s'.tail := by
    have hsigns := congrArg Text.sign h
    rw [s.sign_plain, s'.sign_plain] at hsigns
    exact congrArg Prod.snd hsigns
  have hsign : Sign.text s.sign = Sign.text s'.sign := by
    rw [plain, plain, hbody] at h
    exact List.append_cancel_right h
  obtain ⟨hdigits, htail⟩ := takeWhile_dropWhile_isDigit_iff.2
    ⟨rfl, s.whole.isDigits_digits, s.isTail.endsDigits⟩
  obtain ⟨hdigits', htail'⟩ := takeWhile_dropWhile_isDigit_iff.2
    ⟨hbody, s'.whole.isDigits_digits, s'.isTail.endsDigits⟩
  rw [text, text, hsign, Grouping.text_eq_of_digits_eq (hdigits.symm.trans hdigits'),
    htail.symm.trans htail']

/-- What is trimmed stays trimmed without the separators. -/
lemma trim_plain (h : trim s.text = s.text) : trim s.plain = s.plain := by
  have hbare : ∀ c ∈ Sign.text s.sign ++ s.whole.digits, isWhiteSpace c = false := by
    intro c hc
    refine IsNumeralCharacter.isWhiteSpace_eq_false (.literal ?_)
    rcases List.mem_append.1 hc with hc | hc
    · exact Sign.isLiteralCharacter hc
    · exact s.whole.isDigits_digits.isLiteralCharacter hc
  have htail : StartsBare s.tail.reverse := by
    have hend := startsBare_reverse_trim s.text
    rw [h, text, ← List.append_assoc, List.reverse_append] at hend
    cases hreverse : s.tail.reverse with
    | nil => rfl
    | cons c rest =>
      rw [hreverse] at hend
      exact hend
  rw [plain, ← List.append_assoc]
  refine trim_eq_self (startsBare_append (startsBare_of_forall hbare) fun hnil => ?_) ?_
  · rw [List.append_eq_nil_iff] at hnil
    exact absurd hnil.2 s.whole.digits_ne_nil
  · rw [List.reverse_append]
    exact startsBare_append htail fun _ =>
      startsBare_of_forall fun c hc => hbare c (List.mem_reverse.1 hc)

/-- Nothing is trimmed off when the separators are gone if nothing is while they are there. -/
lemma trim_removeCommas {s : Separated} (htail : ',' ∉ s.tail) (h : trim s.text = s.text) :
    trim (removeCommas s.text) = removeCommas s.text := by
  rw [s.removeCommas_text htail, s.trim_plain h]

end Separated

/-- A literal has digits of ASCII only, so those found in front of its point are such. -/
lemma IsLiteral.isDigits_removeCommas {plain whole : List Char} (h : IsLiteral plain)
    (hwhole : ∀ c ∈ whole, isWholeCharacter c = true) (hmem : ∀ c ∈ removeCommas whole, c ∈ plain) :
    IsDigits (removeCommas whole) := by
  intro c hc
  obtain ⟨hcharacter, hcomma⟩ := List.mem_filter.1 hc
  have hnumber : isDecimalNumber c = true := by
    simpa [isWholeCharacter, bne_iff_ne.1 hcomma] using hwhole c hcharacter
  exact (IsNumeralCharacter.literal (h.isLiteralCharacter (hmem c hc))).isDigit hnumber

/-- What has a comma and is a literal when taken apart are exactly the separated literals. -/
lemma ungroup_eq_some_iff {text plain : List Char} (h : ',' ∈ text) (hliteral : IsLiteral plain) :
    ungroup text = some plain ↔ ∃ s : Separated, s.text = text ∧ s.plain = plain := by
  constructor
  · intro hread
    obtain ⟨sign, hsign, hsplit⟩ := Sign.exists_eq_text_append text
    rw [ungroup_of_comma_mem h hsign hsplit] at hread
    split at hread
    · next hparts =>
      rw [Bool.and_eq_true] at hparts
      have hplain := Option.some.inj hread
      have hdigits : IsDigits (removeCommas ((Sign.stripFront text).takeWhile isWholeCharacter)) :=
        hliteral.isDigits_removeCommas (fun c hc => List.all_eq_true.1 List.all_takeWhile c hc)
          fun c hc => by simp [← hplain, hc]
      obtain ⟨g, hg⟩ := isGrouped_iff_exists_text_eq.1 ⟨hparts.1, hdigits⟩
      refine ⟨⟨sign, g, _, hparts.2⟩, ?_, ?_⟩
      · rw [Separated.text, hg, List.takeWhile_append_dropWhile, ← hsplit]
      · rw [Separated.plain, ← g.removeCommas_text, hg, ← List.append_assoc]
        exact hplain
    · cases hread
  · rintro ⟨s, rfl, rfl⟩
    exact s.ungroup_text

/-! ## Reading doubles -/

section

variable {text plain : List Char} {x : Float}

lemma readDouble_eq_of_ungroup (h : ungroup text = some plain) (hplain : ',' ∉ plain) :
    readDouble text = readDouble plain := by
  rw [readDouble, readDouble, h, ungroup_of_comma_notMem hplain]

/-- A text is read as a double exactly when it is a literal without its separators. -/
lemma readDouble_isSome_iff :
    (readDouble text).isSome = true ↔ ∃ plain, ungroup text = some plain ∧ IsLiteral plain := by
  rw [readDouble, Option.isSome_map]
  cases ungroup text with
  | none => simp
  | some plain => simp [BinaryFormat.read_isSome_iff]

/-- A text with a comma is read as the separated literal it is, without the separators. -/
lemma readDouble_eq_some_iff_of_comma_mem (h : ',' ∈ text) :
    readDouble text = some x ↔
      ∃ s : Separated, s.text = text ∧ ',' ∉ s.tail ∧ readDouble (removeCommas text) = some x := by
  constructor
  · intro hread
    obtain ⟨plain, hplain, hliteral⟩ := readDouble_isSome_iff.1 (Option.isSome_of_eq_some hread)
    obtain ⟨s, rfl, rfl⟩ := (ungroup_eq_some_iff h hliteral).1 hplain
    have htail := s.comma_notMem_plain_iff.1 hliteral.comma_notMem
    refine ⟨s, rfl, htail, ?_⟩
    rw [s.removeCommas_text htail, ← readDouble_eq_of_ungroup hplain hliteral.comma_notMem, hread]
  · rintro ⟨s, rfl, htail, hread⟩
    rw [s.removeCommas_text htail] at hread
    rw [readDouble_eq_of_ungroup s.ungroup_text (s.comma_notMem_plain_iff.2 htail), hread]

/-- What is read without a comma is a literal. -/
lemma isLiteral_of_readDouble (h : ',' ∉ text) (hread : readDouble text = some x) :
    IsLiteral text := by
  obtain ⟨plain, hplain, hliteral⟩ := readDouble_isSome_iff.1 (Option.isSome_of_eq_some hread)
  rw [ungroup_of_comma_notMem h] at hplain
  rwa [Option.some.inj hplain]

end

lemma convert_double_eq_ok_iff {text : String} {x : Float} :
    Conversion.double.convert text = .ok x ↔ readDouble (trim text.toList) = some x := by
  rw [Conversion.convert_eq_ok_iff]
  refine and_iff_right_of_imp fun hread hnil => ?_
  rw [show Conversion.double.read = readDouble from rfl, hnil] at hread
  cases hread

/-- A text that is a literal without its commas consists of the characters of numbers. -/
lemma IsLiteral.isNumeralCharacter_of_removeCommas {text : List Char}
    (h : IsLiteral (removeCommas text)) {c : Char} (hc : c ∈ text) : IsNumeralCharacter c := by
  by_cases hcomma : c = ','
  · rw [hcomma]
    exact .comma
  · refine .literal (h.isLiteralCharacter ?_)
    simpa [removeCommas, hcomma] using hc

/-- Such a text is not trimmed. -/
lemma trim_eq_self_of_removeCommas {text : List Char} (h : IsLiteral (removeCommas text)) :
    trim text = text :=
  trim_eq_self_of_isNumeralCharacter fun _ => h.isNumeralCharacter_of_removeCommas

lemma exists_convert_double_iff {text : String} :
    (∃ x, Conversion.double.convert text = .ok x) ↔
      (readDouble (trim text.toList)).isSome = true := by
  rw [Option.isSome_iff_exists]
  exact exists_congr fun x => convert_double_eq_ok_iff

/-! ## Doubles with separators -/

/-- A separated literal in which all commas are separators. -/
def IsSeparated (text : List Char) : Prop := ∃ s : Separated, s.text = text ∧ ',' ∉ s.tail

/-- The digits in front of a literal, behind its sign. -/
def wholeDigits (text : List Char) : List Char := (Text.sign text).2.takeWhile Char.isDigit

/-- A text that converts to a double and is the given one but for commas. -/
structure SpellsWithCommas (literal text : List Char) : Prop where
  comma_mem : ',' ∈ text
  removeCommas_eq : removeCommas text = literal
  converts : ∃ x, Conversion.double.convert (String.ofList text) = .ok x

lemma exists_plain_eq {literal : List Char} (h : IsLiteral literal)
    (hlength : 4 ≤ (wholeDigits literal).length) :
    ∃ s : Separated, s.plain = literal := by
  obtain ⟨sign, -, hsplit⟩ := Sign.exists_eq_text_append_sign literal
  obtain ⟨hbody, hdigits, hrest⟩ := takeWhile_dropWhile_isDigit_iff.1 ⟨rfl, rfl⟩
  obtain ⟨g, hg⟩ := Grouping.exists_digits_eq hdigits hlength
  have hunsigned : IsUnsigned (Text.sign literal).2 := by
    rwa [← isSome_readFloating, readFloating_isSome_iff]
  rw [hbody] at hunsigned
  have htail := hunsigned.isTail_of_digits hdigits (hg ▸ g.digits_ne_nil) hrest
  exact ⟨⟨sign, g, _, htail⟩, by rw [Separated.plain, hg, ← hbody, ← hsplit]⟩

section

variable {s : Separated} (h : IsLiteral s.plain)
include h

lemma IsLiteral.removeCommas_text : removeCommas s.text = s.plain :=
  s.removeCommas_text (s.comma_notMem_plain_iff.1 h.comma_notMem)

/-- A separated literal converts to what the literal is read as. -/
lemma IsLiteral.convert_text_eq_ok_iff {x : Float} :
    Conversion.double.convert (String.ofList s.text) = .ok x ↔ readDouble s.plain = some x := by
  have hbare := trim_eq_self_of_removeCommas (h.removeCommas_text ▸ h)
  rw [convert_double_eq_ok_iff, String.toList_ofList, hbare,
    readDouble_eq_of_ungroup s.ungroup_text h.comma_notMem]

/-- A text that converts and is a literal but for commas has them where they are in the separated
literal. -/
lemma IsLiteral.eq_text {other : List Char} (hother : SpellsWithCommas s.plain other) :
    other = s.text := by
  obtain ⟨x, hx⟩ := hother.converts
  have hremoved := hother.removeCommas_eq
  have hbare := trim_eq_self_of_removeCommas (hremoved ▸ h)
  rw [convert_double_eq_ok_iff, String.toList_ofList, hbare] at hx
  obtain ⟨s', rfl, htail, -⟩ := (readDouble_eq_some_iff_of_comma_mem hother.comma_mem).1 hx
  refine Separated.text_eq_of_plain_eq ?_
  rw [← s'.removeCommas_text htail, hremoved]

end

/-- Separators make no difference and stand in one way only. A text with a comma converts to a
double exactly when it is a separated literal and converts, without its commas, to the very same
number; a text with a comma anywhere else is an error. And a literal without commas that has four
digits or more in front of its point and its exponent is spelled with commas in exactly one way, for
the same number. -/
theorem convert_double_separated (text : String) :
    (',' ∈ trim text.toList →
      (∀ x, Conversion.double.convert text = .ok x ↔
        IsSeparated (trim text.toList) ∧
          Conversion.double.convert (String.ofList (removeCommas (trim text.toList))) = .ok x) ∧
      (¬IsSeparated (trim text.toList) →
        Conversion.double.convert text = .error ⟨text, Conversion.double.target⟩)) ∧
    (',' ∉ trim text.toList → 4 ≤ (wholeDigits (trim text.toList)).length →
      ∀ x, Conversion.double.convert text = .ok x →
        ∃ t, (∀ other, SpellsWithCommas (trim text.toList) other ↔ other = t) ∧
          Conversion.double.convert (String.ofList t) = .ok x) := by
  refine ⟨fun hcomma => ?_, fun hcomma hlength x hx => ?_⟩
  · have hconverts : ∀ x, Conversion.double.convert text = .ok x ↔
        IsSeparated (trim text.toList) ∧
          Conversion.double.convert (String.ofList (removeCommas (trim text.toList))) = .ok x := by
      intro x
      rw [convert_double_eq_ok_iff, readDouble_eq_some_iff_of_comma_mem hcomma,
        convert_double_eq_ok_iff, String.toList_ofList]
      constructor
      · rintro ⟨s, hs, htail, hread⟩
        rw [← hs, Separated.trim_removeCommas htail (hs ▸ trim_trim _), hs]
        exact ⟨⟨s, hs, htail⟩, hread⟩
      · rintro ⟨⟨s, hs, htail⟩, hread⟩
        rw [← hs, Separated.trim_removeCommas htail (hs ▸ trim_trim _), hs] at hread
        exact ⟨s, hs, htail, hread⟩
    refine ⟨hconverts, fun hseparated => Conversion.convert_eq_error_iff.2 ⟨fun x hx => ?_, rfl⟩⟩
    exact hseparated ((hconverts x).1 hx).1
  · rw [convert_double_eq_ok_iff] at hx
    have hliteral := isLiteral_of_readDouble hcomma hx
    obtain ⟨s, hplain⟩ := exists_plain_eq hliteral hlength
    rw [← hplain] at hliteral hx ⊢
    have hconverts := hliteral.convert_text_eq_ok_iff.2 hx
    refine ⟨s.text, fun other => ⟨hliteral.eq_text, ?_⟩, hconverts⟩
    rintro rfl
    exact ⟨s.comma_mem_text, hliteral.removeCommas_text, x, hconverts⟩

/-- A separated literal, one with a comma in its fraction, and one that can be separated. -/
theorem convert_double_separated_million :
    (∀ x, Conversion.double.convert " -1,234.5" = .ok x ↔
      Conversion.double.convert "-1234.5" = .ok x) ∧
    Conversion.double.convert "1,234.567,8" = .error ⟨"1,234.567,8", "f64"⟩ ∧
    (∀ other, SpellsWithCommas "1000000e2".toList other ↔ other = "1,000,000e2".toList) ∧
    ∃ x, Conversion.double.convert "1000000e2" = .ok x ∧
      Conversion.double.convert "1,000,000e2" = .ok x := by
  refine ⟨fun x => ?_, ?_, ?_⟩
  · have hseparated : IsSeparated "-1,234.5".toList := by
      have hliteral : IsLiteral "-1234.5".toList := readFloating_isSome_iff.1 (by decide)
      obtain ⟨s, hs, hplain⟩ := (ungroup_eq_some_iff (by decide) hliteral).1
        (show ungroup "-1,234.5".toList = some "-1234.5".toList by decide)
      exact ⟨s, hs, s.comma_notMem_plain_iff.1 (hplain ▸ by decide)⟩
    exact (((convert_double_separated " -1,234.5").1 (by decide)).1 x).trans
      (and_iff_right hseparated)
  · refine ((convert_double_separated "1,234.567,8").1 (by decide)).2 ?_
    rintro ⟨s, hs, htail⟩
    have hplain : some "1234.567,8".toList = some s.plain := by
      rw [← s.ungroup_text, hs]
      decide
    have hcomma := s.comma_notMem_plain_iff.2 htail
    rw [← Option.some.inj hplain] at hcomma
    exact hcomma (by decide)
  · obtain ⟨x, hx⟩ : ∃ x, Conversion.double.convert "1000000e2" = .ok x :=
      exists_convert_double_iff.2 (by decide)
    obtain ⟨spelled, honly, hsame⟩ :=
      (convert_double_separated "1000000e2").2 (by decide) (by decide) x hx
    obtain rfl : "1,000,000e2".toList = spelled :=
      (honly _).1 ⟨by decide, by decide, exists_convert_double_iff.2 (by decide)⟩
    exact ⟨honly, x, hx, hsame⟩

end Postulate.Number
