import Mathlib.Data.List.Basic
import Mathlib.Tactic.Lemma
import Postulate.Number.Decimal
import Postulate.Proofs.Text.Digits

/-!
# How decimals are spelled

A spelled decimal is a sign or none, an integer part, perhaps a point with digits after it, and a
sign or none. The integer part is a run of digits, or one to three digits followed by groups of a
comma and three digits (`IsIntegral`). Only one of the two signs may be there, and there is a digit
in one of the two parts. `Spelling` is the grammar as data: its values are the spelled decimals, and
`Spelling.text` is what is written.

Reading takes a text apart from its two ends instead, and it looks for digits of any script
(`IsScriptDigits`). The main result is `Written.ofText?_eq_some_iff`: what it takes apart into
digits of ASCII are exactly the spelled decimals, and the parts are those of the spelling.
-/

namespace Postulate.Number

open Postulate.Text

/-- A run of ASCII digits, possibly empty. -/
def IsDigits (text : List Char) : Prop := ∀ c ∈ text, c.isDigit = true

/-- A run of decimal digits of any script, possibly empty. -/
def IsScriptDigits (text : List Char) : Prop := ∀ c ∈ text, isDecimalNumber c = true

/-- Groups of three digits, each written behind a comma. -/
def groupsText (groups : List (List Char)) : List Char := groups.flatMap (',' :: ·)

/-- An integer part: digits without separators, or one to three digits and then at least one group
of three. -/
inductive IsIntegral : List Char → Prop
  | plain {digits : List Char} (digits_isDigits : IsDigits digits) : IsIntegral digits
  | grouped {leading : List Char} {groups : List (List Char)} (leading_isDigits : IsDigits leading)
      (leading_pos : 1 ≤ leading.length) (leading_le : leading.length ≤ 3)
      (some_group : groups ≠ [])
      (groups_digits : ∀ g ∈ groups, g.length = 3 ∧ IsDigits g) :
      IsIntegral (leading ++ groupsText groups)

/-! ## Grouped digits -/

lemma areGroups_iff {text : List Char} :
    areGroups text = true ↔
      ∃ groups : List (List Char), (∀ g ∈ groups, g.length = 3 ∧ IsScriptDigits g) ∧
        text = groupsText groups := by
  fun_induction areGroups text with
  | case1 => exact ⟨fun _ => ⟨[], by simp, rfl⟩, fun _ => rfl⟩
  | case2 a b c rest ih =>
    constructor
    · intro h
      simp only [Bool.and_eq_true] at h
      obtain ⟨⟨⟨ha, hb⟩, hc⟩, hrest⟩ := h
      obtain ⟨groups, hgroups, rfl⟩ := ih.1 hrest
      refine ⟨[a, b, c] :: groups, ?_, by simp [groupsText]⟩
      intro g hg
      rcases List.mem_cons.1 hg with rfl | hg
      · simp [IsScriptDigits, ha, hb, hc]
      · exact hgroups g hg
    · rintro ⟨groups, hgroups, hsplit⟩
      cases groups with
      | nil => simp [groupsText] at hsplit
      | cons g groups =>
        obtain ⟨hlen, hdigits⟩ := hgroups g (by simp)
        obtain ⟨x, y, z, rfl⟩ := List.length_eq_three.1 hlen
        obtain ⟨rfl, rfl, rfl, rfl⟩ : a = x ∧ b = y ∧ c = z ∧ rest = groupsText groups := by
          simpa [groupsText] using hsplit
        have hrest := ih.2 ⟨groups, fun g hg => hgroups g (by simp [hg]), rfl⟩
        simp only [IsScriptDigits, List.mem_cons, List.not_mem_nil, or_false, forall_eq_or_imp,
          forall_eq] at hdigits
        simp [hdigits, hrest]
  | case3 text hnil hcons =>
    constructor
    · intro h
      cases h
    · rintro ⟨groups, hgroups, rfl⟩
      cases groups with
      | nil => exact absurd rfl hnil
      | cons g groups =>
        obtain ⟨x, y, z, rfl⟩ := List.length_eq_three.1 (hgroups g (by simp)).1
        exact absurd rfl (hcons x y z (groupsText groups))

/-- Groups start with a comma or are not there, so they end a run of digits. -/
lemma takeWhile_append_groupsText {leading : List Char} (h : IsScriptDigits leading)
    (groups : List (List Char)) :
    (leading ++ groupsText groups).takeWhile isDecimalNumber = leading ∧
      (leading ++ groupsText groups).dropWhile isDecimalNumber = groupsText groups := by
  rw [List.takeWhile_append_of_pos h, List.dropWhile_append_of_pos h]
  have hcomma : isDecimalNumber ',' = false := by decide
  cases groups with
  | nil => simp [groupsText]
  | cons g groups => simp [groupsText, hcomma]

/-- Grouped digits are found whatever script they are of. -/
lemma isGrouped_iff {text : List Char} :
    isGrouped text = true ↔
      ∃ leading groups, IsScriptDigits leading ∧ 1 ≤ leading.length ∧ leading.length ≤ 3 ∧
        groups ≠ [] ∧ (∀ g ∈ groups, g.length = 3 ∧ IsScriptDigits g) ∧
        text = leading ++ groupsText groups := by
  constructor
  · intro h
    simp only [isGrouped, Bool.and_eq_true, decide_eq_true_eq, Bool.not_eq_true',
      List.isEmpty_eq_false_iff] at h
    obtain ⟨⟨hlen, hne⟩, hgroups⟩ := h
    obtain ⟨groups, hdigits, hsplit⟩ := areGroups_iff.1 hgroups
    refine ⟨text.takeWhile isDecimalNumber, groups,
      fun c hc => List.all_eq_true.1 List.all_takeWhile c hc, hlen.1, hlen.2, ?_, hdigits, ?_⟩
    · rintro rfl
      exact hne hsplit
    · rw [← hsplit, List.takeWhile_append_dropWhile]
  · rintro ⟨leading, groups, hleading, hpos, hle, hne, hgroups, rfl⟩
    obtain ⟨htake, hdrop⟩ := takeWhile_append_groupsText hleading groups
    have hsome : groupsText groups ≠ [] := by
      obtain ⟨g, groups, rfl⟩ := List.exists_cons_of_ne_nil hne
      simp [groupsText]
    simp only [isGrouped, htake, hdrop, areGroups_iff.2 ⟨groups, hgroups, rfl⟩]
    simp [hpos, hle, hsome]

/-! ## Digits of ASCII -/

/-- Digits and commas are all there is in an integer part. -/
lemma IsIntegral.isDigit_or_comma {text : List Char} (h : IsIntegral text) {c : Char}
    (hc : c ∈ text) : c.isDigit = true ∨ c = ',' := by
  cases h with
  | plain hdigits => exact Or.inl (hdigits c hc)
  | grouped hleading _ _ _ hgroups =>
    rcases List.mem_append.1 hc with hc | hc
    · exact Or.inl (hleading c hc)
    · obtain ⟨g, hg, hc⟩ := List.mem_flatMap.1 hc
      rcases List.mem_cons.1 hc with rfl | hc
      · exact Or.inr rfl
      · exact Or.inl ((hgroups g hg).2 c hc)

lemma IsIntegral.isDigits_removeCommas {text : List Char} (h : IsIntegral text) :
    IsDigits (removeCommas text) := by
  intro c hc
  obtain ⟨hmem, hcomma⟩ := List.mem_filter.1 hc
  exact (h.isDigit_or_comma hmem).resolve_right (bne_iff_ne.1 hcomma)

lemma IsDigits.isScriptDigits {digits : List Char} (h : IsDigits digits) : IsScriptDigits digits :=
  fun c hc => isDecimalNumber_of_isDigit (h c hc)

/-- When a text has only digits of ASCII besides its commas, all digits found in it are such. -/
lemma IsScriptDigits.isDigits {digits text : List Char} (h : IsScriptDigits digits)
    (hmem : ∀ c ∈ digits, c ∈ text) (htext : IsDigits (removeCommas text)) : IsDigits digits := by
  intro c hc
  have hcomma : c ≠ ',' := by
    rintro rfl
    exact absurd (h ',' hc) (by decide)
  exact htext c (List.mem_filter.2 ⟨hmem c hc, bne_iff_ne.2 hcomma⟩)

lemma isGrouped_and_isDigits_iff {text : List Char} :
    isGrouped text = true ∧ IsDigits (removeCommas text) ↔
      ∃ leading groups, IsDigits leading ∧ 1 ≤ leading.length ∧ leading.length ≤ 3 ∧ groups ≠ [] ∧
        (∀ g ∈ groups, g.length = 3 ∧ IsDigits g) ∧ text = leading ++ groupsText groups := by
  rw [isGrouped_iff]
  constructor
  · rintro ⟨⟨leading, groups, hleading, hpos, hle, hne, hgroups, rfl⟩, hdigits⟩
    have hgroup : ∀ g ∈ groups, ∀ c ∈ g, c ∈ leading ++ groupsText groups := fun g hg c hc =>
      List.mem_append_right _ (List.mem_flatMap.2 ⟨g, hg, List.mem_cons_of_mem _ hc⟩)
    exact ⟨leading, groups, hleading.isDigits (fun c => List.mem_append_left _) hdigits, hpos, hle,
      hne, fun g hg => ⟨(hgroups g hg).1, (hgroups g hg).2.isDigits (hgroup g hg) hdigits⟩, rfl⟩
  · rintro ⟨leading, groups, hleading, hpos, hle, hne, hgroups, rfl⟩
    exact ⟨⟨leading, groups, hleading.isScriptDigits, hpos, hle, hne,
      fun g hg => ⟨(hgroups g hg).1, (hgroups g hg).2.isScriptDigits⟩, rfl⟩,
      (IsIntegral.grouped hleading hpos hle hne hgroups).isDigits_removeCommas⟩

/-- The integer parts are those that are found and have digits of ASCII only. -/
lemma isIntegral_iff {text : List Char} :
    IsIntegral text ↔
      (text.all isDecimalNumber || isGrouped text) = true ∧ IsDigits (removeCommas text) := by
  rw [Bool.or_eq_true, List.all_eq_true, or_and_right, isGrouped_and_isDigits_iff]
  constructor
  · rintro (h | ⟨h, hpos, hle, hne, hgroups⟩)
    · exact Or.inl ⟨h.isScriptDigits, (IsIntegral.plain h).isDigits_removeCommas⟩
    · exact Or.inr ⟨_, _, h, hpos, hle, hne, hgroups, rfl⟩
  · rintro (⟨h, hdigits⟩ | ⟨leading, groups, h, hpos, hle, hne, hgroups, rfl⟩)
    · exact .plain (IsScriptDigits.isDigits h (fun _ => id) hdigits)
    · exact .grouped h hpos hle hne hgroups

/-! ## Signs -/

/-- The two signs. -/
inductive Sign where
  | plus
  | minus
deriving DecidableEq, Repr

namespace Sign

/-- The character that is written for a sign. -/
def mark : Sign → Char
  | plus => '+'
  | minus => '-'

/-- Is the character a sign? -/
def isMark (c : Char) : Bool := c = '+' || c = '-'

@[simp] lemma isMark_mark (s : Sign) : isMark s.mark = true := by
  cases s <;> rfl

lemma exists_mark {c : Char} (h : isMark c = true) : ∃ s : Sign, s.mark = c := by
  simp only [isMark, Bool.or_eq_true, decide_eq_true_eq] at h
  rcases h with rfl | rfl
  · exact ⟨plus, rfl⟩
  · exact ⟨minus, rfl⟩

lemma isMark_eq_false_of_isDigit {c : Char} (h : c.isDigit = true) : isMark c = false := by
  by_contra hmark
  obtain ⟨sign, rfl⟩ := exists_mark (by simpa using hmark)
  cases sign <;> simp [mark, Char.isDigit] at h

lemma map_mark_eq_some_minus {sign : Option Sign} :
    sign.map mark = some '-' ↔ sign = some minus := by
  rcases sign with _ | _ | _ <;> simp [mark]

/-- What is written for a sign that may be missing. -/
def text (sign : Option Sign) : List Char := (sign.map mark).toList

/-- A character that is no sign, for the first or the last of a text. -/
def MissesMark (c : Option Char) : Prop := c.all (!isMark ·) = true

lemma filter_isMark_eq_none {c : Option Char} (h : MissesMark c) : c.filter isMark = none := by
  cases c with
  | none => rfl
  | some c => simpa [MissesMark, Option.filter] using h

/-- A sign in front of a text that starts with none is what is found at its front. -/
lemma head?_text_append (sign : Option Sign) {body : List Char} (h : MissesMark body.head?) :
    (text sign ++ body).head?.filter isMark = sign.map mark := by
  cases sign with
  | none => exact filter_isMark_eq_none h
  | some s => simp [text]

/-- A sign behind a text that ends with none is what is found at its end. -/
lemma getLast?_append_text (sign : Option Sign) {body : List Char} (h : MissesMark body.getLast?) :
    (body ++ text sign).getLast?.filter isMark = sign.map mark := by
  cases sign with
  | none =>
    simp only [text, Option.map_none, Option.toList_none, List.append_nil]
    exact filter_isMark_eq_none h
  | some s => simp [text]

/-- The text without a sign at its front. -/
def stripFront (t : List Char) : List Char := if (t.head?.filter isMark).isSome then t.drop 1 else t

/-- The text without a sign at its end. -/
def stripBack (t : List Char) : List Char :=
  if (t.getLast?.filter isMark).isSome then t.dropLast else t

lemma stripFront_text_append (sign : Option Sign) {body : List Char} (h : MissesMark body.head?) :
    stripFront (text sign ++ body) = body := by
  rw [stripFront, head?_text_append sign h]
  cases sign <;> simp [text]

lemma stripBack_append_text (sign : Option Sign) {body : List Char} (h : MissesMark body.getLast?) :
    stripBack (body ++ text sign) = body := by
  rw [stripBack, getLast?_append_text sign h]
  cases sign <;> simp [text]

/-- A text is the sign found at its front and the text without it. -/
lemma exists_eq_text_append (t : List Char) :
    ∃ sign : Option Sign, t.head?.filter isMark = sign.map mark ∧
      t = text sign ++ stripFront t := by
  cases t with
  | nil => exact ⟨none, rfl, rfl⟩
  | cons c rest =>
    by_cases h : isMark c = true
    · obtain ⟨s, rfl⟩ := exists_mark h
      exact ⟨some s, by simp, by simp [text, stripFront]⟩
    · exact ⟨none, by simp [h], by simp [text, stripFront, h]⟩

/-- A text is the text without the sign found at its end and that sign. -/
lemma exists_eq_append_text (t : List Char) :
    ∃ sign : Option Sign, t.getLast?.filter isMark = sign.map mark ∧
      t = stripBack t ++ text sign := by
  rcases List.eq_nil_or_concat t with rfl | ⟨rest, c, rfl⟩
  · exact ⟨none, rfl, rfl⟩
  · by_cases h : isMark c = true
    · obtain ⟨s, rfl⟩ := exists_mark h
      exact ⟨some s, by simp, by simp [text, stripBack]⟩
    · exact ⟨none, by simp [h], by simp [text, stripBack, h]⟩

/-- The scanner of signs takes a sign off a text that starts with none. -/
lemma sign_text_append (sign : Option Sign) {body : List Char} (h : MissesMark body.head?) :
    Text.sign (text sign ++ body) = (decide (sign = some minus), body) := by
  rcases sign with _ | _ | _
  · cases body with
    | nil => rfl
    | cons c rest =>
      have hc : c ≠ '-' ∧ c ≠ '+' := by
        simp only [MissesMark, List.head?_cons, Option.all_some, isMark] at h
        simp_all
      simp [text, Text.sign, hc]
  · rfl
  · rfl

/-- A text is the sign that the scanner finds and what it leaves. -/
lemma exists_eq_text_append_sign (t : List Char) :
    ∃ sign : Option Sign, (Text.sign t).1 = decide (sign = some minus) ∧
      t = text sign ++ (Text.sign t).2 := by
  fun_cases Text.sign t with
  | case1 rest => exact ⟨some minus, rfl, rfl⟩
  | case2 rest => exact ⟨some plus, rfl, rfl⟩
  | case3 => exact ⟨none, rfl, rfl⟩

end Sign

lemma IsDigits.missesMark_head? {digits : List Char} (h : IsDigits digits) :
    Sign.MissesMark digits.head? := by
  cases digits with
  | nil => rfl
  | cons c rest => simp [Sign.MissesMark, Sign.isMark_eq_false_of_isDigit (h c (by simp))]

/-! ## Spelled decimals -/

namespace Decimal

/-- A decimal as it is spelled. -/
structure Spelling where
  /-- The sign before the digits. -/
  leading : Option Sign
  /-- The integer part, with its separators. -/
  integral : List Char
  /-- The digits after the point, if there is a point. -/
  afterPoint : Option (List Char)
  /-- The sign after the digits. -/
  trailing : Option Sign
  isIntegral : IsIntegral integral
  isDigits : IsDigits (afterPoint.getD [])
  one_sign : leading = none ∨ trailing = none
  some_digit : integral ≠ [] ∨ afterPoint.getD [] ≠ []

namespace Spelling

/-- The digits of the fraction; without a point there are none. -/
def fraction (s : Spelling) : List Char := s.afterPoint.getD []

/-- The point and the digits after it. -/
def pointText : Option (List Char) → List Char
  | none => []
  | some digits => '.' :: digits

/-- Integer part and fraction, without the signs. -/
def body (s : Spelling) : List Char := s.integral ++ pointText s.afterPoint

/-- The text of a spelled decimal. -/
def text (s : Spelling) : List Char := Sign.text s.leading ++ s.body ++ Sign.text s.trailing

/-- A minus at either end makes the number negative. -/
def isNegative (s : Spelling) : Bool := s.leading = some .minus || s.trailing = some .minus

/-- The parts that count for the number. -/
def written (s : Spelling) : Written := ⟨s.isNegative, removeCommas s.integral, s.fraction⟩

variable (s : Spelling)

lemma body_ne_nil : s.body ≠ [] := by
  rcases s.some_digit with h | h
  · simp [body, h]
  · cases hpoint : s.afterPoint with
    | none => simp [hpoint] at h
    | some digits => simp [body, pointText, hpoint]

lemma not_isMark_of_mem_body {c : Char} (hc : c ∈ s.body) : Sign.isMark c = false := by
  rcases List.mem_append.1 hc with hc | hc
  · rcases s.isIntegral.isDigit_or_comma hc with h | rfl
    · exact Sign.isMark_eq_false_of_isDigit h
    · rfl
  · have hdigits := s.isDigits
    cases hpoint : s.afterPoint with
    | none => simp [hpoint, pointText] at hc
    | some digits =>
      simp only [hpoint, pointText, List.mem_cons] at hc
      rcases hc with rfl | hc
      · rfl
      · exact Sign.isMark_eq_false_of_isDigit (hdigits c (by simpa [hpoint] using hc))

lemma missesMark_head?_body (back : List Char) : Sign.MissesMark (s.body ++ back).head? := by
  obtain ⟨c, rest, hbody⟩ := List.exists_cons_of_ne_nil s.body_ne_nil
  have hc := s.not_isMark_of_mem_body (c := c) (by simp [hbody])
  simp [hbody, Sign.MissesMark, hc]

lemma missesMark_getLast?_body : Sign.MissesMark s.body.getLast? := by
  have hc := s.not_isMark_of_mem_body (List.getLast_mem s.body_ne_nil)
  simp [List.getLast?_eq_some_getLast s.body_ne_nil, Sign.MissesMark, hc]

/-- The point, which the integer part does not hold, divides the two parts. -/
lemma split_body :
    s.body.takeWhile (· != '.') = s.integral ∧
      (s.body.dropWhile (· != '.')).drop 1 = s.fraction := by
  have hpoint : ∀ c ∈ s.integral, (c != '.') = true := by
    intro c hc
    rcases s.isIntegral.isDigit_or_comma hc with h | rfl
    · rw [bne_iff_ne]
      rintro rfl
      cases h
    · rfl
  rw [body, List.takeWhile_append_of_pos hpoint, List.dropWhile_append_of_pos hpoint]
  cases h : s.afterPoint with
  | none => simp [pointText, fraction, h]
  | some digits => simp [pointText, fraction, h]

/-- A text is what stands before its first point and, if there is one, the point and what stands
after it. -/
lemma exists_eq_takeWhile_append_pointText (t : List Char) :
    ∃ afterPoint : Option (List Char), (t.dropWhile (· != '.')).drop 1 = afterPoint.getD [] ∧
      t = t.takeWhile (· != '.') ++ pointText afterPoint := by
  cases h : t.dropWhile (· != '.') with
  | nil =>
    refine ⟨none, rfl, ?_⟩
    conv => lhs; rw [← List.takeWhile_append_dropWhile (p := (· != '.')) (l := t), h]
    rfl
  | cons c rest =>
    have hc : c = '.' := by
      have := List.head_dropWhile_not (p := (· != '.')) (l := t) (by simp [h])
      simpa [h] using this
    subst hc
    refine ⟨some rest, rfl, ?_⟩
    conv => lhs; rw [← List.takeWhile_append_dropWhile (p := (· != '.')) (l := t), h]
    rfl

end Spelling

open Spelling

/-- Puts the parts together again that were found at the two ends and between them. -/
def Written.ofParts? (leading trailing : Option Char) (body : List Char) : Option Written :=
  let integral := body.takeWhile (· != '.')
  let fraction := (body.dropWhile (· != '.')).drop 1
  if leading.isSome && trailing.isSome then none
  else if integral.isEmpty && fraction.isEmpty then none
  else if !(integral.all isDecimalNumber || isGrouped integral) then none
  else if !fraction.all isDecimalNumber then none
  else some ⟨leading = some '-' || trailing = some '-', removeCommas integral, fraction⟩

lemma Written.ofText?_eq_ofParts? (text : List Char) :
    Written.ofText? text = Written.ofParts? (text.head?.filter Sign.isMark)
      ((Sign.stripFront text).getLast?.filter Sign.isMark)
      (Sign.stripBack (Sign.stripFront text)) := rfl

lemma Written.ofParts?_eq_some_iff {leading trailing : Option Sign} {integral : List Char}
    {afterPoint : Option (List Char)} {body : List Char} {w : Written}
    (hintegral : body.takeWhile (· != '.') = integral)
    (hfraction : (body.dropWhile (· != '.')).drop 1 = afterPoint.getD []) :
    Written.ofParts? (leading.map Sign.mark) (trailing.map Sign.mark) body = some w ↔
      (integral.all isDecimalNumber || isGrouped integral) = true ∧
        (afterPoint.getD []).all isDecimalNumber = true ∧ (leading = none ∨ trailing = none) ∧
        (integral ≠ [] ∨ afterPoint.getD [] ≠ []) ∧
        w = ⟨leading = some .minus || trailing = some .minus, removeCommas integral,
          afterPoint.getD []⟩ := by
  have hsigns : ((leading.map Sign.mark).isSome && (trailing.map Sign.mark).isSome) = true ↔
      ¬(leading = none ∨ trailing = none) := by
    cases leading <;> cases trailing <;> simp
  have hdigit : (integral.isEmpty && (afterPoint.getD []).isEmpty) = true ↔
      ¬(integral ≠ [] ∨ afterPoint.getD [] ≠ []) := by
    cases integral <;> cases afterPoint.getD [] <;> simp
  unfold Written.ofParts?
  rw [hintegral, hfraction]
  simp only [Sign.map_mark_eq_some_minus]
  split_ifs with hs hd hw hf
  · simp [hsigns.1 hs]
  · simp [hdigit.1 hd]
  · rw [Bool.not_eq_true'] at hw
    simp [hw]
  · rw [Bool.not_eq_true'] at hf
    simp [hf]
  · rw [hsigns, not_not] at hs
    rw [hdigit, not_not] at hd
    rw [Bool.not_eq_true', Bool.not_eq_false] at hw hf
    rw [Option.some.injEq, eq_comm]
    exact ⟨fun h => ⟨hw, hf, hs, hd, h⟩, fun h => h.2.2.2.2⟩

/-- The digits of both parts are those of ASCII. -/
def Written.IsAscii (w : Written) : Prop := IsDigits w.integral ∧ IsDigits w.fraction

/-- A text is a spelled decimal exactly when it can be taken apart into digits of ASCII, and then it
has the parts of its spelling. -/
theorem Written.ofText?_eq_some_iff {text : List Char} {w : Written} :
    Written.ofText? text = some w ∧ w.IsAscii ↔ ∃ s : Spelling, s.text = text ∧ s.written = w := by
  rw [Written.ofText?_eq_ofParts?]
  constructor
  · rintro ⟨h, hascii⟩
    obtain ⟨leading, hleading, hfront⟩ := Sign.exists_eq_text_append text
    obtain ⟨trailing, htrailing, hback⟩ := Sign.exists_eq_append_text (Sign.stripFront text)
    obtain ⟨afterPoint, hpoint, hparts⟩ :=
      exists_eq_takeWhile_append_pointText (Sign.stripBack (Sign.stripFront text))
    rw [hleading, htrailing, Written.ofParts?_eq_some_iff rfl hpoint] at h
    obtain ⟨hfound, -, hsigns, hdigit, rfl⟩ := h
    have hintegral := isIntegral_iff.2 ⟨hfound, hascii.1⟩
    refine ⟨⟨leading, _, afterPoint, trailing, hintegral, hascii.2, hsigns, hdigit⟩, ?_, rfl⟩
    change Sign.text leading ++ (_ ++ pointText afterPoint) ++ Sign.text trailing = text
    rw [← hparts, List.append_assoc, ← hback, ← hfront]
  · rintro ⟨s, rfl, rfl⟩
    have htext : s.text = Sign.text s.leading ++ (s.body ++ Sign.text s.trailing) :=
      List.append_assoc ..
    have hfront : Sign.stripFront s.text = s.body ++ Sign.text s.trailing := by
      rw [htext, Sign.stripFront_text_append _ (s.missesMark_head?_body _)]
    obtain ⟨hintegral, hfraction⟩ := s.split_body
    rw [hfront, Sign.stripBack_append_text _ s.missesMark_getLast?_body,
      Sign.getLast?_append_text _ s.missesMark_getLast?_body, htext,
      Sign.head?_text_append _ (s.missesMark_head?_body _),
      Written.ofParts?_eq_some_iff hintegral hfraction]
    obtain ⟨hfound, hascii⟩ := isIntegral_iff.1 s.isIntegral
    have hnumbers := List.all_eq_true.2 s.isDigits.isScriptDigits
    exact ⟨⟨hfound, hnumbers, s.one_sign, s.some_digit, rfl⟩, hascii, s.isDigits⟩

end Decimal

end Postulate.Number
