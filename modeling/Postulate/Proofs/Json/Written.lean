import Mathlib.Tactic.Choose
import Mathlib.Tactic.Lemma
import Postulate.Json.Writing
import Postulate.Proofs.Json.Text

/-!
# What is written as JSON is read back

A value can be written when its strings and names have a text and its numbers are numbers of JSON
(`Json.IsWritable`). In strings, each character is one unit, whether it is written as itself, by a
short escape or by its code (`Json.exists_writesUnit`). So what is written of a value is one lexeme
after the other, and the tokens form the value: it is a text of the value (`Json.isText_render`),
with no white space at all.

The main results are `Json.ofText?_render`, that a written value is read as itself, and
`Json.space_le_of_mem_render`, that there are no control characters in the text.
-/

namespace Postulate.Json

open Token (Spelled IsLexeme WritesUnit)

/-- The value has a text: strings and names are texts, numbers are numbers of JSON. -/
inductive IsWritable : Json → Prop
  | null : IsWritable .null
  | bool (value : Bool) : IsWritable (.bool value)
  | number {written : List Char} (h : Token.isNumber written = true) : IsWritable (.number written)
  | string (text : String) : IsWritable (.ofString text)
  | array {items : List Json} (h : ∀ item ∈ items, IsWritable item) : IsWritable (.array items)
  | object {members : List (String × Json)} (h : ∀ member ∈ members, IsWritable member.2) :
      IsWritable (.ofMembers members)

lemma isWritable_ofNat (n : Nat) : IsWritable (.ofNat n) := .number (Token.isNumber_toDigits n)

lemma isWritable_ofString? (text : Option String) : IsWritable (.ofString? text) := by
  cases text with
  | none => exact .null
  | some text => exact .string text

lemma haveText_iff {items : List Json} :
    haveText items = true ↔ ∀ item ∈ items, item.hasText = true := by
  induction items with
  | nil => simp [haveText]
  | cons item items ih => rw [haveText, Bool.and_eq_true, ih, List.forall_mem_cons]

lemma membersHaveText_iff {members : List (Option String × Json)} : membersHaveText members = true ↔
    ∀ member ∈ members, member.1.isSome = true ∧ member.2.hasText = true := by
  induction members with
  | nil => simp [membersHaveText]
  | cons member members ih =>
    rw [membersHaveText, Bool.and_eq_true, Bool.and_eq_true, ih, List.forall_mem_cons]

lemma hasText_of_isWritable {j : Json} (h : IsWritable j) : j.hasText = true := by
  induction h with
  | null | bool | string => rfl
  | number h => exact h
  | array _ ih =>
    rw [hasText, haveText_iff]
    exact ih
  | object _ ih =>
    rw [ofMembers, hasText, membersHaveText_iff, List.forall_mem_map]
    exact fun member hmember => ⟨rfl, ih member hmember⟩

lemma text?_of_isWritable {j : Json} (h : IsWritable j) : j.text? = some j.text := by
  rw [text?, if_pos (hasText_of_isWritable h)]

/-! ## Strings -/

/-- Four digits in base sixteen, of which the first two are zeros. -/
lemma writesUnit_code {n : Nat} (h : n < 0x100) : WritesUnit (.code n)
    ['\\', 'u', '0', '0', Nat.digitChar (n / 16), Nat.digitChar (n % 16)] := by
  have hzero : ('0', 0) ∈ Token.hexDigits := by decide
  have hhex : ∀ k < 16, (Nat.digitChar k, k) ∈ Token.hexDigits := by decide
  have hdigits : ∀ digit ∈ [('0', 0), ('0', 0), (Nat.digitChar (n / 16), n / 16),
      (Nat.digitChar (n % 16), n % 16)], digit ∈ Token.hexDigits := by
    simp only [List.forall_mem_cons]
    exact ⟨hzero, hzero, hhex _ (by omega), hhex _ (by omega), by simp⟩
  have hvalue : Token.codeValue [0, 0, n / 16, n % 16] = n := by
    simp only [Token.codeValue, List.foldl_cons, List.foldl_nil]
    omega
  have hwrites := WritesUnit.code rfl hdigits
  simpa only [List.map_cons, List.map_nil, hvalue] using hwrites

/-- A character is written as a unit that is the same in UTF-16. -/
lemma exists_writesUnit (c : Char) : ∃ unit, WritesUnit unit (escape c) ∧ unit.utf16 = utf16 c := by
  unfold escape
  split
  case h_8 hquote hbackslash _ _ _ _ _ =>
    -- without a short escape, the character is written by its code or as itself
    split
    case isTrue hcontrol =>
      refine ⟨.code c.toNat, writesUnit_code (by omega), ?_⟩
      rw [utf16, if_pos (by omega), StringUnit.utf16]
    case isFalse hprinted =>
      exact ⟨.char c, .plain (Nat.le_of_not_lt hprinted) hquote hbackslash, rfl⟩
  all_goals exact ⟨.char _, .short (by decide), rfl⟩

/-- A text in quotes is a string that has this text. -/
lemma exists_isLexeme_quote (text : String) : ∃ units, Reader.stringText units = some text ∧
    IsLexeme (.string units) (quote text.toList) := by
  choose unit hwrites hunit using exists_writesUnit
  have hlexeme : IsLexeme (.string (text.toList.map unit)) (quote text.toList) := by
    have hunits := @IsLexeme.string (text.toList.map fun c => (unit c, escape c))
      (List.forall_mem_map.mpr fun c _ => hwrites c)
    simpa [quote, List.flatMap_map, Function.comp_def] using hunits
  refine ⟨_, (stringText_eq_some_iff hlexeme.fit).mpr ?_, hlexeme⟩
  rw [List.flatMap_map]
  simp only [hunit]

/-! ## Values -/

lemma spelled_mark {c : Char} {token : Token} {tokens : List Token} {text : List Char}
    (isMark : (c, token) ∈ Token.marks) (h : Spelled tokens text) :
    Spelled (token :: tokens) (c :: text) := .token (.mark isMark) h

/-- Parts with a comma between every two. -/
lemma spelled_joined {α : Type} {parts : List α} {text : α → List Char} {tokens : α → List Token}
    (h : ∀ part ∈ parts, Spelled (tokens part) (text part)) :
    Spelled ([.comma].intercalate (parts.map tokens)) (joined (parts.map text)) := by
  induction parts with
  | nil => exact .nil
  | cons part others ih =>
    have hothers := ih fun p hp => h p (List.mem_cons_of_mem _ hp)
    cases others with
    | nil => simpa [joined] using h part (by simp)
    | cons next others =>
      rw [List.map_cons, List.map_cons, List.intercalate_cons_cons, List.append_assoc,
        List.singleton_append]
      exact (h part (by simp)).append (spelled_mark (by decide) hothers)

/-- What is written between a mark that opens and a mark that closes. -/
lemma spelled_enclosed {opening closing : Char} {openToken closeToken : Token}
    {tokens : List Token} {text : List Char} (hopen : (opening, openToken) ∈ Token.marks)
    (hclose : (closing, closeToken) ∈ Token.marks) (h : Spelled tokens text) :
    Spelled (openToken :: (tokens ++ [closeToken])) (opening :: text ++ [closing]) :=
  spelled_mark hopen (h.append (spelled_mark hclose .nil))

lemma renderItems_eq_map (items : List Json) : renderItems items = items.map render := by
  induction items with
  | nil => rfl
  | cons item items ih => rw [renderItems, ih, List.map_cons]

lemma renderMembers_eq_map (members : List (String × Json)) :
    renderMembers (members.map fun (name, value) => (some name, value)) =
      members.map fun (name, value) => quote name.toList ++ ':' :: value.render := by
  induction members with
  | nil => rfl
  | cons member members ih => rw [List.map_cons, renderMembers, ih, List.map_cons]; rfl

/-- What is written of a value is a text of it. -/
lemma isText_render {j : Json} (h : IsWritable j) : IsText j j.render := by
  induction h with
  | null =>
    rw [render]
    exact ⟨_, .null, .of_isLexeme (.name (by decide))⟩
  | bool value =>
    rw [render]
    exact ⟨_, .bool value, .of_isLexeme (.name (by cases value <;> decide))⟩
  | @number written h =>
    rw [render]
    exact ⟨_, .number written, .of_isLexeme (.number (Token.isNumber_iff.mp h))⟩
  | string text =>
    obtain ⟨units, htext, hlexeme⟩ := exists_isLexeme_quote text
    rw [ofString, render, Option.getD_some, ← htext]
    exact ⟨_, .string units, .of_isLexeme hlexeme⟩
  | @array items h ih =>
    choose! tokens hforms hspelled using ih
    have hitems := Forms.array (items.map fun item => (item, tokens item))
      (List.forall_mem_map.mpr hforms)
    rw [List.map_map, List.map_map] at hitems
    refine ⟨_, by simpa [Function.comp_def] using hitems, ?_⟩
    rw [render, renderItems_eq_map]
    exact spelled_enclosed (by decide) (by decide) (spelled_joined hspelled)
  | @object members h ih =>
    choose! tokens hforms hspelled using ih
    choose units htext hlexeme using exists_isLexeme_quote
    have hmembers := Forms.object
      (members.map fun member => (units member.1, member.2, tokens member))
      (List.forall_mem_map.mpr hforms)
    rw [List.map_map, List.map_map] at hmembers
    have hmember : ∀ member ∈ members,
        Spelled (.string (units member.1) :: .colon :: tokens member)
          (quote member.1.toList ++ ':' :: member.2.render) := fun member hm =>
      .token (hlexeme member.1) (spelled_mark (by decide) (hspelled member hm))
    refine ⟨_, by simpa [Function.comp_def, htext, ofMembers] using hmembers, ?_⟩
    rw [ofMembers, render, renderMembers_eq_map]
    exact spelled_enclosed (by decide) (by decide) (spelled_joined hmember)

/-- A value that is written is read as itself. -/
theorem ofText?_render {j : Json} (h : IsWritable j) : ofText? j.render = some j :=
  ofText?_eq_some_iff.mpr (isText_render h)

/-- Different values have different texts. -/
lemma render_injective {j k : Json} (hj : IsWritable j) (hk : IsWritable k)
    (h : j.render = k.render) : j = k := by
  have hread := ofText?_render hj
  rw [h, ofText?_render hk] at hread
  exact (Option.some.inj hread).symm

/-! ## Control characters -/

lemma space_le_of_mem_escape (c : Char) : ∀ d ∈ escape c, 0x20 ≤ d.toNat := by
  have hdigit : ∀ n < 16, 0x20 ≤ (Nat.digitChar n).toNat := by decide
  unfold escape
  split
  case h_8 =>
    split
    case isTrue hcontrol =>
      have hhigh := hdigit (c.toNat / 16) (by omega)
      have hlow := hdigit (c.toNat % 16) (by omega)
      simp [hhigh, hlow]
    case isFalse hplain => simpa using hplain
  all_goals simp

lemma space_le_of_mem_quote (text : List Char) : ∀ c ∈ quote text, 0x20 ≤ c.toNat := by
  simp only [quote, List.forall_mem_append, List.mem_flatMap]
  refine ⟨⟨by simp, ?_⟩, by simp⟩
  rintro d ⟨c, -, hd⟩
  exact space_le_of_mem_escape c d hd

lemma space_le_of_mem_joined {parts : List (List Char)}
    (h : ∀ part ∈ parts, ∀ c ∈ part, 0x20 ≤ c.toNat) : ∀ c ∈ joined parts, 0x20 ≤ c.toNat := by
  fun_induction joined parts with
  | case1 => simp
  | case2 part => exact h part (by simp)
  | case3 part others _ ih =>
    have hcomma : 0x20 ≤ ','.toNat := by decide
    simp only [List.forall_mem_append, List.forall_mem_cons]
    exact ⟨h part (by simp), hcomma, ih fun p hp => h p (List.mem_cons_of_mem _ hp)⟩

lemma space_le_of_isNumber {written : List Char} (h : Token.isNumber written = true) :
    ∀ c ∈ written, 0x20 ≤ c.toNat := by
  intro c hc
  have hnumber := (Token.isNumber_iff.mp h).isNumberCharacter_of_mem hc
  simp only [Token.isNumberCharacter, Bool.or_eq_true, decide_eq_true_eq] at hnumber
  rcases hnumber with ((((hdigit | rfl) | rfl) | rfl) | rfl) | rfl
  · have hzero : 0x20 ≤ '0'.toNat := by decide
    exact hzero.trans (Char.isDigit_iff_toNat.mp hdigit).1
  all_goals decide

/-- There are no control characters in the text of a value. -/
theorem space_le_of_mem_render {j : Json} (h : IsWritable j) : ∀ c ∈ j.render, 0x20 ≤ c.toNat := by
  induction h with
  | null => simp [render]
  | bool value => cases value <;> simp [render]
  | @number written h => simpa only [render] using space_le_of_isNumber h
  | string text => simpa only [ofString, render] using space_le_of_mem_quote _
  | @array items h ih =>
    rw [render, renderItems_eq_map]
    simp only [List.forall_mem_append, List.forall_mem_cons]
    exact ⟨⟨by decide, space_le_of_mem_joined (List.forall_mem_map.mpr ih)⟩, by simp⟩
  | @object members h ih =>
    have hmember : ∀ member ∈ members,
        ∀ c ∈ quote member.1.toList ++ ':' :: member.2.render, 0x20 ≤ c.toNat := by
      intro member hm
      simp only [List.forall_mem_append, List.forall_mem_cons]
      exact ⟨space_le_of_mem_quote _, by decide, ih member hm⟩
    rw [ofMembers, render, renderMembers_eq_map]
    simp only [List.forall_mem_append, List.forall_mem_cons]
    exact ⟨⟨by decide, space_le_of_mem_joined (List.forall_mem_map.mpr hmember)⟩, by simp⟩

end Postulate.Json
