import Mathlib.Data.List.Chain
import Mathlib.Tactic.Lemma
import Postulate.Proofs.Json.Lexeme

/-!
# A text is taken apart into the tokens that it spells

A mark or a string ends by itself. Numbers and names are words, and a word ends where nothing stands
that could belong to it (`Token.EndsWord`). With this condition on the rest of a text, the scan
takes each lexeme as its token (`Token.IsLexeme.scan`).

So a text is taken apart into the tokens that it spells if no two words follow each other
(`Token.Separated`), whatever the white space. The main result is `Token.ofText?_of_spelled`.
-/

namespace Postulate.Json.Token

/-- A number or a name does not go on in the text. -/
def EndsWord (text : List Char) : Prop :=
  ∀ c ∈ text.head?, isNumberCharacter c = Bool.false ∧ c.isLower = Bool.false

/-- Numbers and names have no end of their own. -/
def isWord : Token → Bool
  | .number _ | .true | .false | .null => Bool.true
  | _ => Bool.false

/-- No two words follow each other. -/
def Separated (tokens : List Token) : Prop :=
  tokens.IsChain fun a b => a.isWord = Bool.false ∨ b.isWord = Bool.false

variable {place next : Place} {c : Char} {text rest : List Char} {token : Token}
  {tokens : List Token}

lemma scan_cons_of_step (h : step place c = some (next, [])) (rest : List Char) :
    scan place (c :: rest) = scan next rest := by
  simp [scan, h]

/-! ## Words -/

/-- A complete word is a token where the next character does not go on with it. -/
lemma scan_word (h : finish? place = some [token])
    (hstep : ∀ c ∈ rest.head?, step place c = (finish? place).bind fun ended =>
      (start c).map fun (next, tokens) => (next, ended ++ tokens)) :
    scan place rest = (scan .between rest).map (token :: ·) := by
  cases rest with
  | nil =>
    rw [scan, h]
    rfl
  | cons c rest =>
    rw [scan, hstep c rfl, h]
    cases hstart : start c <;> simp [scan, step, hstart, Function.comp_def]

/-- A word takes all the characters that go on with it. -/
lemma scan_continues (word : List Char → Place) (continues : Char → Bool)
    (hstep : ∀ before c, continues c = Bool.true →
      step (word before) c = some (word (c :: before), []))
    {more : List Char} (hmore : ∀ c ∈ more, continues c = Bool.true) (before rest : List Char) :
    scan (word before) (more ++ rest) = scan (word (more.reverse ++ before)) rest := by
  induction more generalizing before with
  | nil => rfl
  | cons c more ih =>
    rw [List.cons_append, scan_cons_of_step (hstep before c (hmore c (by simp))),
      ih fun d hd => hmore d (by simp [hd])]
    simp

lemma scan_name {more : List Char} (hc : step .between c = some (.inName [c], []))
    (hmore : ∀ d ∈ more, d.isLower = Bool.true) (h : ofName? (c :: more) = some token)
    (hrest : EndsWord rest) :
    scan .between (c :: more ++ rest) = (scan .between rest).map (token :: ·) := by
  have hcontinues := scan_continues .inName Char.isLower
    (fun before d hd => by simp [step, hd]) hmore [c] rest
  rw [List.cons_append, scan_cons_of_step hc, hcontinues]
  refine scan_word (by simp [finish?, h]) fun d hd => ?_
  simp [step, (hrest d hd).2]

lemma step_number (hc : (c.isDigit || c = '-') = Bool.true) :
    step .between c = some (.inNumber [c], []) := by
  change start c = _
  unfold start
  split
  case h_8 =>
    have hblank : ¬isBlank c = Bool.true := by
      intro hblank
      simp only [isBlank, Bool.or_eq_true, decide_eq_true_eq] at hblank
      rcases hblank with ((rfl | rfl) | rfl) | rfl <;> exact absurd hc (by decide)
    rw [if_neg hblank, if_pos hc]
  all_goals exact absurd hc (by decide)

lemma scan_number (h : IsNumeral text) (hrest : EndsWord rest) :
    scan .between (text ++ rest) = (scan .between rest).map (.number text :: ·) := by
  obtain ⟨c, more, rfl, hc⟩ := h.exists_eq_cons
  have hcontinues := scan_continues .inNumber isNumberCharacter
    (fun before d hd => by simp [step, hd])
    (fun d hd => h.isNumberCharacter_of_mem (List.mem_cons_of_mem c hd)) [c] rest
  rw [List.cons_append, scan_cons_of_step (step_number hc), hcontinues]
  refine scan_word (by simp [finish?, isNumber_iff.mpr h]) fun d hd => ?_
  simp [step, (hrest d hd).1]

/-! ## Strings -/

lemma step_backslash (units : List StringUnit) :
    step (.inString units) '\\' = some (.inEscape units, []) := rfl

lemma scan_code {units : List StringUnit} {value : Nat} {digits : List (Char × Nat)}
    (h : ∀ digit ∈ digits, digit ∈ hexDigits) (hne : digits ≠ []) :
    scan (.inCode units value digits.length) (digits.map Prod.fst ++ rest) =
      scan (.inString (.code ((digits.map Prod.snd).foldl
        (fun value digit => 16 * value + digit) value) :: units)) rest := by
  induction digits generalizing value with
  | nil => exact absurd rfl hne
  | cons digit digits ih =>
    have hdigit := hexValue?_eq_some_iff.mpr (h digit (by simp))
    rw [List.map_cons, List.cons_append]
    cases digits with
    | nil => exact scan_cons_of_step (by simp [step, hdigit]) _
    | cons following digits =>
      have hstep : step (.inCode units value (digit :: following :: digits).length) digit.1 =
          some (.inCode units (16 * value + digit.2) (following :: digits).length, []) := by
        simp [step, hdigit]
      rw [scan_cons_of_step hstep, ih (fun d hd => h d (List.mem_cons_of_mem _ hd)) (by simp)]
      rfl

lemma WritesUnit.scan {unit : StringUnit} {written : List Char} (h : WritesUnit unit written)
    (units : List StringUnit) :
    Token.scan (.inString units) (written ++ rest) =
      Token.scan (.inString (unit :: units)) rest := by
  cases h with
  | plain printed not_quote not_backslash =>
    refine scan_cons_of_step ?_ rest
    rw [step, if_neg not_quote, if_neg not_backslash, if_neg (Nat.not_lt.mpr printed)]
  | @short letter c escape =>
    have hletter : shortEscape? letter = some c := shortEscape?_eq_some_iff.mpr escape
    have hne : letter ≠ 'u' := by
      rintro rfl
      cases hletter
    have hstep : step (.inEscape units) letter = some (.inString (.char c :: units), []) := by
      rw [step, if_neg hne, hletter, Option.map_some]
    rw [List.cons_append, scan_cons_of_step (step_backslash units), List.singleton_append,
      scan_cons_of_step hstep]
  | @code digits four isHex =>
    have hcode : step (.inEscape units) 'u' = some (.inCode units 0 digits.length, []) := by
      rw [four]
      rfl
    have hne : digits ≠ [] := by
      rintro rfl
      cases four
    rw [List.cons_append, scan_cons_of_step (step_backslash units), List.cons_append,
      scan_cons_of_step hcode, scan_code isHex hne]
    rfl

/-- The units of a string are read one after the other. -/
lemma scan_units {units : List (StringUnit × List Char)}
    (writes : ∀ unit ∈ units, WritesUnit unit.1 unit.2) (before : List StringUnit) :
    scan (.inString before) (units.flatMap Prod.snd ++ rest) =
      scan (.inString ((units.map Prod.fst).reverse ++ before)) rest := by
  induction units generalizing before with
  | nil => rfl
  | cons unit units ih =>
    rw [List.flatMap_cons, List.append_assoc, (writes unit (by simp)).scan,
      ih fun u hu => writes u (List.mem_cons_of_mem _ hu)]
    simp

/-! ## Lexemes -/

lemma isWord_of_isName {letters : List Char} (h : (letters, token) ∈ names) :
    token.isWord = Bool.true := by
  have hall : ∀ token ∈ names.map Prod.snd, token.isWord = Bool.true := by decide
  exact hall token (List.mem_map_of_mem h)

/-- Of words, the end must be told. -/
lemma IsLexeme.scan (h : IsLexeme token text) (hrest : token.isWord = Bool.true → EndsWord rest) :
    Token.scan .between (text ++ rest) = (Token.scan .between rest).map (token :: ·) := by
  cases h with
  | mark isMark =>
    have hall : ∀ mark ∈ marks, start mark.1 = some (.between, [mark.2]) := by decide
    have hstart := hall _ isMark
    simp [Token.scan, step, hstart]
  | name isName =>
    have hall : ∀ name ∈ names, ∃ c more, name.1 = c :: more ∧
        step .between c = some (.inName [c], []) ∧ ∀ d ∈ more, d.isLower = Bool.true := by
      simp only [names, List.forall_mem_cons]
      exact ⟨⟨_, _, rfl, rfl, List.all_eq_true.mp rfl⟩, ⟨_, _, rfl, rfl, List.all_eq_true.mp rfl⟩,
        ⟨_, _, rfl, rfl, List.all_eq_true.mp rfl⟩, by simp⟩
    obtain ⟨c, more, rfl, hc, hmore⟩ := hall _ isName
    exact scan_name hc hmore (ofName?_eq_some_iff.mpr isName) (hrest (isWord_of_isName isName))
  | number isNumeral => exact scan_number isNumeral (hrest rfl)
  | @string units writes =>
    have hopen : step .between '"' = some (.inString [], []) := rfl
    rw [List.cons_append, scan_cons_of_step hopen, List.append_assoc, List.singleton_append,
      scan_units writes, List.append_nil]
    simp [Token.scan, step]

/-- A lexeme that is no word is no part of one. -/
lemma IsLexeme.endsWord (h : IsLexeme token text) (hword : token.isWord = Bool.false) :
    EndsWord (text ++ rest) := by
  cases h with
  | mark isMark =>
    have hall : ∀ mark ∈ marks, isNumberCharacter mark.1 = Bool.false ∧
        mark.1.isLower = Bool.false := by decide
    intro c hc
    obtain rfl := Option.some.inj hc
    exact hall _ isMark
  | name isName => exact absurd (isWord_of_isName isName) (by simp [hword])
  | number => cases hword
  | string =>
    intro c hc
    obtain rfl : '"' = c := Option.some.inj hc
    exact ⟨rfl, rfl⟩

lemma Spelled.endsWord (h : Spelled tokens text)
    (hword : ∀ token ∈ tokens.head?, token.isWord = Bool.false) : EndsWord text := by
  cases h with
  | nil => simp [EndsWord]
  | blank isBlank =>
    have hall : ∀ c ∈ blanks, isNumberCharacter c = Bool.false ∧ c.isLower = Bool.false := by
      simp only [blanks, List.forall_mem_cons]
      exact ⟨⟨rfl, rfl⟩, ⟨rfl, rfl⟩, ⟨rfl, rfl⟩, ⟨rfl, rfl⟩, by simp⟩
    intro c hc
    obtain rfl := Option.some.inj hc
    exact hall _ isBlank
  | token isLexeme => exact isLexeme.endsWord (hword _ rfl)

/-- Where no two words follow each other, a text is taken apart into the tokens that it spells. -/
theorem ofText?_of_spelled (h : Spelled tokens text) (hseparated : Separated tokens) :
    ofText? text = some tokens := by
  induction h with
  | nil => rfl
  | @blank c tokens text isBlank _ ih =>
    have hall : ∀ c ∈ blanks, step .between c = some (.between, []) := by
      simp only [blanks, List.forall_mem_cons]
      exact ⟨rfl, rfl, rfl, rfl, by simp⟩
    rw [ofText?, scan_cons_of_step (hall c isBlank)]
    exact ih hseparated
  | @token token tokens lexeme text isLexeme more ih =>
    obtain ⟨hhead, htail⟩ := List.isChain_cons.mp hseparated
    -- behind a word there is no other one, so it ends where its lexeme does
    have hends : token.isWord = Bool.true → EndsWord text := by
      intro hword
      refine more.endsWord fun next hnext => (hhead next hnext).resolve_left ?_
      simp [hword]
    rw [ofText?, isLexeme.scan hends]
    have htext : Token.scan .between text = some tokens := ih htail
    rw [htext, Option.map_some]

end Postulate.Json.Token
