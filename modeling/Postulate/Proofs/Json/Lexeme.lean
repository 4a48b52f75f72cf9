import Mathlib.Data.List.Induction
import Mathlib.Tactic.Lemma
import Postulate.Proofs.Json.Numeral
import Postulate.Proofs.Json.Units

/-!
# How tokens are spelled

A token is spelled by a lexeme (`Token.IsLexeme`): a mark, a name, a number, or a string of which
each unit is written as itself, by a short escape or by its code (`Token.WritesUnit`). A text spells
tokens when it is their lexemes, with any white space before, between and behind them
(`Token.Spelled`).

In each place of a scan, the characters that were read since the last token ended are the beginning
of a lexeme (`Token.Reached`). One character more keeps it so, and what is handed out is spelled by
what is done with (`Token.Reached.step`). So a text spells the tokens that it is taken apart into:
`Token.spelled_of_ofText?`.
-/

namespace Postulate.Json.Token

/-! ## Lexemes -/

/-- The letters behind a backslash with the characters that they stand for. -/
def shortEscapes : List (Char × Char) :=
  [('"', '"'), ('\\', '\\'), ('/', '/'), ('b', '\x08'), ('f', '\x0c'), ('n', '\n'), ('r', '\r'),
    ('t', '\t')]

/-- The digits in base sixteen with their values. -/
def hexDigits : List (Char × Nat) :=
  ['0', '1', '2', '3', '4', '5', '6', '7', '8', '9', 'a', 'b', 'c', 'd', 'e', 'f'].zipIdx ++
    ['A', 'B', 'C', 'D', 'E', 'F'].zipIdx 10

/-- The number that digits in base sixteen make. -/
def codeValue (digits : List Nat) : Nat := digits.foldl (fun value digit => 16 * value + digit) 0

/-- The ways to write a unit of a string. -/
inductive WritesUnit : StringUnit → List Char → Prop
  | plain {c : Char} (printed : 0x20 ≤ c.toNat) (not_quote : c ≠ '"') (not_backslash : c ≠ '\\') :
      WritesUnit (.char c) [c]
  | short {letter c : Char} (escape : (letter, c) ∈ shortEscapes) :
      WritesUnit (.char c) ['\\', letter]
  | code {digits : List (Char × Nat)} (four : digits.length = 4)
      (isHex : ∀ digit ∈ digits, digit ∈ hexDigits) :
      WritesUnit (.code (codeValue (digits.map Prod.snd))) ('\\' :: 'u' :: digits.map Prod.fst)

/-- The punctuation marks. -/
def marks : List (Char × Token) :=
  [('\x7b', .openBrace), ('\x7d', .closeBrace), ('[', .openBracket), (']', .closeBracket),
    (':', .colon), (',', .comma)]

/-- The three names. -/
def names : List (List Char × Token) :=
  [("true".toList, .true), ("false".toList, .false), ("null".toList, .null)]

/-- The ways to write a token. -/
inductive IsLexeme : Token → List Char → Prop
  | mark {c : Char} {token : Token} (isMark : (c, token) ∈ marks) : IsLexeme token [c]
  | name {letters : List Char} {token : Token} (isName : (letters, token) ∈ names) :
      IsLexeme token letters
  | number {written : List Char} (isNumeral : IsNumeral written) :
      IsLexeme (.number written) written
  /-- The units, each as it is written. -/
  | string {units : List (StringUnit × List Char)}
      (writes : ∀ unit ∈ units, WritesUnit unit.1 unit.2) :
      IsLexeme (.string (units.map Prod.fst)) ('"' :: (units.flatMap Prod.snd ++ ['"']))

/-- The characters of white space. -/
def blanks : List Char := [' ', '\t', '\n', '\r']

/-- The text is the tokens one after the other, with white space anywhere around them. -/
inductive Spelled : List Token → List Char → Prop
  | nil : Spelled [] []
  | blank {c : Char} {tokens : List Token} {text : List Char} (isBlank : c ∈ blanks)
      (more : Spelled tokens text) : Spelled tokens (c :: text)
  | token {token : Token} {tokens : List Token} {lexeme text : List Char}
      (isLexeme : IsLexeme token lexeme) (more : Spelled tokens text) :
      Spelled (token :: tokens) (lexeme ++ text)

variable {place next : Place} {c : Char} {n : Nat} {before text text' : List Char} {token : Token}
  {tokens tokens' : List Token}

lemma codeValue_lt {digits : List (Char × Nat)} (h : ∀ digit ∈ digits, digit ∈ hexDigits) :
    codeValue (digits.map Prod.snd) < 16 ^ digits.length := by
  induction digits using List.reverseRecOn with
  | nil => decide
  | append_singleton digits digit ih =>
    have hall : ∀ digit ∈ hexDigits, digit.2 < 16 := by decide
    have hdigit := hall digit (h digit (by simp))
    have hdigits := ih fun d hd => h d (List.mem_append_left _ hd)
    rw [List.map_append, codeValue, List.foldl_append, ← codeValue, List.length_append, pow_add]
    change 16 * codeValue (digits.map Prod.snd) + digit.2 < _ * 16
    omega

/-- The code units of a written string fit into 16 bits. -/
lemma IsLexeme.fit {units : List StringUnit} (h : IsLexeme (.string units) text) : Fit units := by
  cases h with
  | mark isMark =>
    have hall : ∀ mark ∈ marks, ∀ units, mark.2 ≠ .string units := by
      simp [marks]
    exact absurd rfl (hall _ isMark units)
  | name isName =>
    have hall : ∀ name ∈ names, ∀ units, name.2 ≠ .string units := by
      simp [names]
    exact absurd rfl (hall _ isName units)
  | string writes =>
    intro unit hunit
    obtain ⟨⟨_, written⟩, hmem, rfl⟩ := List.mem_map.mp hunit
    have hwrites := writes _ hmem
    cases hwrites with
    | code four isHex =>
      have hlt := codeValue_lt isHex
      rwa [four] at hlt

/-! ### What is recognised -/

lemma shortEscape?_eq_some_iff {letter c : Char} :
    shortEscape? letter = some c ↔ (letter, c) ∈ shortEscapes := by
  constructor
  · intro h
    unfold shortEscape? at h
    split at h
    case h_9 => cases h
    all_goals
      obtain rfl := Option.some.inj h
      decide
  · have hall : ∀ escape ∈ shortEscapes, shortEscape? escape.1 = some escape.2 := by decide
    exact hall (letter, c)

lemma hexValue?_eq_some_iff : hexValue? c = some n ↔ (c, n) ∈ hexDigits := by
  constructor
  · intro h
    -- whatever has a value comes before g
    have hlt : c.toNat < 0x67 := by
      unfold hexValue? at h
      split at h
      case isTrue hdigit =>
        have hle : c.toNat ≤ 0x39 := (Char.isDigit_iff_toNat.mp hdigit).2
        omega
      case isFalse =>
        split at h
        case isTrue hlower =>
          have hle : c.toNat ≤ 0x66 := Char.le_def.mp hlower.2
          omega
        case isFalse =>
          split at h
          case isTrue hupper =>
            have hle : c.toNat ≤ 0x46 := Char.le_def.mp hupper.2
            omega
          case isFalse => cases h
    have hall : ∀ k < 0x67, ∀ n ∈ hexValue? (Char.ofNat k), (Char.ofNat k, n) ∈ hexDigits := by
      decide
    have hc := hall c.toNat hlt n
    rw [Char.ofNat_toNat] at hc
    exact hc h
  · have hall : ∀ digit ∈ hexDigits, hexValue? digit.1 = some digit.2 := by decide
    exact hall (c, n)

lemma ofName?_eq_some_iff {letters : List Char} :
    ofName? letters = some token ↔ (letters, token) ∈ names := by
  constructor
  · intro h
    unfold ofName? at h
    split at h
    case isTrue hname =>
      cases h
      simp [names, hname]
    case isFalse =>
      split at h
      case isTrue hname =>
        cases h
        simp [names, hname]
      case isFalse =>
        split at h
        case isTrue hname =>
          cases h
          simp [names, hname]
        case isFalse => cases h
  · have hall : ∀ name ∈ names, ofName? name.1 = some name.2 := by decide
    exact hall (letters, token)

lemma isBlank_iff : isBlank c = Bool.true ↔ c ∈ blanks := by
  simp [isBlank, blanks, or_assoc]

/-! ## A text spells what it is taken apart into -/

lemma Spelled.append (h : Spelled tokens text) (h' : Spelled tokens' text') :
    Spelled (tokens ++ tokens') (text ++ text') := by
  induction h with
  | nil => exact h'
  | blank isBlank _ ih => exact .blank isBlank ih
  | token isLexeme _ ih =>
    rw [List.cons_append, List.append_assoc]
    exact .token isLexeme ih

lemma Spelled.of_isLexeme (h : IsLexeme token text) : Spelled [token] text := by
  have hspelled := Spelled.token h .nil
  rwa [List.append_nil] at hspelled

/-- What has been read since the last token ended, in a place of a scan. -/
inductive Reached : Place → List Char → Prop
  | between : Reached .between []
  | inString {units : List (StringUnit × List Char)}
      (writes : ∀ unit ∈ units, WritesUnit unit.1 unit.2) :
      Reached (.inString (units.map Prod.fst).reverse) ('"' :: units.flatMap Prod.snd)
  | inEscape {units : List (StringUnit × List Char)}
      (writes : ∀ unit ∈ units, WritesUnit unit.1 unit.2) :
      Reached (.inEscape (units.map Prod.fst).reverse) ('"' :: (units.flatMap Prod.snd ++ ['\\']))
  | inCode {units : List (StringUnit × List Char)} {digits : List (Char × Nat)} {missing : Nat}
      (writes : ∀ unit ∈ units, WritesUnit unit.1 unit.2)
      (isHex : ∀ digit ∈ digits, digit ∈ hexDigits)
      (four : digits.length + missing = 4) (some_missing : 0 < missing) :
      Reached (.inCode (units.map Prod.fst).reverse (codeValue (digits.map Prod.snd)) missing)
        ('"' :: (units.flatMap Prod.snd ++ '\\' :: 'u' :: digits.map Prod.fst))
  | inNumber (written : List Char) : Reached (.inNumber written) written.reverse
  | inName (letters : List Char) : Reached (.inName letters) letters.reverse

/-- After what has been read, a text continues with what spells the tokens, and then a beginning of
a lexeme. -/
def Continues (text : List Char) (tokens : List Token) (next : Place) : Prop :=
  ∃ done before, text = done ++ before ∧ Spelled tokens done ∧ Reached next before

lemma Reached.inString_concat {units : List (StringUnit × List Char)} {unit : StringUnit}
    {written : List Char} (writes : ∀ unit ∈ units, WritesUnit unit.1 unit.2)
    (h : WritesUnit unit written) :
    Reached (.inString (unit :: (units.map Prod.fst).reverse))
      ('"' :: (units.flatMap Prod.snd ++ written)) := by
  have hreached := @Reached.inString (units ++ [(unit, written)])
    (List.forall_mem_append.mpr ⟨writes, by simpa using h⟩)
  simpa using hreached

lemma Reached.continues (h : Reached next text) : Continues text [] next :=
  ⟨[], text, rfl, .nil, h⟩

lemma continues_start (h : start c = some (next, tokens)) : Continues [c] tokens next := by
  unfold start at h
  split at h
  case h_7 =>
    cases h
    exact (@Reached.inString [] (by simp)).continues
  case h_8 =>
    split at h
    case isTrue hblank =>
      cases h
      exact ⟨[c], [], rfl, .blank (isBlank_iff.mp hblank) .nil, .between⟩
    case isFalse =>
      split at h
      case isTrue =>
        cases h
        exact (Reached.inNumber [c]).continues
      case isFalse =>
        split at h
        case isTrue =>
          cases h
          exact (Reached.inName [c]).continues
        case isFalse => cases h
  all_goals
    cases h
    exact ⟨_, [], rfl, .of_isLexeme (.mark (by decide)), .between⟩

lemma spelled_of_finish? (hreached : Reached place text) (h : finish? place = some tokens) :
    Spelled tokens text := by
  cases hreached with
  | between =>
    cases h
    exact .nil
  | inString | inEscape | inCode => cases h
  | inNumber written =>
    simp only [finish?, Option.ite_none_right_eq_some, Option.some.injEq] at h
    obtain ⟨hnumber, rfl⟩ := h
    exact .of_isLexeme (.number (isNumber_iff.mp hnumber))
  | inName letters =>
    obtain ⟨token, hname, rfl⟩ := Option.map_eq_some_iff.mp h
    exact .of_isLexeme (.name (ofName?_eq_some_iff.mp hname))

/-- Where a word ends, the character behind it starts something else. -/
lemma Reached.continues_word (hreached : Reached place before)
    (h : ((finish? place).bind fun ended =>
      (start c).map fun (next, tokens) => (next, ended ++ tokens)) = some (next, tokens)) :
    Continues (before ++ [c]) tokens next := by
  obtain ⟨ended, hended, hbehind⟩ := Option.bind_eq_some_iff.mp h
  obtain ⟨⟨next', tokens'⟩, hstart, heq⟩ := Option.map_eq_some_iff.mp hbehind
  cases heq
  obtain ⟨done, more, hsplit, hdone, hmore⟩ := continues_start hstart
  exact ⟨before ++ done, more, by rw [hsplit, List.append_assoc],
    (spelled_of_finish? hreached hended).append hdone, hmore⟩

/-- A character inside a string ends it, starts an escape or stands for itself. -/
lemma continues_inString {units : List (StringUnit × List Char)}
    (writes : ∀ unit ∈ units, WritesUnit unit.1 unit.2)
    (h : step (.inString (units.map Prod.fst).reverse) c = some (next, tokens)) :
    Continues ('"' :: (units.flatMap Prod.snd ++ [c])) tokens next := by
  simp only [step] at h
  split at h
  case isTrue hquote =>
    cases h
    subst hquote
    rw [List.reverse_reverse]
    exact ⟨_, [], (List.append_nil _).symm, .of_isLexeme (.string writes), .between⟩
  case isFalse hquote =>
    split at h
    case isTrue hbackslash =>
      cases h
      subst hbackslash
      exact (Reached.inEscape writes).continues
    case isFalse hbackslash =>
      split at h
      case isTrue => cases h
      case isFalse hprinted =>
        cases h
        exact (Reached.inString_concat writes
          (.plain (Nat.le_of_not_lt hprinted) hquote hbackslash)).continues

/-- A digit of a code is the last of it, or one of those before. -/
lemma continues_inCode {units : List (StringUnit × List Char)} {digits : List (Char × Nat)}
    {missing : Nat} (writes : ∀ unit ∈ units, WritesUnit unit.1 unit.2)
    (isHex : ∀ digit ∈ digits, digit ∈ hexDigits) (four : digits.length + missing = 4)
    (some_missing : 0 < missing)
    (h : step (.inCode (units.map Prod.fst).reverse (codeValue (digits.map Prod.snd)) missing) c =
      some (next, tokens)) :
    Continues ('"' :: (units.flatMap Prod.snd ++
      '\\' :: 'u' :: (digits.map Prod.fst ++ [c]))) tokens next := by
  simp only [step] at h
  obtain ⟨digit, hdigit, heq⟩ := Option.map_eq_some_iff.mp h
  -- the digits so far and the new one
  have hdigits : ∀ d ∈ digits ++ [(c, digit)], d ∈ hexDigits :=
    List.forall_mem_append.mpr ⟨isHex, by simpa using hexValue?_eq_some_iff.mp hdigit⟩
  have hvalue : codeValue ((digits ++ [(c, digit)]).map Prod.snd) =
      16 * codeValue (digits.map Prod.snd) + digit := by
    simp [codeValue]
  have hlength : (digits ++ [(c, digit)]).length = digits.length + 1 := by
    rw [List.length_append, List.length_singleton]
  split at heq
  case isTrue hlast =>
    cases heq
    have hreached := Reached.inString_concat writes (.code (by omega) hdigits)
    rw [hvalue] at hreached
    simpa using hreached.continues
  case isFalse hmore =>
    cases heq
    have hfour : (digits ++ [(c, digit)]).length + (missing - 1) = 4 := by omega
    have hreached := Reached.inCode writes hdigits hfour (by omega)
    rw [hvalue] at hreached
    simpa using hreached.continues

/-- One character more. -/
lemma Reached.step (hreached : Reached place before) (h : step place c = some (next, tokens)) :
    Continues (before ++ [c]) tokens next := by
  cases hreached with
  | between => exact continues_start h
  | inString writes => exact continues_inString writes h
  | @inEscape units writes =>
    simp only [Token.step] at h
    split at h
    case isTrue hcode =>
      cases h
      subst hcode
      have hreached := @Reached.inCode units [] 4 writes (by simp) rfl (by simp)
      simpa [codeValue] using hreached.continues
    case isFalse =>
      obtain ⟨d, hescape, heq⟩ := Option.map_eq_some_iff.mp h
      cases heq
      have hreached := inString_concat writes (.short (shortEscape?_eq_some_iff.mp hescape))
      simpa using hreached.continues
  | inCode writes isHex four some_missing =>
    simpa using continues_inCode writes isHex four some_missing h
  | inNumber written =>
    simp only [Token.step] at h
    split at h
    case isTrue =>
      cases h
      simpa using (Reached.inNumber (c :: written)).continues
    case isFalse => exact (Reached.inNumber written).continues_word h
  | inName letters =>
    simp only [Token.step] at h
    split at h
    case isTrue =>
      cases h
      simpa using (Reached.inName (c :: letters)).continues
    case isFalse => exact (Reached.inName letters).continues_word h

/-- Read on to the end, the text spells the tokens. -/
lemma Reached.spelled (hreached : Reached place before) (h : scan place text = some tokens) :
    Spelled tokens (before ++ text) := by
  induction text generalizing place before tokens with
  | nil =>
    rw [List.append_nil]
    exact spelled_of_finish? hreached h
  | cons c text ih =>
    obtain ⟨⟨next, ended⟩, hstep, hbehind⟩ := Option.bind_eq_some_iff.mp h
    obtain ⟨tokens', hscan, rfl⟩ := Option.map_eq_some_iff.mp hbehind
    obtain ⟨done, more, hsplit, hdone, hmore⟩ := hreached.step hstep
    rw [List.append_cons, hsplit, List.append_assoc]
    exact hdone.append (ih hmore hscan)

/-- A text spells the tokens that it is taken apart into. -/
theorem spelled_of_ofText? (h : ofText? text = some tokens) : Spelled tokens text :=
  Reached.between.spelled h

end Postulate.Json.Token
