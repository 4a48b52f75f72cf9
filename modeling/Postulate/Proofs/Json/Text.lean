import Postulate.Proofs.Json.Grammar
import Postulate.Proofs.Json.Scan

/-!
# JSON texts

A text is one of a value (`Json.IsText`) when it spells tokens that form the value: the grammar of
JSON over tokens, and white space anywhere around them. Nothing in this depends on how texts are
read.

The tokens that form a value keep words apart, and so the text is taken apart into them; the reader
then follows the grammar. Conversely, the tokens that led the reader to a state are the beginning of
a value, with what is complete so far kept on its stack (`Json.Reader.Reached`), and one token more
keeps it so. The main result is `Json.ofText?_eq_some_iff`: what is read of a text is the value of
which it is a text. So a text is one of a single value.
-/

namespace Postulate.Json

/-- The text is one of the value. -/
def IsText (v : Json) (text : List Char) : Prop :=
  ∃ tokens, Forms v tokens ∧ Token.Spelled tokens text

variable {v : Json} {token : Token} {before tokens : List Token} {stack : List Open}

/-! ## Words are kept apart -/

namespace Token

/-- A mark or a string keeps apart what stands on its two sides. -/
lemma separated_append_cons {tokens' : List Token} (h : token.isWord = Bool.false) :
    Separated (tokens ++ token :: tokens') ↔ Separated tokens ∧ Separated tokens' := by
  simp [Separated, List.isChain_append, List.isChain_cons, h]

lemma separated_cons (h : token.isWord = Bool.false) :
    Separated (token :: tokens) ↔ Separated tokens := by
  simp [Separated, List.isChain_cons, h]

lemma separated_intercalate {parts : List (List Token)} (h : ∀ part ∈ parts, Separated part) :
    Separated ([.comma].intercalate parts) := by
  cases parts with
  | nil => exact .nil
  | cons part others =>
    rw [intercalate_cons]
    induction others generalizing part with
    | nil => simpa using h part (by simp)
    | cons next others ih =>
      have hothers := ih next fun p hp => h p (List.mem_cons_of_mem _ hp)
      rw [List.flatMap_cons, List.append_assoc, List.singleton_append, separated_append_cons rfl]
      exact ⟨h part (by simp), hothers⟩

end Token

lemma Forms.separated (h : Forms v tokens) : Token.Separated tokens := by
  induction h with
  | null | bool | number | string => exact .singleton _
  | array items forms ih =>
    rw [Token.separated_cons rfl, Token.separated_append_cons rfl]
    exact ⟨Token.separated_intercalate (List.forall_mem_map.mpr ih), .nil⟩
  | object members forms ih =>
    have hmember : ∀ member ∈ members,
        Token.Separated (.string member.1 :: .colon :: member.2.2) := by
      intro member hm
      rw [Token.separated_cons rfl, Token.separated_cons rfl]
      exact ih member hm
    rw [Token.separated_cons rfl, Token.separated_append_cons rfl]
    exact ⟨Token.separated_intercalate (List.forall_mem_map.mpr hmember), .nil⟩

/-! ## What has been read is the beginning of a value -/

/-- What is joined by a separator is every part but the last with the separator behind it, and then
the last. -/
lemma intercalate_concat {α : Type} (separator last : List α) (parts : List (List α)) :
    separator.intercalate (parts ++ [last]) = parts.flatMap (· ++ separator) ++ last := by
  induction parts with
  | nil => simp
  | cons part parts ih =>
    have hne : parts ++ [last] ≠ [] := by simp
    obtain ⟨next, others, hparts⟩ := List.exists_cons_of_ne_nil hne
    rw [List.cons_append, hparts, List.intercalate_cons_cons, ← hparts, ih]
    simp

namespace Reader

/-- A member of an object that has been read: the units of its name, its value and the tokens of the
value. -/
abbrev MemberRead := List StringUnit × Json × List Token

/-- The name and the value. -/
def MemberRead.named (member : MemberRead) : Option String × Json :=
  (stringText member.1, member.2.1)

/-- The tokens of the whole member. -/
def MemberRead.written (member : MemberRead) : List Token :=
  .string member.1 :: .colon :: member.2.2

/-- The tokens stand before a value that belongs into the innermost open array or object. -/
inductive Awaits : List Open → List Token → Prop
  | outermost : Awaits [] []
  | item {stack : List Open} {before : List Token} (outer : Awaits stack before)
      {items : List (Json × List Token)} (forms : ∀ item ∈ items, Forms item.1 item.2) :
      Awaits (.array (items.map Prod.fst).reverse :: stack)
        (before ++ Token.openBracket :: items.flatMap (·.2 ++ [Token.comma]))
  | member {stack : List Open} {before : List Token} (outer : Awaits stack before)
      {members : List MemberRead} (forms : ∀ member ∈ members, Forms member.2.1 member.2.2)
      (units : List StringUnit) :
      Awaits (.member (members.map MemberRead.named).reverse (stringText units) :: stack)
        (before ++ Token.openBrace :: (members.flatMap (MemberRead.written · ++ [Token.comma]) ++
          [.string units, .colon]))

/-- The tokens lead to the state. -/
inductive Reached : Reader → List Token → Prop
  | value {stack : List Open} {before : List Token} (awaits : Awaits stack before) :
      Reached (.value stack) before
  | firstItem {stack : List Open} {before : List Token} (outer : Awaits stack before) :
      Reached (.firstItem stack) (before ++ [.openBracket])
  | firstName {stack : List Open} {before : List Token} (outer : Awaits stack before) :
      Reached (.firstName [] stack) (before ++ [.openBrace])
  | nextName {stack : List Open} {before : List Token} (outer : Awaits stack before)
      {members : List MemberRead} (forms : ∀ member ∈ members, Forms member.2.1 member.2.2) :
      Reached (.nextName (members.map MemberRead.named).reverse stack)
        (before ++ Token.openBrace :: members.flatMap (MemberRead.written · ++ [Token.comma]))
  | colon {stack : List Open} {before : List Token} (outer : Awaits stack before)
      {members : List MemberRead} (forms : ∀ member ∈ members, Forms member.2.1 member.2.2)
      (units : List StringUnit) :
      Reached (.colon (members.map MemberRead.named).reverse (stringText units) stack)
        (before ++ Token.openBrace :: (members.flatMap (MemberRead.written · ++ [Token.comma]) ++
          [.string units]))
  /-- Behind an item, the items before it being told apart from it. -/
  | nextItem {stack : List Open} {before : List Token} (outer : Awaits stack before)
      {items : List (Json × List Token)} {item : Json × List Token}
      (forms : ∀ i ∈ items ++ [item], Forms i.1 i.2) :
      Reached (.next (.array ((items ++ [item]).map Prod.fst).reverse :: stack))
        (before ++ Token.openBracket :: (items.flatMap (·.2 ++ [Token.comma]) ++ item.2))
  /-- Behind a member, the members before it being told apart from it. -/
  | nextMember {stack : List Open} {before : List Token} (outer : Awaits stack before)
      {members : List MemberRead} {member : MemberRead}
      (forms : ∀ m ∈ members ++ [member], Forms m.2.1 m.2.2) :
      Reached (.next (.object ((members ++ [member]).map MemberRead.named).reverse :: stack))
        (before ++ Token.openBrace :: (members.flatMap (MemberRead.written · ++ [Token.comma]) ++
          member.written))
  | done {v : Json} {tokens : List Token} (forms : Forms v tokens) : Reached (.done v) tokens

variable {reader next : Reader}

lemma Awaits.complete (h : Awaits stack before) (forms : Forms v tokens)
    (hnext : Reader.complete v stack = some next) : Reached next (before ++ tokens) := by
  cases h with
  | outermost =>
    cases hnext
    exact .done forms
  | @item stack before outer items hitems =>
    cases hnext
    have hreached := @Reached.nextItem _ _ outer items (v, tokens)
      (List.forall_mem_append.mpr ⟨hitems, by simpa using forms⟩)
    simpa using hreached
  | @member stack before outer members hmembers units =>
    cases hnext
    have hreached := @Reached.nextMember _ _ outer members (units, v, tokens)
      (List.forall_mem_append.mpr ⟨hmembers, by simpa using forms⟩)
    simpa [MemberRead.named, MemberRead.written] using hreached

lemma Awaits.startValue (h : Awaits stack before)
    (hnext : Reader.startValue stack token = some next) : Reached next (before ++ [token]) := by
  cases token with
  | openBrace =>
    cases hnext
    exact .firstName h
  | openBracket =>
    cases hnext
    exact .firstItem h
  | string units => exact h.complete (.string units) hnext
  | number written => exact h.complete (.number written) hnext
  | true => exact h.complete (.bool true) hnext
  | false => exact h.complete (.bool false) hnext
  | null => exact h.complete .null hnext
  | closeBrace | closeBracket | colon | comma => cases hnext

/-- An array ends behind its last item. -/
lemma Awaits.complete_array (h : Awaits stack before) {items : List (Json × List Token)}
    {item : Json × List Token} (forms : ∀ i ∈ items ++ [item], Forms i.1 i.2)
    (hnext : Reader.complete (.array ((items ++ [item]).map Prod.fst)) stack = some next) :
    Reached next (before ++ Token.openBracket :: (items.flatMap (·.2 ++ [Token.comma]) ++
      (item.2 ++ [.closeBracket]))) := by
  have harray := Forms.array _ forms
  rw [List.map_append (f := Prod.snd), List.map_singleton, intercalate_concat, List.flatMap_map,
    List.append_assoc] at harray
  exact h.complete harray hnext

/-- An object ends behind its last member. -/
lemma Awaits.complete_object (h : Awaits stack before) {members : List MemberRead}
    {member : MemberRead} (forms : ∀ m ∈ members ++ [member], Forms m.2.1 m.2.2)
    (hnext : Reader.complete (.object ((members ++ [member]).map MemberRead.named)) stack =
      some next) :
    Reached next (before ++ Token.openBrace ::
      (members.flatMap (MemberRead.written · ++ [Token.comma]) ++
        (member.written ++ [.closeBrace]))) := by
  have hobject : Forms (.object ((members ++ [member]).map MemberRead.named))
      (.openBrace :: ([.comma].intercalate ((members ++ [member]).map MemberRead.written) ++
        [.closeBrace])) := .object _ forms
  rw [List.map_append (f := MemberRead.written), List.map_singleton, intercalate_concat,
    List.flatMap_map, List.append_assoc] at hobject
  exact h.complete hobject hnext

/-- One token more. -/
lemma Reached.step (h : Reached reader before) (hnext : reader.step token = some next) :
    Reached next (before ++ [token]) := by
  cases h with
  | value awaits => exact awaits.startValue hnext
  | @firstItem stack before outer =>
    -- the bracket may close at once; whatever else stands here starts an item
    by_cases hclose : token = .closeBracket
    · subst hclose
      rw [List.append_assoc]
      exact outer.complete (.array [] (by simp)) hnext
    · rw [step_firstItem hclose] at hnext
      exact (@Awaits.item _ _ outer [] (by simp)).startValue hnext
  | @firstName stack before outer =>
    cases token with
    | closeBrace =>
      rw [List.append_assoc]
      exact outer.complete (.object [] (by simp)) hnext
    | string units =>
      cases hnext
      rw [List.append_assoc]
      exact @Reached.colon _ _ outer [] (by simp) units
    | _ => cases hnext
  | @nextName stack before outer members forms =>
    cases token with
    | string units =>
      cases hnext
      rw [List.append_assoc]
      exact .colon outer forms units
    | _ => cases hnext
  | @colon stack before outer members forms units =>
    cases token with
    | colon =>
      cases hnext
      have hreached := Reached.value (Awaits.member outer forms units)
      simpa using hreached
    | _ => cases hnext
  | @nextItem stack before outer items item forms =>
    cases token with
    | comma =>
      cases hnext
      have hreached := Reached.value (Awaits.item outer forms)
      simpa using hreached
    | closeBracket =>
      rw [Reader.step, List.reverse_reverse] at hnext
      simpa using outer.complete_array forms hnext
    | _ => cases hnext
  | @nextMember stack before outer members member forms =>
    cases token with
    | comma =>
      cases hnext
      have hreached := Reached.nextName outer forms
      simpa using hreached
    | closeBrace =>
      rw [Reader.step, List.reverse_reverse] at hnext
      simpa using outer.complete_object forms hnext
    | _ => cases hnext
  | done => cases hnext

lemma Reached.run (h : Reached reader before) (hnext : reader.run tokens = some next) :
    Reached next (before ++ tokens) := by
  induction tokens generalizing reader before with
  | nil =>
    cases hnext
    rwa [List.append_nil]
  | cons token tokens ih =>
    obtain ⟨reader', hstep, hrun⟩ := Option.bind_eq_some_iff.mp hnext
    rw [List.append_cons]
    exact ih (h.step hstep) hrun

end Reader

/-- Tokens that are read as a value form it. -/
theorem forms_of_ofTokens? (h : ofTokens? tokens = some v) : Forms v tokens := by
  obtain ⟨reader, hrun, hresult⟩ := Option.bind_eq_some_iff.mp h
  have hreached := (Reader.Reached.value .outermost).run hrun
  -- only a reader that is done has a result
  cases hreached with
  | done forms =>
    cases hresult
    exact forms
  | _ => cases hresult

/-! ## Texts -/

variable {text : List Char}

/-- What is read of a text is the value of which it is a text. -/
theorem ofText?_eq_some_iff : ofText? text = some v ↔ IsText v text := by
  constructor
  · intro h
    obtain ⟨tokens, htokens, hvalue⟩ := Option.bind_eq_some_iff.mp h
    exact ⟨tokens, forms_of_ofTokens? hvalue, Token.spelled_of_ofText? htokens⟩
  · rintro ⟨tokens, hforms, hspelled⟩
    rw [ofText?, Token.ofText?_of_spelled hspelled hforms.separated, Option.bind_some,
      ofTokens?_of_forms hforms]

end Postulate.Json
