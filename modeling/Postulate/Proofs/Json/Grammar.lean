import Mathlib.Tactic.Lemma
import Postulate.Json.Tree

/-!
# How tokens form a value

The grammar of JSON in rules, without the stack of the reader (`Json.Forms`): a name, a number or a
string is a value; an array is its items with commas between them, in brackets; an object is its
members with commas between them, in braces, and a member is a string, a colon and a value.

The reader follows the grammar. When it waits for a value, the tokens of one take it where a
complete value takes it, whatever stands behind them (`Json.Forms.run`). So tokens that form a value
are read as that value: `Json.ofTokens?_of_forms`.
-/

namespace Postulate.Json

/-- The tokens form the value. -/
inductive Forms : Json → List Token → Prop
  | null : Forms .null [.null]
  | bool (value : Bool) : Forms (.bool value) [if value then .true else .false]
  | number (written : List Char) : Forms (.number written) [.number written]
  | string (units : List StringUnit) : Forms (.string (Reader.stringText units)) [.string units]
  /-- The items, each with its tokens. -/
  | array (items : List (Json × List Token)) (forms : ∀ item ∈ items, Forms item.1 item.2) :
      Forms (.array (items.map Prod.fst)) <|
        .openBracket :: ([.comma].intercalate (items.map Prod.snd) ++ [.closeBracket])
  /-- The members, each with the units of its name and the tokens of its value. -/
  | object (members : List (List StringUnit × Json × List Token))
      (forms : ∀ member ∈ members, Forms member.2.1 member.2.2) :
      Forms (.object (members.map fun member => (Reader.stringText member.1, member.2.1))) <|
        .openBrace :: ([.comma].intercalate
          (members.map fun member => .string member.1 :: .colon :: member.2.2) ++ [.closeBrace])

/-- What is joined by a separator is the first part, and then every other with the separator before
it. -/
lemma intercalate_cons {α : Type} (separator part : List α) (others : List (List α)) :
    separator.intercalate (part :: others) = part ++ others.flatMap (separator ++ ·) := by
  induction others generalizing part with
  | nil => simp
  | cons next others ih => simp [List.intercalate_cons_cons, ih]

namespace Reader

variable {v : Json} {tokens more : List Token} {stack : List Open}

/-- From where a value is wanted, the tokens take the reader where the complete value takes it. -/
def Takes (tokens : List Token) (v : Json) : Prop :=
  ∀ stack more, (value stack).run (tokens ++ more) = (complete v stack).bind (run · more)

lemma run_cons {reader next : Reader} {token : Token} (h : reader.step token = some next)
    (more : List Token) : reader.run (token :: more) = next.run more := by
  rw [run, h, Option.bind_some]

/-! ## Arrays -/

lemma step_firstItem {token : Token} (h : token ≠ .closeBracket) (stack : List Open) :
    (firstItem stack).step token = (value (.array [] :: stack)).step token := by
  cases token with
  | closeBracket => exact absurd rfl h
  | _ => rfl

/-- The first item is read like any other. -/
lemma run_firstItem (h : tokens.head?.any (· ≠ .closeBracket) = true) (stack : List Open) :
    (firstItem stack).run (tokens ++ more) = (value (.array [] :: stack)).run (tokens ++ more) := by
  cases tokens with
  | nil => simp at h
  | cons token tokens =>
    have hne : token ≠ .closeBracket := by simpa using h
    rw [List.cons_append, run, step_firstItem hne, run]

/-- Behind an item, the further items are put to those there are. -/
lemma run_items {items : List (Json × List Token)} (takes : ∀ item ∈ items, Takes item.2 item.1)
    (before : List Json) (stack : List Open) (more : List Token) :
    (next (.array before :: stack)).run
        (items.flatMap (fun item => .comma :: item.2) ++ .closeBracket :: more) =
      (complete (.array (before.reverse ++ items.map Prod.fst)) stack).bind (run · more) := by
  induction items generalizing before with
  | nil =>
    rw [List.flatMap_nil, List.nil_append, List.map_nil, List.append_nil]
    rfl
  | cons item items ih =>
    have hitems := ih (fun i hi => takes i (List.mem_cons_of_mem _ hi)) (item.1 :: before)
    rw [List.flatMap_cons, List.cons_append, List.cons_append, List.append_assoc, run_cons rfl,
      takes item (by simp)]
    change (next (.array (item.1 :: before) :: stack)).run _ = _
    rw [hitems, List.reverse_cons, List.append_assoc, List.singleton_append, List.map_cons]

/-! ## Objects -/

/-- The tokens of a member take the reader from its name to what is next. -/
lemma run_member (takes : Takes tokens v) {reader : Reader} {members : List (Option String × Json)}
    {units : List StringUnit}
    (name : reader.step (.string units) = some (.colon members (stringText units) stack)) :
    reader.run (.string units :: .colon :: tokens ++ more) =
      (next (.object ((stringText units, v) :: members) :: stack)).run more := by
  rw [List.cons_append, List.cons_append, run_cons name, run_cons rfl, takes]
  rfl

/-- Behind a member, the further members are put to those there are. -/
lemma run_members {members : List (List StringUnit × Json × List Token)}
    (takes : ∀ member ∈ members, Takes member.2.2 member.2.1)
    (before : List (Option String × Json)) (stack : List Open) (more : List Token) :
    (next (.object before :: stack)).run
        (members.flatMap (fun member => .comma :: .string member.1 :: .colon :: member.2.2) ++
          .closeBrace :: more) =
      (complete (.object (before.reverse ++
        members.map fun member => (stringText member.1, member.2.1))) stack).bind (run · more) := by
  induction members generalizing before with
  | nil =>
    rw [List.flatMap_nil, List.nil_append, List.map_nil, List.append_nil]
    rfl
  | cons member members ih =>
    have hmembers := ih (fun m hm => takes m (List.mem_cons_of_mem _ hm))
      ((stringText member.1, member.2.1) :: before)
    rw [List.flatMap_cons, List.cons_append, List.cons_append, List.append_assoc, run_cons rfl,
      run_member (takes member (by simp)) rfl, hmembers, List.reverse_cons, List.append_assoc,
      List.singleton_append, List.map_cons]

end Reader

open Reader (Takes)

namespace Forms

variable {v : Json} {tokens : List Token}

/-- A value has a first token, which closes nothing. -/
lemma head_ne (h : Forms v tokens) : tokens.head?.any (· ≠ .closeBracket) = true := by
  cases h with
  | bool value => cases value <;> rfl
  | _ => rfl

/-- The tokens of a value take the reader where the complete value takes it. -/
lemma run (h : Forms v tokens) : Takes tokens v := by
  induction h with
  | null | number | string => exact fun stack more => rfl
  | bool value => cases value <;> exact fun stack more => rfl
  | array items forms ih =>
    intro stack more
    rw [List.cons_append, Reader.run_cons rfl, List.append_assoc, List.singleton_append]
    cases items with
    | nil => rfl
    | cons item items =>
      rw [List.map_cons, intercalate_cons, List.append_assoc,
        Reader.run_firstItem (forms item (by simp)).head_ne, ih item (by simp), List.flatMap_map]
      change (Reader.next (.array [item.1] :: stack)).run _ = _
      exact Reader.run_items (fun i hi => ih i (List.mem_cons_of_mem _ hi)) [item.1] stack more
  | object members forms ih =>
    intro stack more
    rw [List.cons_append, Reader.run_cons rfl, List.append_assoc, List.singleton_append]
    cases members with
    | nil => rfl
    | cons member members =>
      rw [List.map_cons, intercalate_cons, List.append_assoc,
        Reader.run_member (ih member (by simp)) rfl, List.flatMap_map]
      exact Reader.run_members (fun m hm => ih m (List.mem_cons_of_mem _ hm)) _ stack more

end Forms

/-- Tokens that form a value are read as that value. -/
theorem ofTokens?_of_forms {v : Json} {tokens : List Token} (h : Forms v tokens) :
    ofTokens? tokens = some v := by
  have hrun := h.run [] []
  rw [List.append_nil] at hrun
  rw [ofTokens?, hrun]
  rfl

end Postulate.Json
