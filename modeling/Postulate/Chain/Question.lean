import Postulate.Chain.Clause
import Postulate.TextCheck

/-!
# Questions

Ready-made checks of a value: fixed answers, answers that are given in turn, comparisons with a
fixed value, and checks of texts. Sources and suppositions that answer in turn stand beside them.
-/

namespace Postulate

/-- Comparisons of a value with a fixed one. -/
inductive Comparison where
  | eq
  | ne
  | lt
  | le
  | gt
  | ge
deriving Repr, DecidableEq

/-- Does the value stand in the relation to the fixed one? A not-a-number stands in no relation
but `ne`. -/
def Comparison.holds (t : ValueType) (c : Comparison) (fixed value : t.Carrier) : Bool :=
  match c with
  | eq => t.equal value fixed
  | ne => !t.equal value fixed
  | lt => t.less value fixed
  | le => t.less value fixed || t.equal value fixed
  | gt => t.less fixed value
  | ge => t.less fixed value || t.equal fixed value

/-- The item of a list whose turn it is, the list starting over at its end. -/
def inTurn {α : Type} (items : List α) (count : Nat) : Option α := items[count % items.length]?

/-- Does one text occur within another? -/
def containsText (text part : List Char) : Bool :=
  part.isPrefixOf text ||
    match text with
    | [] => false
    | _ :: rest => containsText rest part

/-- Questions about a value. -/
inductive Question : ValueType → Type where
  | always {t : ValueType} (answer : Bool) : Question t
  /-- The answers of a list in turn, counted by the calls of the check itself. -/
  | answers {t : ValueType} (items : List Bool) : Question t
  | compare {t : ValueType} (comparison : Comparison) (fixed : t.Carrier) : Question t
  | contains (part : String) : Question .text
  | isEmpty : Question .text
  | passes (check : TextCheck) : Question .text

/-- The answer to a question put by the check with the given label. -/
def Question.answer (label : String) :
    {t : ValueType} → Question t → Journal → t.Carrier → Bool
  | _, .always answer, _, _ => answer
  | _, .answers items, journal, _ => (inTurn items (journal.checks label)).getD false
  | t, .compare comparison fixed, _, value => comparison.holds t fixed value
  | _, .contains part, _, value => containsText value.toList part.toList
  | _, .isEmpty, _, value => value.isEmpty
  | _, .passes check, _, value => check.passes value

/-- The check that puts a question. -/
def Question.check {t : ValueType} (question : Question t) (label : String) : Check t :=
  .predicate label (question.answer label)

/-- The source that gives the items of a list in turn, counted by its own reads. -/
def Source.inTurn {t : ValueType} (label : String)
    (items : List (Except ConversionError t.Carrier)) : Source t :=
  .provider label fun journal =>
    (Postulate.inTurn items (journal.reads label)).getD (.error ⟨"", ""⟩)

/-- The supposition that gives the answers of a list in turn, counted by its own calls. -/
def suppositionInTurn (label : String) (items : List Bool) : Journal → Bool := fun journal =>
  (inTurn items (journal.checks label)).getD false

end Postulate
