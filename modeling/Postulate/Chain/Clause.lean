import Postulate.Chain.Error
import Postulate.Journal

/-!
# Clauses

A clause is one step of a chain: a source, from which its value is read afresh each time, perhaps
a check of that value, and the mark of having been evaluated.
-/

namespace Postulate

/-- Where the value of a clause comes from. -/
inductive Source : ValueType → Type where
  /-- Always the same value. -/
  | constant {t : ValueType} (value : t.Carrier) : Source t
  /-- A function of the caller, called for every read. -/
  | provider {t : ValueType} (label : String)
      (answer : Journal → Except ConversionError t.Carrier) : Source t
  /-- A text that is read and then converted, for every read. -/
  | converted {t : ValueType} (conversion : Conversion t) (origin : Source .text) : Source t

namespace Source

/-- Reads the value once. -/
def read {t : ValueType} : Source t → Journal → Except ConversionError t.Carrier × Journal
  | .constant value, journal => (.ok value, journal)
  | .provider label answer, journal =>
    match answer journal with
    | .ok value => (.ok value, journal ++ [.read label ⟨t, value⟩])
    | .error e => (.error e, journal ++ [.failedRead label e])
  | .converted conversion origin, journal =>
    match origin.read journal with
    | (.ok text, journal) => (conversion.convert text, journal)
    | (.error e, journal) => (.error e, journal)

/-- The calls that one read makes: one of the provider that the value comes from, if it comes from
one, and none for a constant. -/
def calls {t : ValueType} : Source t → Journal → List Call
  | .constant _, _ => []
  | .provider label answer, journal =>
    match answer journal with
    | .ok value => [.read label ⟨t, value⟩]
    | .error e => [.failedRead label e]
  | .converted _ origin, journal => origin.calls journal

/-- Reading adds its calls to the journal. -/
theorem journal_read {t : ValueType} (s : Source t) (journal : Journal) :
    (s.read journal).2 = journal ++ s.calls journal := by
  induction s with
  | constant value => simp [read, calls]
  | provider label answer =>
    simp only [read, calls]
    cases answer journal <;> rfl
  | converted conversion origin ih =>
    simp only [read, calls]
    rcases h : origin.read journal with ⟨text | e, after⟩ <;> simpa [h] using ih

end Source

/-- What a clause asks of its value. -/
inductive Check (t : ValueType) where
  /-- A question about the value. -/
  | predicate (label : String) (holds : Journal → t.Carrier → Bool)
  /-- A question that does not look at the value. -/
  | supposition (label : String) (holds : Journal → Bool)

namespace Check

variable {t : ValueType}

/-- The label of the function of the caller. -/
def label : Check t → String
  | .predicate label _ => label
  | .supposition label _ => label

/-- The answer to the question. -/
def holds : Check t → t.Carrier → Journal → Bool
  | .predicate _ holds, value, journal => holds journal value
  | .supposition _ holds, _, journal => holds journal

/-- The call that puts the question. -/
def call : Check t → t.Carrier → (passed : Bool) → Call
  | .predicate label _, value, passed => .checked label ⟨t, value⟩ passed
  | .supposition label _, _, passed => .supposed label passed

/-- Puts the question once. -/
def ask (check : Check t) (value : t.Carrier) (journal : Journal) : Bool × Journal :=
  let passed := check.holds value journal
  (passed, journal ++ [check.call value passed])

end Check

/-- A step of a chain. -/
structure Clause where
  type : ValueType
  source : Source type
  check : Option (Check type) := none
  /-- Evaluation has come to this clause. -/
  evaluated : Bool := false

namespace Clause

/-- The clause with the mark of evaluation. -/
def marked (c : Clause) : Clause := { c with evaluated := true }

/-- Does the clause carry a check? -/
def hasCheck (c : Clause) : Bool := c.check.isSome

/-- Reads the value of the clause. -/
def value (c : Clause) (journal : Journal) : Except ClauseError Value × Journal :=
  match c.source.read journal with
  | (.ok value, journal) => (.ok ⟨c.type, value⟩, journal)
  | (.error e, journal) => (.error (.conversion e), journal)

/-- Asks whether the clause passes. A clause without a check passes and is not read. -/
def test (c : Clause) (journal : Journal) : Except ConversionError Bool × Journal :=
  match c.check with
  | none => (.ok true, journal)
  | some check =>
    match c.source.read journal with
    | (.error e, journal) => (.error e, journal)
    | (.ok value, journal) =>
      let (passed, journal) := check.ask value journal
      (.ok passed, journal)

@[simp] theorem evaluated_marked (c : Clause) : c.marked.evaluated = true := rfl

@[simp] theorem hasCheck_marked (c : Clause) : c.marked.hasCheck = c.hasCheck := rfl

@[simp] theorem marked_marked (c : Clause) : c.marked.marked = c.marked := rfl

theorem test_of_check_eq_none {c : Clause} (h : c.check = none) (journal : Journal) :
    c.test journal = (.ok true, journal) := by
  simp [test, h]

end Clause

end Postulate
