import Postulate.Chain.Clause

/-!
# Evaluation of a chain

A chain is a clause and the clauses linked after it. It is evaluated from the front: every clause
is marked, and the first that fails, or whose value cannot be read, ends the evaluation. A clause
that carries the mark already ends it with an error, and keeps what lies behind it untouched.
-/

namespace Postulate

/-- A clause and the clauses linked after it, in the order of linking. -/
structure Chain where
  entry : Clause
  later : List Clause := []

/-- What comes of evaluating a chain: the verdict, the chain with its new marks, and the journal
with the calls that were made. -/
structure Evaluation where
  verdict : Except ClauseError Bool
  chain : Chain
  journal : Journal

namespace Chain

/-- All clauses, the entry first. -/
def clauses (c : Chain) : List Clause := c.entry :: c.later

/-- The number of clauses. -/
def length (c : Chain) : Nat := c.clauses.length

/-- The marks of the clauses. -/
def marks (c : Chain) : List Bool := c.clauses.map Clause.evaluated

/-- For every clause whether it carries a check. -/
def checkFlags (c : Chain) : List Bool := c.clauses.map Clause.hasCheck

/-- The number of marked clauses. -/
def evaluatedCount (c : Chain) : Nat := c.clauses.countP Clause.evaluated

/-- Is the entry marked? -/
def isEvaluated (c : Chain) : Bool := c.entry.evaluated

/-- Evaluates an entry and the clauses after it. -/
def evaluateFrom (entry : Clause) (later : List Clause) (journal : Journal) : Evaluation :=
  if entry.evaluated then ⟨.error .alreadyEvaluated, ⟨entry, later⟩, journal⟩
  else
    match entry.test journal with
    | (.error e, journal) => ⟨.error (.conversion e), ⟨entry.marked, later⟩, journal⟩
    | (.ok false, journal) => ⟨.ok false, ⟨entry.marked, later⟩, journal⟩
    | (.ok true, journal) =>
      match later with
      | [] => ⟨.ok true, ⟨entry.marked, []⟩, journal⟩
      | next :: others =>
        let rest := evaluateFrom next others journal
        ⟨rest.verdict, ⟨entry.marked, rest.chain.clauses⟩, rest.journal⟩

/-- Evaluates a chain. -/
def evaluate (c : Chain) (journal : Journal) : Evaluation := evaluateFrom c.entry c.later journal

@[simp] theorem clauses_mk (entry : Clause) (later : List Clause) :
    (Chain.mk entry later).clauses = entry :: later := rfl

@[simp] theorem marks_mk (entry : Clause) (later : List Clause) :
    (Chain.mk entry later).marks = entry.evaluated :: later.map Clause.evaluated := rfl

/-- Evaluation changes nothing but marks. -/
theorem map_marked_evaluateFrom (entry : Clause) (later : List Clause) (journal : Journal) :
    (evaluateFrom entry later journal).chain.clauses.map Clause.marked =
      (entry :: later).map Clause.marked := by
  induction later generalizing entry journal with
  | nil =>
    unfold evaluateFrom
    split
    · rfl
    · split <;> rfl
  | cons next others ih =>
    unfold evaluateFrom
    split
    · rfl
    · split
      · rfl
      · rfl
      · next between _ => simpa using ih next between

/-- A chain keeps its clauses when it is evaluated, their marks apart. -/
theorem map_marked_evaluate (c : Chain) (journal : Journal) :
    (c.evaluate journal).chain.clauses.map Clause.marked = c.clauses.map Clause.marked :=
  map_marked_evaluateFrom c.entry c.later journal

@[simp] theorem length_evaluate (c : Chain) (journal : Journal) :
    (c.evaluate journal).chain.length = c.length := by
  simpa [length] using congrArg List.length (c.map_marked_evaluate journal)

/-- After an evaluation, whatever its verdict, the entry is marked. -/
@[simp] theorem isEvaluated_evaluate (c : Chain) (journal : Journal) :
    (c.evaluate journal).chain.isEvaluated = true := by
  obtain ⟨entry, later⟩ := c
  unfold evaluate isEvaluated
  cases later with
  | nil =>
    unfold evaluateFrom
    split
    · assumption
    · split <;> rfl
  | cons next others =>
    unfold evaluateFrom
    split
    · assumption
    · split <;> rfl

/-- A marked entry ends the evaluation before anything happens. -/
theorem evaluate_of_isEvaluated {c : Chain} (h : c.isEvaluated = true) (journal : Journal) :
    c.evaluate journal = ⟨.error .alreadyEvaluated, c, journal⟩ := by
  obtain ⟨entry, later⟩ := c
  have h : entry.evaluated = true := h
  unfold evaluate evaluateFrom
  simp [h]

/-- The entry of a chain, described for a reader. -/
def description (c : Chain) : String :=
  "ClauseNode \x7b has_predicate: " ++ toString c.entry.hasCheck ++
    ", has_next: " ++ toString (!c.later.isEmpty) ++
    ", evaluated: " ++ toString c.entry.evaluated ++ " \x7d"

end Chain

end Postulate
