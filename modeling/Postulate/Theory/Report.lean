import Postulate.Json.Writing
import Postulate.Theory.Hypothesis

/-!
# Reports

The report of an evaluation says for every hypothesis whether it passed and how far its chain was
evaluated. It is observed while the evaluation runs and starts none of its own.
-/

namespace Postulate

/-- What came of one hypothesis. -/
structure Outcome where
  index : Nat
  name : Option String
  passed : Bool
  /-- The clauses of its chain that have been evaluated. -/
  clausesEvaluated : Nat
  /-- The clauses of its chain. -/
  clausesTotal : Nat
deriving Repr, DecidableEq, Inhabited

namespace Outcome

/-- The outcome of a hypothesis with a verdict. -/
def observe (h : Hypothesis) (passed : Bool) : Outcome where
  index := h.index
  name := h.name
  passed := passed
  clausesEvaluated := h.chain.elim 0 Chain.evaluatedCount
  clausesTotal := h.chain.elim 0 Chain.length

/-- The name that stands for the hypothesis in messages. -/
def label (o : Outcome) : String := labelOf o.name o.index

/-- Are there clauses that were not evaluated? -/
def isShortCircuited (o : Outcome) : Bool := decide (o.clausesEvaluated < o.clausesTotal)

/-- The outcome as JSON. -/
def json (o : Outcome) : Json :=
  .ofMembers [
    ("index", .ofNat o.index),
    ("name", .ofString? o.name),
    ("passed", .bool o.passed),
    ("clauses_evaluated", .ofNat o.clausesEvaluated),
    ("clauses_total", .ofNat o.clausesTotal)]

end Outcome

/-- What came of the evaluation of a theory. -/
structure Report where
  theory : Option String
  verdict : Bool
  outcomes : List Outcome
deriving Repr, DecidableEq, Inhabited

namespace Report

/-- The outcomes of the hypotheses that failed. -/
def failures (r : Report) : List Outcome := r.outcomes.filter fun o => !o.passed

/-- The labels of the hypotheses that failed. -/
def failedLabels (r : Report) : List String := r.failures.map Outcome.label

/-- The report as JSON. -/
def json (r : Report) : Json :=
  .ofMembers [
    ("theory", .ofString? r.theory),
    ("verdict", .bool r.verdict),
    ("outcomes", .array (r.outcomes.map Outcome.json))]

/-- The report as text. What could not be written would be told as an empty object. -/
def text (r : Report) : String := r.json.text?.getD "\x7b\x7d"

end Report

end Postulate
