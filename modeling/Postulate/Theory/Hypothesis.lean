import Postulate.Chain.Step
import Postulate.Text.Quoted
import Postulate.Theory.Error

/-!
# Hypotheses

A hypothesis is a place in a theory, perhaps with a name, that takes one chain. The first
supposition whose builder succeeds gives it its chain, and from then on it can be evaluated.
-/

namespace Postulate

/-- A place in a theory for one chain. -/
structure Hypothesis where
  /-- The position in the theory. -/
  index : Nat
  name : Option String
  chain : Option Chain := none

/-- The name that stands for a hypothesis in messages: its own, or its position. -/
def labelOf (name : Option String) (index : Nat) : String := name.getD ("#" ++ toString index)

namespace Hypothesis

/-- The name that stands for the hypothesis in messages. -/
def label (h : Hypothesis) : String := labelOf h.name h.index

/-- Has the hypothesis a chain? -/
def isSupposed (h : Hypothesis) : Bool := h.chain.isSome

/-- Has the entry of its chain been evaluated? -/
def isEvaluated (h : Hypothesis) : Bool := h.chain.any Chain.isEvaluated

/-- Gives the hypothesis the chain of a builder. The builder is not asked when there is a chain
already, and when it fails the hypothesis stays as it was. -/
def suppose (h : Hypothesis) (builder : Builder) (journal : Journal) :
    Except TheoryError Hypothesis × Journal :=
  if h.isSupposed then (.error (.suppositionAlreadySet h.label), journal)
  else
    match builder.build journal with
    | (.ok chain, journal) => (.ok { h with chain := some chain }, journal)
    | (.error e, journal) => (.error (.clause e), journal)

/-- Evaluates the chain. -/
def evaluate (h : Hypothesis) (journal : Journal) :
    Except TheoryError Bool × Hypothesis × Journal :=
  match h.chain with
  | none => (.error (.missingSupposition h.label), h, journal)
  | some chain =>
    let e := chain.evaluate journal
    (e.verdict.mapError .clause, { h with chain := some e.chain }, e.journal)

/-- A hypothesis that has a chain keeps it, and the builder is not asked. -/
theorem suppose_of_isSupposed {h : Hypothesis} (hs : h.isSupposed = true)
    (builder : Builder) (journal : Journal) :
    h.suppose builder journal = (.error (.suppositionAlreadySet h.label), journal) := by
  simp [suppose, hs]

/-- Without a chain there is nothing to evaluate. -/
theorem evaluate_of_chain_eq_none {h : Hypothesis} (hc : h.chain = none) (journal : Journal) :
    h.evaluate journal = (.error (.missingSupposition h.label), h, journal) := by
  simp [evaluate, hc]

/-- Evaluating keeps position and name. -/
@[simp] theorem index_evaluate (h : Hypothesis) (journal : Journal) :
    (h.evaluate journal).2.1.index = h.index := by
  simp only [evaluate]
  split <;> rfl

@[simp] theorem name_evaluate (h : Hypothesis) (journal : Journal) :
    (h.evaluate journal).2.1.name = h.name := by
  simp only [evaluate]
  split <;> rfl

/-- A hypothesis with a chain has been evaluated after its evaluation, whatever came of it. -/
@[simp] theorem isEvaluated_evaluate (h : Hypothesis) (journal : Journal) :
    (h.evaluate journal).2.1.isEvaluated = h.isSupposed := by
  simp only [evaluate, isSupposed]
  split <;> simp_all [isEvaluated]

/-- The hypothesis, described for a reader. -/
def description (h : Hypothesis) : String :=
  "Hypothesis \x7b index: " ++ toString h.index ++
    ", name: " ++ describeName h.name ++
    ", supposed: " ++ toString h.isSupposed ++
    ", evaluated: " ++ toString h.isEvaluated ++ " \x7d"
where
  /-- A name or its absence, described for a reader. -/
  describeName : Option String → String
    | none => "None"
    | some name => "Some(" ++ Text.quoted name ++ ")"

end Hypothesis

end Postulate
