import Postulate.Log.Ledger
import Postulate.Theory.Config
import Postulate.Theory.Report

/-!
# Theories

A theory is a list of hypotheses with one verdict: that all of them pass. Hypotheses are evaluated
in the order of registration, every one of them whatever the verdict so far; an error ends the
evaluation. Hypotheses are found by name through a table from names to positions.

A hypothesis is registered in two steps. It is entered first, with its name; only then is it given
its chain, and when that fails it is taken out again. The ledger hears of it last.
-/

namespace Postulate

open Log (Event Ledger Logger Metrics)

/-- Names and the positions they stand for, the latest first. -/
abbrev NameTable := List (String × Nat)

namespace NameTable

/-- Enters a name, if there is one. -/
def insert (table : NameTable) (name : Option String) (index : Nat) : NameTable :=
  name.elim table fun name => (name, index) :: table

/-- Strikes out a name, if there is one. -/
def erase (table : NameTable) (name : Option String) : NameTable :=
  name.elim table fun name => table.filter fun entry => entry.1 != name

end NameTable

/-- A list of hypotheses with one verdict. -/
structure Theory where
  name : Option String := none
  /-- The hypotheses in the order of registration. -/
  hypotheses : List Hypothesis := []
  /-- The positions of the hypotheses that have a name. -/
  names : NameTable := []
  ledger : Ledger := {}

namespace Theory

/-- The empty theory with a name. -/
def named (name : String) : Theory := { name := some name }

/-- The name that stands for the theory in the log. -/
def label (t : Theory) : String := t.name.getD "<anonymous>"

/-- The empty theory of a configuration. -/
def ofConfig (c : Config) : Except TheoryError Theory :=
  match c.validate with
  | .error fault => .error (.config fault.reason)
  | .ok c =>
    let t : Theory := { name := c.name, ledger := { logger := c.logger } }
    .ok { t with ledger := t.ledger.note (.configApplied t.label) }

/-- The counters. -/
def metrics (t : Theory) : Metrics := t.ledger.metrics

/-- The lines that were logged, in order. -/
def log (t : Theory) : List (Log.Stream × String) := t.ledger.lines

/-- The number of hypotheses. -/
def length (t : Theory) : Nat := t.hypotheses.length

/-- Has any hypothesis been evaluated? -/
def isEvaluated (t : Theory) : Bool := t.hypotheses.any Hypothesis.isEvaluated

/-- The position of the hypothesis with a name. -/
def position? (t : Theory) (name : String) : Option Nat := t.names.lookup name

/-- The hypothesis with a name. -/
def lookup (t : Theory) (name : String) : Option Hypothesis :=
  (t.position? name).bind fun index => t.hypotheses[index]?

/-- The hypothesis with a name, and its place, where it can be replaced. -/
def locate (t : Theory) (name : String) : Option (Nat × Hypothesis) :=
  (t.position? name).bind fun index => t.hypotheses[index]?.map fun h => (index, h)

/-! ## Registration -/

/-- A name as it is registered: the empty name is no name. -/
def properName (name : Option String) : Option String := name.filter fun name => !name.isEmpty

/-- Enters a new hypothesis, without a chain and not yet in the ledger. The name must not be
taken. -/
def insert (t : Theory) (name : Option String) : Except TheoryError Hypothesis × Theory :=
  let name := properName name
  match name.filter fun name => (t.position? name).isSome with
  | some taken =>
    (.error (.duplicateName taken),
      { t with ledger := (t.ledger.count .rejected).note (.nameRejected taken) })
  | none =>
    let h : Hypothesis := { index := t.length, name }
    (.ok h, { t with
      hypotheses := t.hypotheses ++ [h]
      names := t.names.insert name h.index })

/-- Takes the last hypothesis out again, and its name. -/
def discardLast (t : Theory) : Theory :=
  match t.hypotheses.getLast? with
  | none => t
  | some h => { t with
      hypotheses := t.hypotheses.dropLast
      names := t.names.erase h.name }

/-- Puts a hypothesis in its place. -/
def put (t : Theory) (h : Hypothesis) : Theory :=
  { t with hypotheses := t.hypotheses.set h.index h }

/-- Enters a registered hypothesis into the ledger. -/
def confirm (t : Theory) (h : Hypothesis) : Theory :=
  { t with ledger := (t.ledger.count .registered).note (.hypothesisRegistered h.label) }

/-- Adds a hypothesis without a chain. -/
def add (t : Theory) (name : Option String) : Except TheoryError Nat × Theory :=
  match t.insert name with
  | (.error e, t) => (.error e, t)
  | (.ok h, t) => (.ok h.index, t.confirm h)

/-- Adds a hypothesis with the chain of a builder. -/
def suppose (t : Theory) (name : Option String) (builder : Builder) (journal : Journal) :
    Except TheoryError Nat × Theory × Journal :=
  match t.insert name with
  | (.error e, t) => (.error e, t, journal)
  | (.ok h, t) =>
    match h.suppose builder journal with
    | (.error e, journal) => (.error e, t.discardLast, journal)
    | (.ok h, journal) => (.ok h.index, (t.put h).confirm h, journal)

/-! ## Evaluation -/

/-- What comes of one pass over a list of hypotheses: the verdict and the outcomes, or the error
that ended it, and what it leaves. -/
structure Pass where
  result : Except TheoryError (Bool × List Outcome)
  hypotheses : List Hypothesis
  ledger : Ledger
  journal : Journal

/-- Evaluates the hypotheses of the theory with the given label in order, up to the first error. -/
def pass (label : String) :
    List Hypothesis → (verdict : Bool) → Ledger → Journal → Pass
  | [], verdict, ledger, journal => ⟨.ok (verdict, []), [], ledger, journal⟩
  | h :: rest, verdict, ledger, journal =>
    match h.evaluate journal with
    | (.error e, h, journal) =>
      let aborted : Event := .evaluationAborted label h.label e.code e.message
      ⟨.error e, h :: rest, (ledger.count .error).note aborted, journal⟩
    | (.ok passed, h, journal) =>
      let ledger := (ledger.count (.verdict passed)).note (.hypothesisEvaluated h.label passed)
      let p := pass label rest (passed && verdict) ledger journal
      { p with
        result := p.result.map fun (verdict, outcomes) => (verdict, .observe h passed :: outcomes)
        hypotheses := h :: p.hypotheses }

/-- The ledger once an evaluation has begun. -/
def begun (t : Theory) : Ledger :=
  (t.ledger.count .evaluation).note (.evaluationBegun t.label t.length)

/-- Evaluates all hypotheses and reports what came of each. -/
def report (t : Theory) (journal : Journal) : Except TheoryError Report × Theory × Journal :=
  let p := pass t.label t.hypotheses true t.begun journal
  match p.result with
  | .error e => (.error e, { t with hypotheses := p.hypotheses, ledger := p.ledger }, p.journal)
  | .ok (verdict, outcomes) =>
    let complete := p.ledger.note (.evaluationComplete t.label verdict)
    (.ok ⟨t.name, verdict, outcomes⟩, { t with hypotheses := p.hypotheses, ledger := complete },
      p.journal)

/-- Evaluates all hypotheses to one verdict. -/
def evaluate (t : Theory) (journal : Journal) : Except TheoryError Bool × Theory × Journal :=
  let (result, t, journal) := t.report journal
  (result.map Report.verdict, t, journal)

/-- The theory, described for a reader. -/
def description (t : Theory) : String :=
  "Theory \x7b name: " ++ Hypothesis.description.describeName t.name ++
    ", hypotheses: [" ++ ", ".intercalate (t.hypotheses.map Hypothesis.description) ++ "] \x7d"

end Theory

end Postulate
