import Postulate.Chain.Focus

/-!
# Steps on a chain

A step is something that a caller does with the clause in focus. `Focus.perform` takes a step. A
builder makes an entry and then carries out a plan: it takes steps, looks at their answers and at
the calls made so far, and at last yields the chain or an error.
-/

namespace Postulate

/-- Something done with the clause in focus. -/
inductive Step where
  /-- Move to the clause before. -/
  | back
  /-- Read the value. -/
  | read
  /-- Evaluate from here onward. -/
  | evaluate
  /-- Link a clause with a check. -/
  | refine {t : ValueType} (check : Check t)
  /-- Link a clause with a mapped value. -/
  | transform {t u : ValueType} (mapping : Mapping t u)
  /-- Link a clause with a converted value. -/
  | convert {t : ValueType} (conversion : Conversion t)

/-- What a step that succeeds answers. -/
inductive Answer where
  /-- Was there a clause before? -/
  | moved (there : Bool)
  | value (value : Value)
  | verdict (passed : Bool)
  /-- The type of the value of the linked clause. -/
  | linked (type : ValueType)

/-- The error of a step made for another type of value than the clause in focus has. -/
def ClauseError.wrongType : ClauseError := .internal "step expects another value type"

namespace Focus

/-- The focus and answer after an attempt to link. A failure leaves the focus where it is. -/
def settle (f : Focus) : Except ClauseError Focus → Except ClauseError Answer × Focus
  | .ok linked => (.ok (.linked linked.type), linked)
  | .error e => (.error e, f)

/-- Takes a step. -/
def perform (f : Focus) (step : Step) (journal : Journal) :
    Except ClauseError Answer × Focus × Journal :=
  match step with
  | .back =>
    match f.back? with
    | some previous => (.ok (.moved true), previous, journal)
    | none => (.ok (.moved false), f, journal)
  | .read =>
    let (value, journal) := f.value journal
    (value.map .value, f, journal)
  | .evaluate =>
    let (verdict, f, journal) := f.evaluate journal
    (verdict.map .verdict, f, journal)
  | .refine (t := t) check =>
    if fits : t = f.type then
      let (answer, f) := f.settle (f.refine (fits ▸ check))
      (answer, f, journal)
    else (.error .wrongType, f, journal)
  | .transform (t := t) (u := u) mapping =>
    if fits : t = f.type then
      let mapping : Mapping f.type u := fits ▸ mapping
      let (linked, journal) := f.transform mapping journal
      let (answer, f) := f.settle linked
      (answer, f, journal)
    else (.error .wrongType, f, journal)
  | .convert conversion =>
    if isText : f.type = .text then
      let (answer, f) := f.settle (f.convert isText conversion)
      (answer, f, journal)
    else (.error .wrongType, f, journal)

/-- Takes all steps, whether they succeed or not. -/
def run : List Step → Focus → Journal → Focus × Journal
  | [], f, journal => (f, journal)
  | step :: steps, f, journal =>
    let (_, f, journal) := f.perform step journal
    run steps f journal

end Focus

/-- What a builder does, decided as it goes along. -/
inductive Plan where
  /-- The chain is complete. -/
  | finish
  /-- There will be no chain. -/
  | fail (error : ClauseError)
  /-- Take a step and go on by its answer, be it an error. -/
  | take (step : Step) (next : Except ClauseError Answer → Plan)
  /-- Go on by the calls made so far. -/
  | consult (next : Journal → Plan)

namespace Plan

/-- Take steps one after the other; the first that fails ends the plan with its error. -/
def ofSteps : List Step → Plan
  | [] => finish
  | step :: steps => take step fun
    | .ok _ => ofSteps steps
    | .error e => fail e

/-- Carries out a plan on the chain in focus. -/
def carryOut : Plan → Focus → Journal → Except ClauseError Focus × Journal
  | finish, f, journal => (.ok f, journal)
  | fail e, _, journal => (.error e, journal)
  | take step next, f, journal =>
    let (answer, f, journal) := f.perform step journal
    (next answer).carryOut f journal
  | consult next, f, journal => (next journal).carryOut f journal

end Plan

/-- A recipe for a chain: the source of its entry and the plan that completes it. -/
structure Builder where
  type : ValueType
  source : Source type
  plan : Plan := .finish

namespace Builder

/-- The focus on the fresh entry. -/
def entry (b : Builder) : Focus := .start { entry := { type := b.type, source := b.source } }

/-- Builds the chain, unless the plan ends with an error. -/
def build (b : Builder) (journal : Journal) : Except ClauseError Chain × Journal :=
  match b.plan.carryOut b.entry journal with
  | (.ok f, journal) => (.ok f.chain, journal)
  | (.error e, journal) => (.error e, journal)

/-- The chain of a plain condition: a constant entry and one clause that asks the supposition. -/
def ofSupposition (label : String) (holds : Journal → Bool) : Builder where
  type := .bool
  source := .constant true
  plan := .ofSteps [.refine (t := .bool) (.supposition label holds)]

end Builder

end Postulate
