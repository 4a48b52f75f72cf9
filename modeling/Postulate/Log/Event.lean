import Postulate.Log.Entry

/-!
# Events of a theory

What can happen to a theory that is worth a log entry: each kind of event has a name and a
severity, and each event has the fields that describe it.
-/

namespace Postulate.Log

/-- The kinds of events. -/
inductive EventKind where
  | configApplied
  | hypothesisRegistered
  | nameRejected
  | evaluationBegun
  | hypothesisEvaluated
  | evaluationComplete
  | evaluationAborted
deriving Repr, DecidableEq, Inhabited

namespace EventKind

/-- The name in the log. -/
def name : EventKind → String
  | configApplied => "CONFIG_APPLIED"
  | hypothesisRegistered => "HYPOTHESIS_REGISTERED"
  | nameRejected => "HYPOTHESIS_NAME_REJECTED"
  | evaluationBegun => "THEORY_EVALUATE_BEGIN"
  | hypothesisEvaluated => "HYPOTHESIS_EVALUATED"
  | evaluationComplete => "THEORY_EVALUATE_COMPLETE"
  | evaluationAborted => "THEORY_EVALUATE_ABORTED"

/-- The severity in the log. -/
def severity : EventKind → Severity
  | hypothesisEvaluated | hypothesisRegistered => .trace
  | nameRejected | evaluationAborted => .warn
  | configApplied | evaluationBegun | evaluationComplete => .info

/-- The entry of an event of this kind with the given fields. -/
def entry (kind : EventKind) (fields : FieldList) : Entry := ⟨kind.severity, kind.name, fields⟩

end EventKind

/-- Something that happened to a theory. Theories and hypotheses are told by their labels. -/
inductive Event where
  | configApplied (theory : String)
  | hypothesisRegistered (hypothesis : String)
  | nameRejected (name : String)
  | evaluationBegun (theory : String) (hypotheses : Nat)
  | hypothesisEvaluated (hypothesis : String) (passed : Bool)
  | evaluationComplete (theory : String) (verdict : Bool)
  | evaluationAborted (theory hypothesis code message : String)
deriving Repr, DecidableEq

namespace Event

/-- The kind of an event. -/
def kind : Event → EventKind
  | configApplied .. => .configApplied
  | hypothesisRegistered .. => .hypothesisRegistered
  | nameRejected .. => .nameRejected
  | evaluationBegun .. => .evaluationBegun
  | hypothesisEvaluated .. => .hypothesisEvaluated
  | evaluationComplete .. => .evaluationComplete
  | evaluationAborted .. => .evaluationAborted

/-- The fields that describe an event. -/
def fields : Event → FieldList
  | configApplied theory => [("theory", theory)]
  | hypothesisRegistered hypothesis => [("hypothesis", hypothesis)]
  | nameRejected name => [("hypothesis", name)]
  | evaluationBegun theory count => [("theory", theory), ("hypotheses", toString count)]
  | hypothesisEvaluated hypothesis passed =>
    [("hypothesis", hypothesis), ("passed", toString passed)]
  | evaluationComplete theory verdict => [("theory", theory), ("verdict", toString verdict)]
  | evaluationAborted theory hypothesis code message =>
    [("theory", theory), ("hypothesis", hypothesis), ("code", code), ("error", message)]

/-- The log entry of an event. -/
def entry (e : Event) : Entry := e.kind.entry e.fields

end Event

end Postulate.Log
