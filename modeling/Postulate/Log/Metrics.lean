import Postulate.Json.Basic

/-!
# Counters

What a theory has done so far, in numbers. Each counter is 64 bits wide and goes up by one when
what it counts happens.
-/

namespace Postulate.Log

/-- The counters of a theory. -/
structure Metrics where
  hypothesesRegistered : UInt64 := 0
  namesRejected : UInt64 := 0
  theoryEvaluations : UInt64 := 0
  hypothesesEvaluated : UInt64 := 0
  hypothesesPassed : UInt64 := 0
  hypothesesFailed : UInt64 := 0
  evaluationErrors : UInt64 := 0
deriving Repr, DecidableEq, Inhabited

/-- What is counted. -/
inductive Tally where
  /-- A hypothesis was added. -/
  | registered
  /-- A name was taken already. -/
  | rejected
  /-- An evaluation was started. -/
  | evaluation
  /-- A hypothesis came to a verdict. -/
  | verdict (passed : Bool)
  /-- An evaluation was ended by an error. -/
  | error
deriving Repr, DecidableEq

namespace Metrics

/-- Counts once. -/
def count (m : Metrics) : Tally → Metrics
  | .registered => { m with hypothesesRegistered := m.hypothesesRegistered + 1 }
  | .rejected => { m with namesRejected := m.namesRejected + 1 }
  | .evaluation => { m with theoryEvaluations := m.theoryEvaluations + 1 }
  | .verdict true =>
    { m with
      hypothesesEvaluated := m.hypothesesEvaluated + 1
      hypothesesPassed := m.hypothesesPassed + 1 }
  | .verdict false =>
    { m with
      hypothesesEvaluated := m.hypothesesEvaluated + 1
      hypothesesFailed := m.hypothesesFailed + 1 }
  | .error => { m with evaluationErrors := m.evaluationErrors + 1 }

/-- The order of counting does not matter. -/
theorem count_comm (m : Metrics) (a b : Tally) : (m.count a).count b = (m.count b).count a := by
  rcases a with _ | _ | _ | (_ | _) | _ <;> rcases b with _ | _ | _ | (_ | _) | _ <;>
    simp only [count]

/-- The counters as JSON. -/
def json (m : Metrics) : Json :=
  .ofMembers [
    ("hypotheses_registered", .ofNat m.hypothesesRegistered.toNat),
    ("names_rejected", .ofNat m.namesRejected.toNat),
    ("theory_evaluations", .ofNat m.theoryEvaluations.toNat),
    ("hypotheses_evaluated", .ofNat m.hypothesesEvaluated.toNat),
    ("hypotheses_passed", .ofNat m.hypothesesPassed.toNat),
    ("hypotheses_failed", .ofNat m.hypothesesFailed.toNat),
    ("evaluation_errors", .ofNat m.evaluationErrors.toNat)]

end Metrics

end Postulate.Log
