import Postulate.Conversion

/-!
# Errors of a clause

Two errors come from breaking the rules of use, one from a value that cannot be read; the last
one is kept for steps that do not fit their clause.
-/

namespace Postulate

/-- Errors of a clause. -/
inductive ClauseError where
  /-- A clause is evaluated at most once. -/
  | alreadyEvaluated
  /-- A clause is followed by at most one clause. -/
  | linkAlreadySet
  /-- The value could not be read. -/
  | conversion (error : ConversionError)
  /-- A step does not fit the clause it is taken from. -/
  | internal (reason : String)
deriving Repr, DecidableEq, Inhabited

namespace ClauseError

/-- What went wrong, in words. -/
def message : ClauseError → String
  | alreadyEvaluated => "Clause was already evaluated"
  | linkAlreadySet => "Clause already links to a next clause"
  | conversion e => e.message
  | internal reason => "Internal clause error: " ++ reason

/-- The stable name of the kind of error. -/
def code : ClauseError → String
  | alreadyEvaluated => "THEORY_CLAUSE_ALREADY_EVALUATED"
  | linkAlreadySet => "THEORY_CLAUSE_LINK_ALREADY_SET"
  | conversion e => e.code
  | internal _ => "THEORY_CLAUSE_INTERNAL"

/-- Is it the caller who broke a rule of use? -/
def isContractViolation : ClauseError → Bool
  | alreadyEvaluated | linkAlreadySet => true
  | conversion _ | internal _ => false

end ClauseError

end Postulate
