import Postulate.Chain.Error

/-!
# Errors of a theory

What can go wrong with a theory and its hypotheses: an error of a clause is handed on as it is.
-/

namespace Postulate

/-- Errors of theories and hypotheses. -/
inductive TheoryError where
  | clause (error : ClauseError)
  | duplicateName (name : String)
  | missingSupposition (label : String)
  | suppositionAlreadySet (label : String)
  | config (reason : String)
deriving Repr, DecidableEq, Inhabited

namespace TheoryError

/-- What went wrong, in words. -/
def message : TheoryError → String
  | clause e => e.message
  | duplicateName name => "Hypothesis '" ++ name ++ "' already exists"
  | missingSupposition label => "Hypothesis " ++ label ++ " has no supposition"
  | suppositionAlreadySet label => "Hypothesis " ++ label ++ " already has a supposition"
  | config reason => "Configuration error: " ++ reason

/-- The stable name of the kind of error. -/
def code : TheoryError → String
  | clause e => e.code
  | duplicateName _ => "THEORY_DUPLICATE_NAME"
  | missingSupposition _ => "THEORY_MISSING_SUPPOSITION"
  | suppositionAlreadySet _ => "THEORY_SUPPOSITION_ALREADY_SET"
  | config _ => "THEORY_CONFIG_ERROR"

/-- Was a clause evaluated before? -/
def isAlreadyEvaluated : TheoryError → Bool
  | clause .alreadyEvaluated => true
  | _ => false

/-- The failed conversion behind the error, if that is what it is. -/
def conversion? : TheoryError → Option ConversionError
  | clause (.conversion e) => some e
  | _ => none

end TheoryError

end Postulate
