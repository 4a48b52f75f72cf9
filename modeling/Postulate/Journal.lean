import Postulate.Conversion

/-!
# The journal of calls

A theory is built from functions of the caller: providers of values, checks, mappings and
suppositions. What such a function answers may depend on what happened before, for instance on
how often it was called. The journal is the list of all calls made so far, oldest first, and a
function of the caller is a label and a pure function of the journal. Whoever makes a call writes
it into the journal; nothing is ever taken out of it.
-/

namespace Postulate

/-- A call of a function of the caller, with what it was given and what it answered. -/
inductive Call where
  /-- A provider gave a value. -/
  | read (provider : String) (value : Value)
  /-- A provider failed to give a value. -/
  | failedRead (provider : String) (error : ConversionError)
  /-- A predicate was asked about a value. -/
  | checked (predicate : String) (value : Value) (passed : Bool)
  /-- A mapping was applied to a value. -/
  | mapped (mapping : String) (before after : Value)
  /-- A supposition was asked. -/
  | supposed (supposition : String) (holds : Bool)

/-- The calls made so far, oldest first. -/
abbrev Journal := List Call

namespace Call

/-- Is it a call of the provider with this label? -/
def isRead (label : String) : Call → Bool
  | .read provider _ | .failedRead provider _ => provider == label
  | _ => false

/-- Is it a call of the check with this label, a predicate or a supposition? -/
def isCheck (label : String) : Call → Bool
  | .checked predicate _ _ => predicate == label
  | .supposed supposition _ => supposition == label
  | _ => false

end Call

namespace Journal

/-- How often the provider with this label was called. -/
def reads (journal : Journal) (label : String) : Nat := journal.countP (Call.isRead label)

/-- How often the check with this label was called. -/
def checks (journal : Journal) (label : String) : Nat := journal.countP (Call.isCheck label)

@[simp] theorem reads_append (a b : Journal) (label : String) :
    Journal.reads (a ++ b) label = a.reads label + b.reads label := List.countP_append

@[simp] theorem checks_append (a b : Journal) (label : String) :
    Journal.checks (a ++ b) label = a.checks label + b.checks label := List.countP_append

end Journal

end Postulate
