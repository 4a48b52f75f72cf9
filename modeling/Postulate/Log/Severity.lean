/-!
# Severities

How grave a log entry is, from tracing to errors.
-/

namespace Postulate.Log

/-- The gravity of a log entry. -/
inductive Severity where
  | trace
  | info
  | warn
  | error
deriving Repr, DecidableEq, Inhabited

namespace Severity

/-- All severities, in order. -/
def all : List Severity := [trace, info, warn, error]

/-- The position in the order, from 0. -/
def rank : Severity → Nat
  | trace => 0
  | info => 1
  | warn => 2
  | error => 3

/-- The written name. -/
def name : Severity → String
  | trace => "TRACE"
  | info => "INFO"
  | warn => "WARN"
  | error => "ERROR"

/-- The severity with a written name. -/
def ofName? (name : String) : Option Severity := all.find? fun severity => severity.name = name

instance : LE Severity := ⟨fun a b => a.rank ≤ b.rank⟩

instance (a b : Severity) : Decidable (a ≤ b) := inferInstanceAs (Decidable (a.rank ≤ b.rank))

protected theorem le_refl (a : Severity) : a ≤ a := Nat.le_refl a.rank

protected theorem le_trans {a b c : Severity} (hab : a ≤ b) (hbc : b ≤ c) : a ≤ c :=
  Nat.le_trans hab hbc

protected theorem le_total (a b : Severity) : a ≤ b ∨ b ≤ a := Nat.le_total a.rank b.rank

theorem ofName?_name (severity : Severity) : ofName? severity.name = some severity := by
  cases severity <;> decide

theorem ofName?_eq_some_iff {name : String} {severity : Severity} :
    ofName? name = some severity ↔ name = severity.name := by
  constructor
  · intro h
    have hname := List.find?_some h
    exact (of_decide_eq_true hname).symm
  · intro h
    rw [h, ofName?_name]

theorem name_inj {a b : Severity} : a.name = b.name ↔ a = b := by
  rw [← ofName?_eq_some_iff, ofName?_name, Option.some.injEq]

end Severity

end Postulate.Log
