import Postulate.Log.Entry

/-!
# Loggers

A logger writes the entries from some severity on, or none at all. Errors go to the error stream
and all other entries to the output stream.
-/

namespace Postulate.Log

/-- Decides which entries are written: those of at least a severity, or none. -/
structure Logger where
  /-- The least severity that is written; nothing is written without one. -/
  threshold : Option Severity := none
deriving Repr, DecidableEq, Inhabited

/-- Where a line is written to. -/
inductive Stream where
  | output
  | error
deriving Repr, DecidableEq

namespace Logger

/-- The logger that writes nothing. -/
def disabled : Logger := ⟨none⟩

/-- The logger that writes from a severity on. -/
def atLeast (severity : Severity) : Logger := ⟨some severity⟩

/-- Are entries of this severity written? -/
def admits (l : Logger) (severity : Severity) : Bool :=
  l.threshold.any fun least => decide (least ≤ severity)

/-- The stream of a severity. -/
def stream (severity : Severity) : Stream :=
  if Severity.error ≤ severity then .error else .output

/-- The line of an entry, and where it goes. -/
def line (e : Entry) : Stream × String := (stream e.severity, e.render)

/-- The entries that are written. -/
def admitted (l : Logger) (entries : List Entry) : List Entry :=
  entries.filter fun e => l.admits e.severity

/-- The lines written for a list of entries. -/
def lines (l : Logger) (entries : List Entry) : List (Stream × String) :=
  (l.admitted entries).map line

@[simp] theorem admits_disabled (severity : Severity) : disabled.admits severity = false := rfl

@[simp] theorem admits_atLeast {least severity : Severity} :
    (atLeast least).admits severity = true ↔ least ≤ severity := by
  simp [admits, atLeast]

@[simp] theorem admitted_append (l : Logger) (a b : List Entry) :
    l.admitted (a ++ b) = l.admitted a ++ l.admitted b := List.filter_append ..

@[simp] theorem lines_append (l : Logger) (a b : List Entry) :
    l.lines (a ++ b) = l.lines a ++ l.lines b := by
  simp [lines]

end Logger

end Postulate.Log
