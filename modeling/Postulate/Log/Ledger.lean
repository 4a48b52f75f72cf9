import Postulate.Log.Event
import Postulate.Log.Logger
import Postulate.Log.Metrics

/-!
# Ledgers

The books that a theory keeps: its counters, and the entries that its logger has written. Counting
and logging are separate, and neither looks at what the other has done.
-/

namespace Postulate.Log

/-- Counters and log. -/
structure Ledger where
  logger : Logger := .disabled
  metrics : Metrics := {}
  /-- The entries that were written, in order. -/
  written : List Entry := []

namespace Ledger

/-- Counts something once. -/
def count (l : Ledger) (tally : Tally) : Ledger := { l with metrics := l.metrics.count tally }

/-- Hands an event to the logger, which writes it or not. -/
def note (l : Ledger) (event : Event) : Ledger :=
  { l with written := l.written ++ l.logger.admitted [event.entry] }

/-- The lines that were written, in order. -/
def lines (l : Ledger) : List (Stream × String) := l.written.map Logger.line

@[simp] theorem logger_count (l : Ledger) (tally : Tally) : (l.count tally).logger = l.logger := rfl

@[simp] theorem metrics_count (l : Ledger) (tally : Tally) :
    (l.count tally).metrics = l.metrics.count tally := rfl

@[simp] theorem written_count (l : Ledger) (tally : Tally) :
    (l.count tally).written = l.written := rfl

@[simp] theorem logger_note (l : Ledger) (event : Event) : (l.note event).logger = l.logger := rfl

@[simp] theorem metrics_note (l : Ledger) (event : Event) :
    (l.note event).metrics = l.metrics := rfl

@[simp] theorem written_note (l : Ledger) (event : Event) :
    (l.note event).written = l.written ++ l.logger.admitted [event.entry] := rfl

@[simp] theorem lines_count (l : Ledger) (tally : Tally) : (l.count tally).lines = l.lines := rfl

@[simp] theorem lines_note (l : Ledger) (event : Event) :
    (l.note event).lines = l.lines ++ l.logger.lines [event.entry] := by
  simp [lines, Logger.lines]

end Ledger

end Postulate.Log
