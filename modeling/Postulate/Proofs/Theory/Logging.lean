import Postulate.Proofs.Theory.Blind

/-!
# The log is only looked at from outside

Whether a theory logs, and from which severity on, makes no difference to anything but its log. A
session is everything that is done with a theory from its configuration on. Compare it with the
session under the same configuration that logs everything: the answers, the theory, its counters and
the calls are the same at every moment, and what is logged is an excerpt, the entries that the
logger admits (`Log.Ledger.ExcerptOf`). Since every ledger is an excerpt of the same full one, any
two sessions whose configurations differ in logging only agree in all but the log. This is
`session_logging`.
-/

namespace Postulate

open Log (Entry Event Ledger Logger Severity)

namespace Log

@[simp] lemma Logger.admitted_atLeast_trace (entries : List Entry) :
    (Logger.atLeast .trace).admitted entries = entries := by
  refine List.filter_eq_self.mpr fun e _ => ?_
  rw [Logger.admits_atLeast]
  exact Nat.zero_le _

/-- The first ledger counts the same as the second, which logs everything, and of the entries there
it has those that its own logger admits. -/
structure Ledger.ExcerptOf (logger : Logger) (l full : Ledger) : Prop where
  logger_eq : l.logger = logger
  full_eq : full.logger = .atLeast .trace
  metrics_eq : l.metrics = full.metrics
  written_eq : l.written = logger.admitted full.written

lemma Ledger.lasting_excerptOf (logger : Logger) : Ledger.Lasting (Ledger.ExcerptOf logger) := by
  constructor
  · rintro l full tally ⟨hlogger, hfull, hmetrics, hwritten⟩
    exact ⟨hlogger, hfull, by rw [metrics_count, metrics_count, hmetrics], hwritten⟩
  · rintro l full event ⟨hlogger, hfull, hmetrics, hwritten⟩
    refine ⟨hlogger, hfull, hmetrics, ?_⟩
    rw [written_note, written_note, hwritten, hlogger, hfull, Logger.admitted_atLeast_trace,
      Logger.admitted_append]

end Log

/-! ## Sessions -/

/-- What is left in the end: the answers to all commands, the theory, and the journal. -/
structure Session where
  results : List (Except TheoryError Reply)
  theory : Theory
  journal : Journal

namespace Session

/-- The entries that were logged. -/
def entries (s : Session) : List Entry := s.theory.ledger.written

/-- The lines that were logged. -/
def log (s : Session) : List (Log.Stream × String) := s.theory.log

/-- The session with everything but the logger and its log. -/
def withoutLog (s : Session) : Session :=
  { s with theory := { s.theory with ledger := { metrics := s.theory.metrics } } }

end Session

namespace Config

/-- The session of the empty theory of the configuration, under a list of commands. -/
def session (c : Config) (commands : List Command) (journal : Journal) :
    Except TheoryError Session :=
  (Theory.ofConfig c).map fun t =>
    let (results, t, journal) := Theory.run commands t journal
    ⟨results, t, journal⟩

/-- The same configuration with other settings of the log. -/
def withLogging (c : Config) (enabled : Bool) (severity : Severity) : Config :=
  { c with loggingEnabled := enabled, logSeverity := severity }

/-- The same configuration, logging everything. -/
def verbose (c : Config) : Config := c.withLogging true .trace

variable (c : Config) (enabled : Bool) (severity : Severity)

@[simp] lemma verbose_withLogging : (c.withLogging enabled severity).verbose = c.verbose := rfl

/-- The theory that a configuration starts with, when it can be used. -/
def start : Theory :=
  { name := c.name
    ledger := Ledger.note { logger := c.logger } (.configApplied (c.name.getD "<anonymous>")) }

lemma ofConfig_eq : Theory.ofConfig c =
    if c.name.any fun name => Text.isBlank name.toList then
      .error (.config ConfigFault.blankName.reason)
    else .ok c.start := by
  by_cases blank : (c.name.any fun name => Text.isBlank name.toList) = true
  · simp only [Theory.ofConfig, validate, if_pos blank]
  · simp only [Theory.ofConfig, validate, if_neg blank]
    rfl

/-- At first, the log is what the logger admits of the entry that the configuration makes. -/
lemma alike_start : c.start.Alike (Ledger.ExcerptOf c.logger) c.verbose.start :=
  ⟨rfl, rfl, rfl, rfl, rfl, rfl, by simp [start, verbose, withLogging, logger]⟩

/-- A session goes as the session does that logs everything, and its log is an excerpt. -/
lemma session_alike_verbose (commands : List Command) (journal : Journal) :
    (∃ e, c.session commands journal = .error e ∧ c.verbose.session commands journal = .error e) ∨
      ∃ results t u journal', c.session commands journal = .ok ⟨results, t, journal'⟩ ∧
        c.verbose.session commands journal = .ok ⟨results, u, journal'⟩ ∧
          t.Alike (Ledger.ExcerptOf c.logger) u := by
  by_cases blank : (c.name.any fun name => Text.isBlank name.toList) = true
  · -- a configuration that cannot be used is refused whatever it says of the log
    refine Or.inl ⟨.config ConfigFault.blankName.reason, ?_, ?_⟩
    · rw [session, ofConfig_eq, if_pos blank]
      rfl
    · rw [session, ofConfig_eq, if_pos (by exact blank)]
      rfl
  · obtain ⟨results, t, u, calls, ht, hu, alike, -⟩ :=
      Theory.run_alike Journal.lasting_eq (Ledger.lasting_excerptOf c.logger) c.alike_start
        c.start.blindTo_eq (fun command (_ : command ∈ commands) => command.blindTo_eq)
        (Eq.refl journal)
    refine Or.inr ⟨results, t, u, journal ++ calls, ?_, ?_, alike⟩
    · rw [session, ofConfig_eq, if_neg blank]
      simp only [Except.map, ht]
    · rw [session, ofConfig_eq, if_neg (by exact blank)]
      simp only [Except.map, hu]

/-- In all but the log, a session is like the one that logs everything. -/
lemma withoutLog_session (commands : List Command) (journal : Journal) :
    (c.session commands journal).map Session.withoutLog =
      (c.verbose.session commands journal).map Session.withoutLog := by
  rcases c.session_alike_verbose commands journal with ⟨e, hc, hverbose⟩ |
    ⟨results, t, u, journal', hc, hverbose, ⟨hname, hhyps, hnames, hledger⟩⟩
  · rw [hc, hverbose]
  · rw [hc, hverbose]
    simp only [Except.map, Session.withoutLog, Theory.metrics, hname, hhyps, hnames,
      hledger.metrics_eq]

lemma log_session (commands : List Command) (journal : Journal) :
    (c.session commands journal).map Session.log =
      (c.verbose.session commands journal).map fun s =>
        (c.logger.admitted s.entries).map Logger.line := by
  rcases c.session_alike_verbose commands journal with ⟨e, hc, hverbose⟩ |
    ⟨results, t, u, journal', hc, hverbose, alike⟩
  · rw [hc, hverbose]
    rfl
  · rw [hc, hverbose]
    simp only [Except.map, Session.log, Session.entries, Theory.log, Ledger.lines,
      alike.ledger.written_eq]

/-- What a configured logger admits. -/
lemma admitted_logger (entries : List Entry) :
    c.logger.admitted entries =
      if c.loggingEnabled then entries.filter fun e => decide (c.logSeverity ≤ e.severity)
      else [] := by
  simp only [logger]
  split
  · rfl
  · exact List.filter_eq_nil_iff.mpr fun e _ => by simp

end Config

/-- The settings of the log change nothing but the log: answers, theory, counters and calls are the
same under all of them. What is logged from a severity on are the lines of the full log that have at
least that severity, in the same order, and nothing is logged when logging is off. -/
theorem session_logging (c : Config) (commands : List Command) (journal : Journal) :
    (∀ (enabled : Bool) (severity : Severity),
      ((c.withLogging enabled severity).session commands journal).map Session.withoutLog =
        (c.session commands journal).map Session.withoutLog) ∧
    (c.verbose.session commands journal).map Session.log =
      (c.verbose.session commands journal).map (fun s => s.entries.map Logger.line) ∧
    (c.session commands journal).map Session.log =
      (c.verbose.session commands journal).map fun s =>
        if c.loggingEnabled then
          (s.entries.filter fun e => decide (c.logSeverity ≤ e.severity)).map Logger.line
        else [] := by
  refine ⟨fun enabled severity => ?_, rfl, ?_⟩
  · rw [Config.withoutLog_session, Config.verbose_withLogging, ← Config.withoutLog_session]
  · rw [Config.log_session]
    congr 1
    funext s
    rw [Config.admitted_logger]
    split <;> rfl

end Postulate
