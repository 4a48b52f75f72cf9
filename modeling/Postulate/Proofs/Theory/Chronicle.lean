import Postulate.Proofs.Theory.Counters
import Postulate.Proofs.Theory.Logging

/-!
# The log and the counters tell the same story

Counters and log are kept side by side, and neither looks at the other. Yet one can be read off the
other, because whatever is counted is an event that is handed to the logger too, and the other way
round but for two kinds of events that no counter knows. This file says what each turn of a run
hands to the logger (`Turn.Tells`): a registration or the refusal of a name, or for an evaluation
one block, which begins with the number of hypotheses, goes on with the verdicts in the order of
registration, and is closed by the verdict of the theory or by the error that ended it. The tallies
of a turn are those of its events. When everything is logged, the log is therefore the story of the
turns, told one after the other, and there are as many entries of a kind as its counter says:
`Theory.log_tells_what_is_counted`.
-/

namespace Postulate

open Log (Counter Entry Event EventKind Ledger Logger Severity Tally)

/-! ## Events and what they count as -/

namespace Log

/-- The counter that goes up with every event of the kind, if there is one. -/
def EventKind.counter? : EventKind → Option Counter
  | hypothesisRegistered => some .registered
  | nameRejected => some .rejected
  | evaluationBegun => some .evaluations
  | hypothesisEvaluated => some .evaluated
  | evaluationAborted => some .errors
  | configApplied | evaluationComplete => none

/-- What an event is counted as. -/
def Event.tallies : Event → List Tally
  | configApplied .. | evaluationComplete .. => []
  | hypothesisRegistered .. => [.registered]
  | nameRejected .. => [.rejected]
  | evaluationBegun .. => [.evaluation]
  | hypothesisEvaluated _ passed => [.verdict passed]
  | evaluationAborted .. => [.error]

lemma EventKind.name_inj {kind other : EventKind} : kind.name = other.name ↔ kind = other := by
  cases kind <;> cases other <;> decide

lemma Event.countP_tallies {kind : EventKind} {k : Counter} (h : kind.counter? = some k)
    (event : Event) : event.tallies.countP k.counts = if event.kind = kind then 1 else 0 := by
  cases kind with
  | configApplied | evaluationComplete => simp [EventKind.counter?] at h
  | hypothesisRegistered | nameRejected | evaluationBegun | hypothesisEvaluated
  | evaluationAborted =>
    obtain rfl := Option.some.inj h
    cases event <;> rfl

/-- How many of the events are of the kind. -/
def EventKind.count (kind : EventKind) (events : List Event) : Nat :=
  events.countP fun event => event.kind = kind

namespace EventKind

variable {kind : EventKind}

lemma count_cons (event : Event) (events : List Event) :
    kind.count (event :: events) = kind.count events + if event.kind = kind then 1 else 0 := by
  simp [count, List.countP_cons]

lemma count_append (events more : List Event) :
    kind.count (events ++ more) = kind.count events + kind.count more := List.countP_append

/-- Counting events of a kind is counting tallies. -/
lemma countP_flatMap_tallies {k : Counter} (h : kind.counter? = some k) (events : List Event) :
    (events.flatMap Event.tallies).countP k.counts = kind.count events := by
  induction events with
  | nil => rfl
  | cons event events ih =>
    rw [List.flatMap_cons, List.countP_append, ih, Event.countP_tallies h, count_cons, Nat.add_comm]

end EventKind

namespace Ledger

/-- The second ledger is the first after the events were noted, and whatever was counted. -/
structure Noted (l : Ledger) (events : List Event) (after : Ledger) : Prop where
  logger_eq : after.logger = l.logger
  written_eq : after.written = l.written ++ l.logger.admitted (events.map Event.entry)

variable {l m n : Ledger} {events more : List Event}

lemma Noted.refl (l : Ledger) : l.Noted [] l := ⟨rfl, by simp [Logger.admitted]⟩

lemma Noted.trans (h : l.Noted events m) (k : m.Noted more n) : l.Noted (events ++ more) n := by
  refine ⟨k.logger_eq.trans h.logger_eq, ?_⟩
  rw [k.written_eq, h.written_eq, h.logger_eq, List.map_append, Logger.admitted_append,
    List.append_assoc]

lemma noted_count_note (l : Ledger) (tally : Tally) (event : Event) :
    l.Noted [event] ((l.count tally).note event) := ⟨rfl, rfl⟩

lemma noted_note (l : Ledger) (event : Event) : l.Noted [event] (l.note event) := ⟨rfl, rfl⟩

end Ledger

end Log

/-! ## What a turn tells -/

/-- The verdict that is answered, if it is one. -/
def Reply.verdict? : Reply → Option Bool
  | .verdict passed => some passed
  | .report r => some r.verdict
  | .registered _ | .supposed | .absent => none

namespace Turn

/-- How the block of an evaluation is closed: by the verdict that is returned, or by the hypothesis
that comes after those with a verdict, and the error that is returned. -/
inductive Closes (turn : Turn) : Event → Prop
  | complete {reply : Reply} {verdict : Bool} (returned : turn.result = .ok reply)
      (answers : reply.verdict? = some verdict) :
      turn.Closes (.evaluationComplete turn.before.label verdict)
  | aborted {e : TheoryError} {h : Hypothesis} (returned : turn.result = .error e)
      (failing : turn.before.hypotheses[turn.verdicts.length]? = some h) :
      turn.Closes (.evaluationAborted turn.before.label h.label e.code e.message)

/-- The verdicts of an evaluation, each with its hypothesis, in the order of registration. -/
def verdictEvents (turn : Turn) : List Event :=
  List.zipWith (fun h passed => .hypothesisEvaluated h.label passed) turn.before.hypotheses
    turn.verdicts

/-- The events that a turn hands to the logger, in order. -/
inductive Tells (turn : Turn) : List Event → Prop
  | registered {index : Nat} {h : Hypothesis} (returned : turn.result = .ok (.registered index))
      (new : turn.after.hypotheses[index]? = some h) :
      turn.Tells [.hypothesisRegistered h.label]
  | refused {name : String} (returned : turn.result = .error (.duplicateName name)) :
      turn.Tells [.nameRejected name]
  | evaluated {closing : Event} (evaluates : turn.evaluates = true)
      (closes : turn.Closes closing) :
      turn.Tells (.evaluationBegun turn.before.label turn.before.length ::
        turn.verdictEvents ++ [closing])
  | silent (evaluates : turn.evaluates = false) (registers : turn.registers = false)
      (refuses : turn.refuses = false) : turn.Tells []

end Turn

/-! ## Every turn tells what it is counted as -/

namespace Theory

/-- There is a verdict for some of the first hypotheses, and for no more. -/
lemma length_verdicts_le (hypotheses : List Hypothesis) (journal : Journal) :
    (verdicts hypotheses journal).length ≤ hypotheses.length := by
  induction hypotheses generalizing journal with
  | nil => exact Nat.le_refl _
  | cons h rest ih =>
    rw [verdicts]
    split
    · exact Nat.zero_le _
    · exact Nat.succ_le_succ (ih _)

lemma flatMap_tallies_zipWith {hypotheses : List Hypothesis} {verdicts : List Bool}
    (h : verdicts.length ≤ hypotheses.length) :
    (List.zipWith (fun h passed => Event.hypothesisEvaluated h.label passed) hypotheses
      verdicts).flatMap Event.tallies = verdicts.map Tally.verdict := by
  induction verdicts generalizing hypotheses with
  | nil => simp
  | cons passed verdicts ih =>
    cases hypotheses with
    | nil => simp at h
    | cons first rest =>
      have hrest : verdicts.length ≤ rest.length := Nat.le_of_succ_le_succ h
      simp only [List.zipWith_cons_cons, List.flatMap_cons, ih hrest, Event.tallies,
        List.map_cons, List.singleton_append]

end Theory

namespace Turn

variable {turn : Turn} {events : List Event}

/-- An evaluation registers nothing and refuses no name. -/
lemma quiet_of_evaluates (evaluates : turn.evaluates = true) :
    turn.registers = false ∧ turn.refuses = false := by
  obtain ⟨result, calls, rules, heq⟩ := turn.performs.reports evaluates
  rw [registers, refuses, heq]
  exact Theory.quiet_of_reports rules turn.command

/-- What registers or refuses is no evaluation. -/
lemma evaluates_eq_false (other : turn.registers = true ∨ turn.refuses = true) :
    turn.evaluates = false := by
  cases evaluates : turn.evaluates with
  | false => rfl
  | true =>
    obtain ⟨hregisters, hrefuses⟩ := quiet_of_evaluates evaluates
    simp [hregisters, hrefuses] at other

lemma flatMap_tallies_verdictEvents (turn : Turn) :
    turn.verdictEvents.flatMap Event.tallies = turn.verdicts.map Tally.verdict := by
  have hlength : turn.verdicts.length ≤ turn.before.hypotheses.length := by
    rw [verdicts]
    cases turn.evaluates with
    | true => exact Theory.length_verdicts_le _ _
    | false => exact Nat.zero_le _
  exact Theory.flatMap_tallies_zipWith hlength

/-- A turn is counted as what it tells. -/
lemma tallies_of_tells (h : turn.Tells events) : turn.tallies = events.flatMap Event.tallies := by
  cases h with
  | registered returned =>
    have hregisters : turn.registers = true := by
      rw [registers, returned]
      rfl
    have hrefuses : turn.refuses = false := by
      rw [refuses, returned]
      rfl
    have hevaluates := evaluates_eq_false (Or.inl hregisters)
    simp [tallies, verdicts, aborts, hregisters, hrefuses, hevaluates, Event.tallies]
  | refused returned =>
    have hregisters : turn.registers = false := by
      rw [registers, returned]
      rfl
    have hrefuses : turn.refuses = true := by
      rw [refuses, returned]
      rfl
    have hevaluates := evaluates_eq_false (Or.inr hrefuses)
    simp [tallies, verdicts, aborts, hregisters, hrefuses, hevaluates, Event.tallies]
  | evaluated evaluates closes =>
    obtain ⟨hregisters, hrefuses⟩ := quiet_of_evaluates evaluates
    have hmiddle := turn.flatMap_tallies_verdictEvents
    -- only an evaluation that fails counts an error, and its block is closed as aborted
    cases closes with
    | complete returned =>
      have haborts : turn.aborts = false := by
        rw [aborts, returned]
        simp [Except.isOk, Except.toBool]
      simp [tallies, hregisters, hrefuses, evaluates, haborts, hmiddle, Event.tallies]
    | aborted returned =>
      have haborts : turn.aborts = true := by
        rw [aborts, returned, evaluates]
        rfl
      simp [tallies, hregisters, hrefuses, evaluates, haborts, hmiddle, Event.tallies]
  | silent evaluates registers refuses =>
    simp [tallies, verdicts, aborts, evaluates, registers, refuses]

/-- Among the verdicts there are no events of another kind. -/
lemma count_verdictEvents (turn : Turn) (kind : EventKind) (other : kind ≠ .hypothesisEvaluated) :
    kind.count turn.verdictEvents = 0 := by
  rw [EventKind.count, List.countP_eq_zero]
  intro event hevent
  obtain ⟨i, hi, rfl⟩ := List.mem_iff_getElem.mp hevent
  simpa [verdictEvents, Event.kind] using other.symm

/-- Every evaluation that is begun is either completed or aborted. -/
lemma count_of_tells (h : turn.Tells events) :
    EventKind.evaluationComplete.count events + EventKind.evaluationAborted.count events =
      EventKind.evaluationBegun.count events := by
  cases h with
  | registered | refused | silent => rfl
  | @evaluated closing _ closes =>
    have hcomplete := turn.count_verdictEvents .evaluationComplete (by decide)
    have haborted := turn.count_verdictEvents .evaluationAborted (by decide)
    have hbegun := turn.count_verdictEvents .evaluationBegun (by decide)
    simp only [List.cons_append, EventKind.count_cons, EventKind.count_append, hcomplete, haborted,
      hbegun]
    cases closes <;> rfl

end Turn

/-! ## Every turn is told -/

namespace Trial

/-- What is noted of a trial. -/
def event (trial : Trial) : Event := .hypothesisEvaluated trial.before.label trial.passed

end Trial

namespace Theory

lemma noted_foldl_book (trials : List Trial) (ledger : Ledger) :
    ledger.Noted (trials.map Trial.event) (trials.foldl Trial.book ledger) := by
  induction trials generalizing ledger with
  | nil => exact .refl ledger
  | cons trial trials ih =>
    exact (ledger.noted_count_note (.verdict trial.passed) trial.event).trans (ih _)

/-- The verdicts of a pass belong to the hypotheses in front. -/
lemma zipWith_before_append (trials : List Trial) (rest : List Hypothesis) :
    List.zipWith (fun h passed => Event.hypothesisEvaluated h.label passed)
      (trials.map Trial.before ++ rest) (trials.map Trial.passed) = trials.map Trial.event := by
  induction trials with
  | nil => simp
  | cons trial trials ih =>
    simp only [List.map_cons, List.cons_append, List.zipWith_cons_cons, ih, Trial.event]

end Theory

namespace Turn

lemma exists_tells_of_reports {turn : Turn} {result : Except TheoryError Report}
    {calls : List Call} (evaluates : turn.evaluates = true)
    (rules : turn.before.Reports turn.journal result turn.after calls)
    (returned : turn.result = result.map turn.command.reply) :
    ∃ events, turn.Tells events ∧ turn.before.ledger.Noted events turn.after.ledger := by
  have hanswers (r : Report) : (turn.command.reply r).verdict? = some r.verdict := by
    cases turn.command <;> rfl
  have hverdicts : turn.verdicts = Theory.verdicts turn.before.hypotheses turn.journal := by
    rw [verdicts, evaluates, cond_true]
  have hbegun : turn.before.ledger.Noted
      [.evaluationBegun turn.before.label turn.before.length] turn.before.begun :=
    turn.before.ledger.noted_count_note _ _
  generalize turn.after = u at rules ⊢
  cases rules with
  | @complete trials all tried =>
    have hpassed : turn.verdicts = trials.map Trial.passed := by
      rw [hverdicts, Theory.verdicts_of_split (by rw [List.append_nil, all]) tried rfl]
    have hmiddle : turn.verdictEvents = trials.map Trial.event := by
      rw [verdictEvents, hpassed, all, ← List.append_nil (trials.map Trial.before)]
      exact Theory.zipWith_before_append trials []
    have htells := Tells.evaluated evaluates (.complete returned (hanswers _))
    rw [hmiddle] at htells
    refine ⟨_, htells, ?_⟩
    exact (hbegun.trans (Theory.noted_foldl_book trials turn.before.begun)).trans
      (Ledger.noted_note _ _)
  | @aborted trials h failed rest e last split tried fails =>
    have hpassed : turn.verdicts = trials.map Trial.passed := by
      rw [hverdicts, Theory.verdicts_of_split split tried (by rw [Theory.verdicts, fails])]
    have hmiddle : turn.verdictEvents = trials.map Trial.event := by
      rw [verdictEvents, hpassed, split]
      exact Theory.zipWith_before_append trials (h :: rest)
    have hfailing : turn.before.hypotheses[turn.verdicts.length]? = some h := by
      rw [hpassed, split]
      simp
    have htells := Tells.evaluated evaluates (.aborted returned hfailing)
    rw [hmiddle] at htells
    refine ⟨_, htells, ?_⟩
    exact (hbegun.trans (Theory.noted_foldl_book trials turn.before.begun)).trans
      (Ledger.noted_count_note _ _ _)

/-- Whatever the turn, the logger is handed the events that the turn tells. -/
lemma exists_tells (turn : Turn) :
    ∃ events, turn.Tells events ∧ turn.before.ledger.Noted events turn.after.ledger := by
  have h := turn.performs
  generalize hcommand : turn.command = command at h
  generalize hresult : turn.result = result at h
  generalize hafter : turn.after = u at h ⊢
  generalize turn.left = left at h
  cases h with
  | @registers name builder result u left rules =>
    have hevaluates : turn.evaluates = false := by
      rw [evaluates, hcommand]
      cases builder <;> rfl
    cases rules with
    | @refused n => exact ⟨[.nameRejected n], .refused hresult, Ledger.noted_count_note _ _ _⟩
    | failed =>
      refine ⟨[], .silent hevaluates ?_ ?_, .refl _⟩
      · rw [registers, hresult]
        rfl
      · rw [refuses, hresult]
        rfl
    | added | supposed =>
      -- the new hypothesis stands behind the ones before
      refine ⟨_, .registered hresult ?_, Ledger.noted_count_note _ _ _⟩
      rw [hafter]
      exact List.getElem?_concat_length
  | works isWork found done =>
    -- work on a single hypothesis is not logged
    obtain ⟨hregisters, hrefuses⟩ := Hypothesis.quiet_of_performs done
    refine ⟨[], .silent ?_ ?_ ?_, .refl _⟩
    · rw [evaluates, hcommand, Command.isEvaluation_of_isWork isWork]
    · rw [registers, hresult, hregisters]
    · rw [refuses, hresult, hrefuses]
  | absent isWork =>
    refine ⟨[], .silent ?_ ?_ ?_, .refl _⟩
    · rw [evaluates, hcommand, Command.isEvaluation_of_isWork isWork]
    · rw [registers, hresult]
      rfl
    · rw [refuses, hresult]
      rfl
  | @evaluates command result u calls isEvaluation rules =>
    subst hcommand hafter
    exact exists_tells_of_reports isEvaluation rules hresult

end Turn

/-! ## The story of a run -/

/-- Turn after turn is counted as what it tells. -/
lemma Log.EventKind.total_of_tells {kind : EventKind} {k : Counter}
    (h : kind.counter? = some k) {turns : List Turn} {stories : List (List Event)}
    (tells : List.Forall₂ Turn.Tells turns stories) :
    k.total turns = kind.count stories.flatten := by
  induction tells with
  | nil => cases k <;> rfl
  | @cons turn events turns stories head _ ih =>
    have hturn : k.total [turn] = kind.count events := by
      rw [← turn.countP_tallies, Turn.tallies_of_tells head, kind.countP_flatMap_tallies h]
    have htotal : k.total (turn :: turns) = k.total [turn] + k.total turns :=
      k.total_append [turn] turns
    rw [htotal, hturn, ih, List.flatten_cons, kind.count_append]

lemma Log.EventKind.count_of_tells {turns : List Turn} {stories : List (List Event)}
    (tells : List.Forall₂ Turn.Tells turns stories) :
    EventKind.evaluationComplete.count stories.flatten +
        EventKind.evaluationAborted.count stories.flatten =
      EventKind.evaluationBegun.count stories.flatten := by
  induction tells with
  | nil => rfl
  | cons head _ ih =>
    have hturn := Turn.count_of_tells head
    simp only [List.flatten_cons, EventKind.count_append]
    omega

namespace Theory

variable {t u : Theory}

/-- The number of log entries of the kind. -/
def entriesOf (t : Theory) (kind : EventKind) : Nat :=
  t.ledger.written.countP fun entry => entry.event = kind.name

lemma entriesOf_eq {events : List Event} (h : t.ledger.written = events.map Event.entry)
    (kind : EventKind) : t.entriesOf kind = kind.count events := by
  have hname (event : Event) : event.entry.event = kind.name ↔ event.kind = kind :=
    EventKind.name_inj
  simp [entriesOf, h, List.countP_map, Function.comp_def, hname, EventKind.count]

/-- What the logger is handed in a run is the story of its turns. -/
lemma exists_stories (commands : List Command) (t : Theory) (journal : Journal) :
    ∃ stories, List.Forall₂ Turn.Tells (turns commands t journal) stories ∧
      t.ledger.Noted stories.flatten (run commands t journal).2.1.ledger := by
  refine run_induction (R := fun t later u => ∃ stories, List.Forall₂ Turn.Tells later stories ∧
    t.ledger.Noted stories.flatten u.ledger) ?_ ?_ commands t journal
  · intro t
    exact ⟨[], .nil, .refl _⟩
  · rintro turn later u ⟨stories, tells, noted⟩
    obtain ⟨events, htells, hnoted⟩ := turn.exists_tells
    exact ⟨events :: stories, .cons htells tells, hnoted.trans noted⟩

/-- The log and the counters of a theory that has the label, after the turns since it was made. -/
structure Chronicle (label : String) (turns : List Turn) (u : Theory) : Prop where
  /-- The log tells of the configuration and then of one turn after the other. -/
  told : ∃ stories, List.Forall₂ Turn.Tells turns stories ∧
    u.ledger.written = (Event.configApplied label :: stories.flatten).map Event.entry
  /-- There are as many entries of a kind as the counter of the kind says, in its 64 bits. -/
  counted : ∀ kind k, EventKind.counter? kind = some k →
    k.value u.metrics = UInt64.ofNat (u.entriesOf kind)
  completed : UInt64.ofNat (u.entriesOf .evaluationComplete) =
    u.metrics.theoryEvaluations - u.metrics.evaluationErrors
  /-- As long as 64 bits can count the turns, no counter has wrapped. -/
  unwrapped : turns.length < UInt64.size →
    (∀ kind k, EventKind.counter? kind = some k → (k.value u.metrics).toNat = u.entriesOf kind) ∧
      u.entriesOf .evaluationComplete + u.metrics.evaluationErrors.toNat =
        u.metrics.theoryEvaluations.toNat

/-- A configuration that logs everything starts the log with itself. -/
lemma written_of_ofConfig {c : Config} (made : ofConfig c = .ok t)
    (enabled : c.loggingEnabled = true) (all : c.logSeverity = .trace) :
    t.ledger.logger = .atLeast .trace ∧
      t.ledger.written = [(Event.configApplied t.label).entry] := by
  have hlogger : c.logger = .atLeast .trace := by
    rw [Config.logger, if_pos enabled, all]
  rw [Config.ofConfig_eq] at made
  split at made
  · simp at made
  · obtain rfl := Except.ok.inj made
    refine ⟨hlogger, ?_⟩
    simp [Config.start, label, hlogger]

/-! ### Entries and tallies

The log is the entry of the configuration and then what the turns tell. -/

section Story

variable {label : String} {turns : List Turn} {stories : List (List Event)} {kind : EventKind}
  {k : Counter} (tells : List.Forall₂ Turn.Tells turns stories)
  (written : u.ledger.written = (Event.configApplied label :: stories.flatten).map Event.entry)

include written

/-- The entry of the configuration is of no other kind. -/
lemma entriesOf_of_written (other : kind ≠ .configApplied) :
    u.entriesOf kind = kind.count stories.flatten := by
  have hfirst : ¬ (Event.configApplied label).kind = kind := fun h => other h.symm
  rw [entriesOf_eq written, EventKind.count_cons, if_neg hfirst, Nat.add_zero]

include tells

/-- There is an entry of a kind for every tally of its counter. -/
lemma total_eq_entriesOf (h : kind.counter? = some k) : k.total turns = u.entriesOf kind := by
  have hother : kind ≠ .configApplied := by
    rintro rfl
    simp [EventKind.counter?] at h
  rw [entriesOf_of_written written hother, EventKind.total_of_tells h tells]

/-- The blocks of the evaluations are closed as often as they are begun. -/
lemma entriesOf_closing : u.entriesOf .evaluationComplete + u.entriesOf .evaluationAborted =
    u.entriesOf .evaluationBegun := by
  rw [entriesOf_of_written written (by decide), entriesOf_of_written written (by decide),
    entriesOf_of_written written (by decide)]
  exact EventKind.count_of_tells tells

end Story

/-- A theory made by a configuration that logs everything tells in its log what it counts, whatever
is done with it. The log is the entry of the configuration and then what the turns tell, one after
the other, so that every evaluation has its block. Registrations, names refused, evaluations,
verdicts, and evaluations that failed are found in it as often as the counters say, and the
evaluations that were completed are those that did not fail. -/
theorem log_tells_what_is_counted {c : Config} (made : ofConfig c = .ok t)
    (enabled : c.loggingEnabled = true) (all : c.logSeverity = .trace) (commands : List Command)
    (journal : Journal) :
    Chronicle t.label (turns commands t journal) (run commands t journal).2.1 := by
  have new : t.New := .ofConfig made
  obtain ⟨hlogger, hstart⟩ := written_of_ofConfig made enabled all
  obtain ⟨stories, tells, noted⟩ := exists_stories commands t journal
  have hwritten : (run commands t journal).2.1.ledger.written =
      (Event.configApplied t.label :: stories.flatten).map Event.entry := by
    rw [noted.written_eq, hlogger, hstart, Log.Logger.admitted_atLeast_trace]
    rfl
  have hblocks := entriesOf_closing tells hwritten
  have hcounted (kind : EventKind) (k : Counter) (h : kind.counter? = some k) :
      k.value (run commands t journal).2.1.metrics =
        UInt64.ofNat ((run commands t journal).2.1.entriesOf kind) := by
    have hzero : k.value t.metrics = 0 := by
      rw [new.empty_metrics.2]
      cases k <;> rfl
    rw [value_run, hzero, UInt64.zero_add, total_eq_entriesOf tells hwritten h]
  refine ⟨⟨stories, tells, hwritten⟩, hcounted, ?_, ?_⟩
  · have hbegun := hcounted .evaluationBegun .evaluations rfl
    have haborted := hcounted .evaluationAborted .errors rfl
    simp only [Counter.value] at hbegun haborted
    rw [hbegun, haborted, ← hblocks, UInt64.ofNat_add, UInt64.add_sub_cancel]
  · intro few
    rw [length_turns] at few
    have hexact (kind : EventKind) (k : Counter) (h : kind.counter? = some k) :
        (k.value (run commands t journal).2.1.metrics).toNat =
          (run commands t journal).2.1.entriesOf kind := by
      rw [new.toNat_value_run few, total_eq_entriesOf tells hwritten h]
    refine ⟨hexact, ?_⟩
    have hbegun := hexact .evaluationBegun .evaluations rfl
    have haborted := hexact .evaluationAborted .errors rfl
    simp only [Counter.value] at hbegun haborted
    omega

/-- A registration is refused, and a pass comes to a verdict and is then ended by an error: the log
as a whole. -/
theorem chronicle_of_aborted_pass :
    let c : Config := { name := some "w", loggingEnabled := true, logSeverity := .trace }
    let commands : List Command := [.suppose (some "a") (.ofSupposition "p" fun _ => true),
      .add (some "b"), .add (some "a"), .evaluate]
    let u := (run commands c.start []).2.1
    let fault : TheoryError := .missingSupposition "b"
    ofConfig c = .ok c.start ∧ c.loggingEnabled = true ∧ c.logSeverity = .trace ∧
    u.ledger.written =
      ([.configApplied "w", .hypothesisRegistered "a", .hypothesisRegistered "b", .nameRejected "a",
        .evaluationBegun "w" 2, .hypothesisEvaluated "a" true,
        .evaluationAborted "w" "b" fault.code fault.message] : List Event).map Event.entry ∧
    Chronicle "w" (turns commands c.start []) u := by
  intro c commands u fault
  have made : ofConfig c = .ok c.start := rfl
  exact ⟨made, rfl, rfl, rfl, log_tells_what_is_counted made rfl rfl commands []⟩

end Theory

end Postulate
