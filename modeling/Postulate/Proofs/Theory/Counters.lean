import Mathlib.Data.Bool.Count
import Postulate.Proofs.Theory.Verdict

/-!
# What the counters say

Every counter of a theory goes up by one when what it counts happens, and by nothing else. So each
is the number of times that this happened in the turns of a run (`Log.Counter.total`): names that
were refused, evaluations and those that failed, and the verdicts that hypotheses came to in passes,
also in passes that were ended by an error. The number of registrations is the number of hypotheses,
because a registration that fails is taken back before it is counted. Since a hypothesis comes to a
verdict once at most, there are never more verdicts than hypotheses, and no counter can get beyond
the number of commands. As long as that fits into 64 bits, no counter wraps. All this is
`Theory.counters_faithful`.
-/

namespace Postulate

open Log (Ledger Metrics Tally)

/-! ## What is counted -/

namespace Reply

/-- Is it the answer to a registration? -/
def isRegistration : Except TheoryError Reply → Bool
  | .ok (.registered _) => true
  | _ => false

/-- Is it the refusal of a name that is taken? -/
def isRefusal : Except TheoryError Reply → Bool
  | .error (.duplicateName _) => true
  | _ => false

end Reply

namespace Theory

/-- The verdicts that a pass comes to: one hypothesis after the other is evaluated, up to the first
that comes to none. -/
def verdicts : List Hypothesis → Journal → List Bool
  | [], _ => []
  | h :: rest, journal =>
    match h.evaluate journal with
    | (.error _, _, _) => []
    | (.ok passed, _, journal) => passed :: verdicts rest journal

end Theory

namespace Turn

/-- Is a hypothesis registered? -/
def registers (turn : Turn) : Bool := Reply.isRegistration turn.result

/-- Is a name refused because it is taken? -/
def refuses (turn : Turn) : Bool := Reply.isRefusal turn.result

/-- Is the theory evaluated? -/
def evaluates (turn : Turn) : Bool := turn.command.isEvaluation

/-- Is the theory evaluated, and is the answer an error? -/
def aborts (turn : Turn) : Bool := turn.evaluates && !turn.result.isOk

/-- The verdicts of the hypotheses, if the theory is evaluated. -/
def verdicts (turn : Turn) : List Bool :=
  bif turn.evaluates then Theory.verdicts turn.before.hypotheses turn.journal else []

end Turn

namespace Log

/-- The counters. -/
inductive Counter where
  | registered
  | rejected
  | evaluations
  | evaluated
  | passed
  | failed
  | errors

namespace Counter

/-- The value of the counter. -/
def value : Counter → Metrics → UInt64
  | registered => Metrics.hypothesesRegistered
  | rejected => Metrics.namesRejected
  | evaluations => Metrics.theoryEvaluations
  | evaluated => Metrics.hypothesesEvaluated
  | passed => Metrics.hypothesesPassed
  | failed => Metrics.hypothesesFailed
  | errors => Metrics.evaluationErrors

/-- What the counter counts. -/
def counts : Counter → Tally → Bool
  | registered, .registered => true
  | rejected, .rejected => true
  | evaluations, .evaluation => true
  | evaluated, .verdict _ => true
  | passed, .verdict verdict => verdict
  | failed, .verdict verdict => !verdict
  | errors, .error => true
  | _, _ => false

/-- How often it happened in the turns. -/
def total (turns : List Turn) : Counter → Nat
  | registered => turns.countP Turn.registers
  | rejected => turns.countP Turn.refuses
  | evaluations => turns.countP Turn.evaluates
  | evaluated => (turns.flatMap Turn.verdicts).length
  | passed => (turns.flatMap Turn.verdicts).count true
  | failed => (turns.flatMap Turn.verdicts).count false
  | errors => turns.countP Turn.aborts

lemma value_count (k : Counter) (m : Metrics) (tally : Tally) :
    k.value (m.count tally) = k.value m + UInt64.ofNat (if k.counts tally then 1 else 0) := by
  rcases tally with _ | _ | _ | (_ | _) | _ <;> cases k <;> simp [value, counts, Metrics.count]

lemma value_foldl (k : Counter) (tallies : List Tally) (m : Metrics) :
    k.value (tallies.foldl Metrics.count m) =
      k.value m + UInt64.ofNat (tallies.countP k.counts) := by
  induction tallies generalizing m with
  | nil => simp
  | cons tally tallies ih =>
    -- the counter may wrap, but adding up modulo its width is adding up first
    rw [List.foldl_cons, ih, value_count, List.countP_cons, Nat.add_comm, UInt64.ofNat_add,
      UInt64.add_assoc]

/-- Verdicts are counted as such and by the verdict. -/
lemma countP_verdict (k : Counter) (verdicts : List Bool) :
    (verdicts.map Tally.verdict).countP k.counts =
      match k with
      | evaluated => verdicts.length
      | passed => verdicts.count true
      | failed => verdicts.count false
      | _ => 0 := by
  induction verdicts with
  | nil => cases k <;> rfl
  | cons verdict verdicts ih =>
    rw [List.map_cons, List.countP_cons, ih]
    cases k <;> cases verdict <;> simp [counts]

lemma total_append (k : Counter) (turns more : List Turn) :
    k.total (turns ++ more) = k.total turns + k.total more := by
  cases k <;> simp [total]

end Counter

end Log

open Log (Counter)

/-! ## What a turn counts -/

lemma Command.isEvaluation_of_isWork {command : Command} (isWork : command.isWork = true) :
    command.isEvaluation = false := by
  cases command with
  | add | suppose | direct | named => rfl
  | evaluate | report => simp [Command.isWork] at isWork

namespace Hypothesis

variable {h after : Hypothesis} {journal journal' : Journal}

/-- An evaluation is not refused for a name. -/
lemma not_isRefusal_of_evaluate {e : TheoryError}
    (fails : h.evaluate journal = (.error e, after, journal')) :
    Reply.isRefusal (.error e) = false := by
  cases hchain : h.chain with
  | none =>
    rw [evaluate_of_chain_eq_none hchain] at fails
    obtain rfl := Except.error.inj (Prod.mk.inj fails).1
    rfl
  | some c =>
    simp only [evaluate, hchain] at fails
    have hverdict := (Prod.mk.inj fails).1
    cases hc : (c.evaluate journal).verdict with
    | ok passed => simp [hc, Except.mapError] at hverdict
    | error fault =>
      rw [hc] at hverdict
      obtain rfl := Except.error.inj hverdict
      rfl

/-- Work on a hypothesis registers nothing and refuses no name. -/
lemma quiet_of_performs {work : HypothesisCommand} {result : Except TheoryError Reply}
    (done : h.Performs journal work result after journal') :
    Reply.isRegistration result = false ∧ Reply.isRefusal result = false := by
  cases done with
  | @evaluates result after journal' heval =>
    cases result with
    | ok passed => exact ⟨rfl, rfl⟩
    | error e => exact ⟨rfl, not_isRefusal_of_evaluate heval⟩
  | taken | failed | supposed => exact ⟨rfl, rfl⟩

end Hypothesis

namespace Theory

lemma verdicts_of_tried {journal : Journal} {trials : List Trial} (tried : Tried journal trials)
    (rest : List Hypothesis) :
    verdicts (trials.map Trial.before ++ rest) journal =
      trials.map Trial.passed ++ verdicts rest (journal ++ trials.flatMap Trial.calls) := by
  induction tried with
  | nil => simp
  | cons verdict _ ih =>
    simp only [List.map_cons, List.cons_append, verdicts, verdict, ih, List.flatMap_cons,
      List.append_assoc]

/-- A pass comes to the verdicts of its trials, when what is left comes to none. -/
lemma verdicts_of_split {hypotheses rest : List Hypothesis} {journal : Journal}
    {trials : List Trial} (split : hypotheses = trials.map Trial.before ++ rest)
    (tried : Tried journal trials)
    (ends : verdicts rest (journal ++ trials.flatMap Trial.calls) = []) :
    verdicts hypotheses journal = trials.map Trial.passed := by
  rw [split, verdicts_of_tried tried rest, ends, List.append_nil]

lemma metrics_foldl_book (trials : List Trial) (ledger : Ledger) :
    (trials.foldl Trial.book ledger).metrics =
      ((trials.map Trial.passed).map Tally.verdict).foldl Metrics.count ledger.metrics := by
  induction trials generalizing ledger with
  | nil => rfl
  | cons trial trials ih => rw [List.foldl_cons, ih]; rfl

variable {t u : Theory} {journal journal' : Journal}

/-- A registration counts a hypothesis or what its error is counted as. -/
lemma metrics_of_registers {name : Option String} {builder : Option Builder}
    {result : Except TheoryError Nat} (h : t.Registers name builder journal result u journal') :
    u.metrics = (match result with
      | .ok _ => [Tally.registered]
      | .error e => e.tallies).foldl Metrics.count t.metrics := by
  cases h <;> rfl

/-- An evaluation counts itself, then the verdicts, then the error that ended it. -/
lemma metrics_of_reports {result : Except TheoryError Report} {calls : List Call}
    (h : t.Reports journal result u calls) :
    u.metrics = (Tally.evaluation :: (verdicts t.hypotheses journal).map Tally.verdict ++
      if result.isOk then [] else [Tally.error]).foldl Metrics.count t.metrics := by
  cases h with
  | @complete trials all tried =>
    have hverdicts : verdicts t.hypotheses journal = trials.map Trial.passed :=
      verdicts_of_split (by rw [List.append_nil, all]) tried rfl
    simp only [metrics, Log.Ledger.metrics_note, metrics_foldl_book, begun,
      Log.Ledger.metrics_count, hverdicts, Except.isOk, Except.toBool, if_true, List.append_nil,
      List.foldl_cons]
  | @aborted trials h failed rest e last split tried fails =>
    have hverdicts : verdicts t.hypotheses journal = trials.map Trial.passed :=
      verdicts_of_split split tried (by rw [verdicts, fails])
    simp only [metrics, Log.Ledger.metrics_note, metrics_foldl_book, begun,
      Log.Ledger.metrics_count, hverdicts, Except.isOk, Except.toBool, Bool.false_eq_true, if_false,
      List.cons_append, List.foldl_cons, List.foldl_append, List.foldl_nil]

lemma length_of_registers {name : Option String} {builder : Option Builder}
    {result : Except TheoryError Nat} (h : t.Registers name builder journal result u journal') :
    u.length = t.length + (match result with
      | .ok _ => 1
      | .error _ => 0) := by
  cases h with
  | refused | failed => rfl
  | added | supposed => simp [length, register, confirm, enter]

lemma length_of_reports {result : Except TheoryError Report} {calls : List Call}
    (h : t.Reports journal result u calls) : u.length = t.length := by
  cases h with
  | complete all => simp [length, all]
  | aborted split => simp [length, split]

lemma countP_isEvaluated_of_tried {trials : List Trial} (tried : Tried journal trials) :
    (trials.map Trial.before).countP Hypothesis.isEvaluated = 0 ∧
      (trials.map Trial.after).countP Hypothesis.isEvaluated = trials.length := by
  have hall := isEvaluated_of_tried tried
  constructor
  · rw [List.countP_map, List.countP_eq_zero]
    intro trial htrial
    simp [(hall trial htrial).2.1]
  · rw [List.countP_map, List.countP_eq_length]
    intro trial htrial
    exact (hall trial htrial).2.2

/-- An evaluation marks every hypothesis that comes to a verdict, and none of them was marked. -/
lemma evaluatedCount_of_reports {result : Except TheoryError Report} {calls : List Call}
    (h : t.Reports journal result u calls) :
    t.evaluatedCount + (verdicts t.hypotheses journal).length ≤ u.evaluatedCount := by
  cases h with
  | @complete trials all tried =>
    have hverdicts : verdicts t.hypotheses journal = trials.map Trial.passed :=
      verdicts_of_split (by rw [List.append_nil, all]) tried rfl
    obtain ⟨hbefore, hafter⟩ := countP_isEvaluated_of_tried tried
    rw [hverdicts, evaluatedCount, evaluatedCount, all, hbefore, hafter]
    simp
  | @aborted trials h failed rest e last split tried fails =>
    have hverdicts : verdicts t.hypotheses journal = trials.map Trial.passed :=
      verdicts_of_split split tried (by rw [verdicts, fails])
    obtain ⟨hbefore, hafter⟩ := countP_isEvaluated_of_tried tried
    -- the hypothesis that failed keeps its mark, if it had one
    have hfailed := h.becomes_evaluate (journal ++ trials.flatMap Trial.calls)
    rw [fails] at hfailed
    have htail : (h :: rest).countP Hypothesis.isEvaluated ≤
        (failed :: rest).countP Hypothesis.isEvaluated :=
      Persist.countP_le (fun _ _ => Hypothesis.Becomes.isEvaluated)
        (.cons hfailed (Persist.refl Hypothesis.Becomes.refl rest))
    rw [hverdicts, evaluatedCount, evaluatedCount, split, List.countP_append, List.countP_append,
      hbefore, hafter, List.length_map]
    omega

/-- An evaluation registers nothing and refuses no name. -/
lemma quiet_of_reports {result : Except TheoryError Report} {calls : List Call}
    (h : t.Reports journal result u calls) (command : Command) :
    Reply.isRegistration (result.map command.reply) = false ∧
      Reply.isRefusal (result.map command.reply) = false := by
  cases h with
  | complete => cases command <;> exact ⟨rfl, rfl⟩
  | aborted split tried fails => exact ⟨rfl, Hypothesis.not_isRefusal_of_evaluate fails⟩

end Theory

namespace Turn

/-- What a turn counts, in this order. -/
def tallies (turn : Turn) : List Tally :=
  (bif turn.registers then [.registered] else []) ++
    (bif turn.refuses then [.rejected] else []) ++
    (bif turn.evaluates then [.evaluation] else []) ++
    turn.verdicts.map .verdict ++
    (bif turn.aborts then [.error] else [])

lemma countP_tallies (turn : Turn) (k : Counter) :
    turn.tallies.countP k.counts = k.total [turn] := by
  have hone (b : Bool) (tally : Tally) :
      (bif b then [tally] else []).countP k.counts = if b && k.counts tally then 1 else 0 := by
    cases b <;> simp
  simp only [tallies, List.countP_append, Counter.countP_verdict, hone]
  cases k <;> simp [Counter.counts, Counter.total, List.countP_cons]

/-- A turn counts its tallies and nothing else, and the theory grows by one if a hypothesis is
registered. -/
lemma after_eq_tallies (turn : Turn) :
    turn.after.metrics = turn.tallies.foldl Metrics.count turn.before.metrics ∧
      turn.after.length = turn.before.length + turn.registers.toNat := by
  -- what is asked of the turn is said of its command and its answer, to split on what came of it
  obtain ⟨t, command, journal⟩ := turn
  have h := performs ⟨t, command, journal⟩
  simp only [tallies, registers, refuses, aborts, verdicts, evaluates]
  generalize result ⟨t, command, journal⟩ = result at h ⊢
  generalize after ⟨t, command, journal⟩ = u at h ⊢
  generalize left ⟨t, command, journal⟩ = journal' at h
  cases h with
  | @registers name builder result u journal' rules =>
    rw [Theory.metrics_of_registers rules, Theory.length_of_registers rules]
    cases builder <;> cases rules <;> exact ⟨rfl, rfl⟩
  | works isWork found done =>
    obtain ⟨hok, herror⟩ := Hypothesis.quiet_of_performs done
    simp [hok, herror, Command.isEvaluation_of_isWork isWork, Theory.metrics, Theory.length]
  | absent isWork =>
    simp [Command.isEvaluation_of_isWork isWork, Reply.isRegistration, Reply.isRefusal]
  | @evaluates command result u calls isEvaluation rules =>
    have hquiet := Theory.quiet_of_reports rules command
    rw [Theory.metrics_of_reports rules, Theory.length_of_reports rules]
    simp only [isEvaluation, hquiet.1, hquiet.2]
    cases result <;> exact ⟨rfl, rfl⟩

/-- Every verdict is that of a hypothesis that is evaluated from then on, and was not before. -/
lemma evaluatedCount_add_verdicts_le (turn : Turn) :
    turn.before.evaluatedCount + turn.verdicts.length ≤ turn.after.evaluatedCount := by
  by_cases isEvaluation : turn.evaluates = true
  · obtain ⟨result, calls, rules, -⟩ := turn.performs.reports isEvaluation
    have hcount := Theory.evaluatedCount_of_reports rules
    simpa [verdicts, isEvaluation] using hcount
  · have hnone : turn.verdicts = [] := by simp [verdicts, isEvaluation]
    have hkept := Theory.becomes_of_performs turn.performs
    rw [hnone, List.length_nil, Nat.add_zero]
    exact hkept.evaluatedCount_le

end Turn

/-! ## What a run counts -/

namespace Theory

/-- A new theory, made without or with a configuration. -/
inductive New : Theory → Prop
  | empty (name : Option String) : New { name }
  | ofConfig {c : Config} {t : Theory} (h : Theory.ofConfig c = .ok t) : New t

lemma New.empty_metrics {t : Theory} (new : t.New) : t.hypotheses = [] ∧ t.metrics = {} := by
  cases new with
  | empty name => exact ⟨rfl, rfl⟩
  | ofConfig h =>
    simp only [Theory.ofConfig] at h
    split at h
    · simp at h
    · obtain rfl := Except.ok.inj h
      exact ⟨rfl, rfl⟩

lemma value_run (k : Counter) (commands : List Command) (t : Theory) (journal : Journal) :
    k.value (run commands t journal).2.1.metrics =
      k.value t.metrics + UInt64.ofNat (k.total (turns commands t journal)) := by
  refine run_induction (R := fun t later u =>
    k.value u.metrics = k.value t.metrics + UInt64.ofNat (k.total later)) ?_ ?_ commands t journal
  · intro t
    cases k <;> simp [Counter.total]
  · intro turn later u ih
    have htotal : k.total (turn :: later) = k.total [turn] + k.total later :=
      k.total_append [turn] later
    rw [ih, turn.after_eq_tallies.1, Counter.value_foldl, turn.countP_tallies, htotal,
      UInt64.ofNat_add, UInt64.add_assoc]

lemma length_run (commands : List Command) (t : Theory) (journal : Journal) :
    (run commands t journal).2.1.length =
      t.length + Counter.registered.total (turns commands t journal) := by
  refine run_induction (R := fun t later u =>
    u.length = t.length + Counter.registered.total later) ?_ ?_ commands t journal
  · intro t
    rfl
  · intro turn later u ih
    have htotal : Counter.registered.total (turn :: later) =
        turn.registers.toNat + Counter.registered.total later := by
      cases h : turn.registers <;> simp [Counter.total, h, Nat.add_comm]
    rw [ih, turn.after_eq_tallies.2, htotal, Nat.add_assoc]

/-- There are never more verdicts than evaluated hypotheses. -/
lemma evaluatedCount_run (commands : List Command) (t : Theory) (journal : Journal) :
    t.evaluatedCount + Counter.evaluated.total (turns commands t journal) ≤
      (run commands t journal).2.1.evaluatedCount := by
  refine run_induction (R := fun t later u =>
    t.evaluatedCount + Counter.evaluated.total later ≤ u.evaluatedCount) ?_ ?_ commands t journal
  · intro t
    exact Nat.le_refl _
  · intro turn later u ih
    have hturn := turn.evaluatedCount_add_verdicts_le
    have htotal : Counter.evaluated.total (turn :: later) =
        turn.verdicts.length + Counter.evaluated.total later := by
      simp [Counter.total]
    omega

variable {t : Theory} {commands : List Command}

/-- From a new theory, no more can happen than there are commands. -/
lemma New.total_le (new : t.New) (commands : List Command) (journal : Journal) (k : Counter) :
    k.total (turns commands t journal) ≤ commands.length := by
  have hcommands := length_turns commands t journal
  -- verdicts are bounded by the hypotheses, and these by the registrations
  have hregistered : Counter.registered.total (turns commands t journal) ≤ commands.length :=
    hcommands ▸ List.countP_le_length
  have hlength := length_run commands t journal
  have hempty : t.length = 0 := by simp [length, new.empty_metrics.1]
  have hmarked : (run commands t journal).2.1.evaluatedCount ≤ (run commands t journal).2.1.length :=
    List.countP_le_length
  have hverdicts := evaluatedCount_run commands t journal
  have hevaluated : Counter.evaluated.total (turns commands t journal) ≤ commands.length := by
    omega
  cases k with
  | registered => exact hregistered
  | rejected | evaluations | errors => exact hcommands ▸ List.countP_le_length
  | evaluated => exact hevaluated
  | passed | failed => exact Nat.le_trans List.count_le_length hevaluated

/-- No counter wraps. -/
lemma New.toNat_value_run (new : t.New) (few : commands.length < UInt64.size) (journal : Journal)
    (k : Counter) :
    (k.value (run commands t journal).2.1.metrics).toNat = k.total (turns commands t journal) := by
  have hbound := new.total_le commands journal k
  have hzero : k.value t.metrics = 0 := by
    rw [new.empty_metrics.2]
    cases k <;> rfl
  rw [value_run, hzero, UInt64.zero_add, UInt64.toNat_ofNat_of_lt' (by omega)]

/-- The counters say how often things happened in the turns so far. -/
structure Faithful (u : Theory) (turns : List Turn) : Prop where
  registered : u.metrics.hypothesesRegistered.toNat = u.length
  rejected : u.metrics.namesRejected.toNat = turns.countP Turn.refuses
  evaluations : u.metrics.theoryEvaluations.toNat = turns.countP Turn.evaluates
  errors : u.metrics.evaluationErrors.toNat = turns.countP Turn.aborts
  passed : u.metrics.hypothesesPassed.toNat = (turns.flatMap Turn.verdicts).count true
  failed : u.metrics.hypothesesFailed.toNat = (turns.flatMap Turn.verdicts).count false
  evaluated : u.metrics.hypothesesEvaluated.toNat =
    u.metrics.hypothesesPassed.toNat + u.metrics.hypothesesFailed.toNat
  evaluated_le : u.metrics.hypothesesEvaluated ≤ u.metrics.hypothesesRegistered

lemma New.faithful (new : t.New) (few : commands.length < UInt64.size) (journal : Journal) :
    Faithful (run commands t journal).2.1 (turns commands t journal) := by
  have hvalue := new.toNat_value_run few journal
  have hempty : t.length = 0 := by simp [length, new.empty_metrics.1]
  have hlength := length_run commands t journal
  have hverdicts := evaluatedCount_run commands t journal
  have hmarked : (run commands t journal).2.1.evaluatedCount ≤ (run commands t journal).2.1.length :=
    List.countP_le_length
  have hregistered : (run commands t journal).2.1.metrics.hypothesesRegistered.toNat =
      (run commands t journal).2.1.length := by
    have h := hvalue .registered
    simp only [Counter.value] at h
    omega
  have hevaluated := hvalue .evaluated
  refine ⟨hregistered, hvalue .rejected, hvalue .evaluations, hvalue .errors, hvalue .passed,
    hvalue .failed, ?_, ?_⟩
  · -- every verdict is one or the other
    have hsplit := List.count_true_add_count_false ((turns commands t journal).flatMap Turn.verdicts)
    have hpassed := hvalue .passed
    have hfailed := hvalue .failed
    simp only [Counter.value, Counter.total] at hevaluated hpassed hfailed
    omega
  · rw [UInt64.le_iff_toNat_le, hregistered]
    simp only [Counter.value] at hevaluated
    omega

/-- A theory starts new, and fewer commands are carried out on it than 64 bits can count. Then after
every one of them the counters are faithful: registered is what the theory has, and names refused,
evaluations, evaluations that failed, and verdicts of either kind are counted as often as they came
about in the turns so far. The verdicts are those that passed and those that failed, they are never
more than the hypotheses, and no counter ever goes down. -/
theorem counters_faithful (new : t.New) (earlier later : List Command)
    (few : (earlier ++ later).length < UInt64.size) (journal : Journal) :
    Faithful (run earlier t journal).2.1 (turns earlier t journal) ∧
      ∀ k : Counter, k.value (run earlier t journal).2.1.metrics ≤
        k.value (run (earlier ++ later) t journal).2.1.metrics := by
  have fewer : earlier.length < UInt64.size := by
    rw [List.length_append] at few
    omega
  refine ⟨new.faithful fewer journal, fun k => ?_⟩
  rw [UInt64.le_iff_toNat_le, new.toNat_value_run fewer, new.toNat_value_run few, turns_append,
    Counter.total_append k (turns earlier t journal)]
  omega

/-- A name is refused, and a pass comes to a verdict and is then ended by an error. -/
theorem faithful_after_aborted_pass :
    let commands : List Command := [.suppose (some "a") (.ofSupposition "p" fun _ => true),
      .add (some "b"), .add (some "a"), .evaluate]
    let u := (run commands {} []).2.1
    u.metrics =
      { hypothesesRegistered := 2, namesRejected := 1, theoryEvaluations := 1,
        hypothesesEvaluated := 1, hypothesesPassed := 1, evaluationErrors := 1 } ∧
    Faithful u (turns commands {} []) ∧
    ∀ k : Counter, k.value u.metrics ≤ k.value (run (commands ++ [.report]) {} []).2.1.metrics :=
  ⟨by decide, counters_faithful (.empty none) _ [.report] (by decide) []⟩

end Theory

end Postulate
