import Postulate.Proofs.Chain.FirstStop
import Postulate.Theory.Basic

/-!
# One pass over the hypotheses

A pass tries the hypotheses of a theory in the order of registration. One that comes to a verdict
never ends the pass, whatever the verdict; the first that does not ends it with its error, and
leaves all those behind it as they are. This file says in rules, without the recursion of
`Theory.pass`, what a pass returns and leaves (`Theory.Reports`): the report or the error, the
theory with its ledger, and the calls that are made, hypothesis by hypothesis. The main result is
`Theory.report_eq_iff`: the rules, the report and the bare verdict agree.
-/

namespace Postulate

open Log (Ledger)

namespace Hypothesis

/-- Evaluating only adds to the journal. -/
lemma exists_journal_evaluate (h : Hypothesis) (journal : Journal) :
    ∃ calls, (h.evaluate journal).2.2 = journal ++ calls := by
  cases hchain : h.chain with
  | none =>
    rw [evaluate_of_chain_eq_none hchain]
    exact ⟨[], (List.append_nil journal).symm⟩
  | some chain =>
    obtain ⟨calls, hcalls⟩ := chain.exists_journal_evaluate journal
    refine ⟨calls, ?_⟩
    simp only [evaluate, hchain, hcalls]

variable {h after : Hypothesis} {journal journal' : Journal} {result : Except TheoryError Bool}

/-- Position and name of a hypothesis outlast its evaluation. -/
lemma tag_of_evaluate (heval : h.evaluate journal = (result, after, journal')) :
    after.index = h.index ∧ after.name = h.name := by
  have hindex := h.index_evaluate journal
  have hname := h.name_evaluate journal
  rw [heval] at hindex hname
  exact ⟨hindex, hname⟩

lemma label_of_evaluate (heval : h.evaluate journal = (result, after, journal')) :
    after.label = h.label := by
  obtain ⟨hindex, hname⟩ := tag_of_evaluate heval
  rw [label, label, hindex, hname]

end Hypothesis

/-- A hypothesis that comes to a verdict when its turn comes. -/
structure Trial where
  before : Hypothesis
  after : Hypothesis
  passed : Bool
  /-- The calls that its evaluation makes. -/
  calls : List Call

namespace Trial

/-- What is reported of a trial: which hypothesis it was, the verdict, and how many of its clauses
are marked afterwards. -/
def outcome (trial : Trial) : Outcome where
  index := trial.before.index
  name := trial.before.name
  passed := trial.passed
  clausesEvaluated := trial.after.chain.elim 0 Chain.evaluatedCount
  clausesTotal := trial.after.chain.elim 0 Chain.length

/-- The ledger after a trial. -/
def book (ledger : Ledger) (trial : Trial) : Ledger :=
  (ledger.count (.verdict trial.passed)).note
    (.hypothesisEvaluated trial.before.label trial.passed)

end Trial

/-- The trials take place one after the other: each begins with the journal that the one before it
left, and comes to its verdict. -/
inductive Tried : Journal → List Trial → Prop
  | nil {journal : Journal} : Tried journal []
  | cons {journal : Journal} {trial : Trial} {trials : List Trial}
      (verdict : trial.before.evaluate journal =
        (.ok trial.passed, trial.after, journal ++ trial.calls))
      (rest : Tried (journal ++ trial.calls) trials) : Tried journal (trial :: trials)

/-- All hypotheses of a list come to a verdict, or there is a first one that does not. -/
lemma tried_or_fails (hypotheses : List Hypothesis) (journal : Journal) :
    (∃ trials, hypotheses = trials.map Trial.before ∧ Tried journal trials) ∨
      ∃ trials h rest e failed last, hypotheses = trials.map Trial.before ++ h :: rest ∧
        Tried journal trials ∧
        h.evaluate (journal ++ trials.flatMap Trial.calls) =
          (.error e, failed, journal ++ trials.flatMap Trial.calls ++ last) := by
  induction hypotheses generalizing journal with
  | nil => exact Or.inl ⟨[], rfl, .nil⟩
  | cons h hypotheses ih =>
    obtain ⟨calls, hcalls⟩ := h.exists_journal_evaluate journal
    rcases heval : h.evaluate journal with ⟨e | passed, after, journal'⟩
    · obtain rfl : journal' = journal ++ calls := by simpa [heval] using hcalls
      refine Or.inr ⟨[], h, hypotheses, e, after, calls, rfl, .nil, ?_⟩
      rw [List.flatMap_nil, List.append_nil, heval]
    · -- a verdict, whichever it is: the rest has its turn, from the journal that this one left
      obtain rfl : journal' = journal ++ calls := by simpa [heval] using hcalls
      let trial : Trial := ⟨h, after, passed, calls⟩
      rcases ih (journal ++ calls) with ⟨trials, hall, tried⟩ |
        ⟨trials, k, rest, e, failed, last, hsplit, tried, herror⟩
      · refine Or.inl ⟨trial :: trials, ?_, .cons heval tried⟩
        rw [hall, List.map_cons]
      · refine Or.inr ⟨trial :: trials, k, rest, e, failed, last, ?_, .cons heval tried, ?_⟩
        · rw [hsplit, List.map_cons, List.cons_append]
        · rw [List.flatMap_cons, ← List.append_assoc]
          exact herror

namespace Theory

variable {label : String} {h after : Hypothesis} {rest : List Hypothesis} {verdict : Bool}
  {ledger : Ledger} {journal journal' : Journal}

lemma pass_cons_of_ok {passed : Bool} (heval : h.evaluate journal = (.ok passed, after, journal')) :
    pass label (h :: rest) verdict ledger journal =
      let p := pass label rest (passed && verdict)
        ((ledger.count (.verdict passed)).note (.hypothesisEvaluated h.label passed)) journal'
      { p with
        result := p.result.map fun (verdict, outcomes) => (verdict, .observe after passed :: outcomes)
        hypotheses := after :: p.hypotheses } := by
  simp only [pass, heval, Hypothesis.label_of_evaluate heval]

lemma pass_cons_of_error {e : TheoryError}
    (heval : h.evaluate journal = (.error e, after, journal')) :
    pass label (h :: rest) verdict ledger journal =
      ⟨.error e, after :: rest,
        (ledger.count .error).note (.evaluationAborted label h.label e.code e.message), journal'⟩ := by
  simp only [pass, heval, Hypothesis.label_of_evaluate heval]

lemma observe_eq_outcome {trial : Trial} {calls : Journal}
    (hverdict : trial.before.evaluate journal = (.ok trial.passed, trial.after, calls)) :
    Outcome.observe trial.after trial.passed = trial.outcome := by
  obtain ⟨hindex, hname⟩ := Hypothesis.tag_of_evaluate hverdict
  simp only [Outcome.observe, Trial.outcome, hindex, hname]

/-- A pass gets through the hypotheses that come to a verdict, and goes on with the rest. -/
lemma pass_append (label : String) (rest : List Hypothesis) (verdict : Bool) (ledger : Ledger)
    {trials : List Trial} (tried : Tried journal trials) :
    pass label (trials.map Trial.before ++ rest) verdict ledger journal =
      let p := pass label rest (trials.all Trial.passed && verdict) (trials.foldl Trial.book ledger)
        (journal ++ trials.flatMap Trial.calls)
      { p with
        result := p.result.map fun (verdict, outcomes) =>
          (verdict, trials.map Trial.outcome ++ outcomes)
        hypotheses := trials.map Trial.after ++ p.hypotheses } := by
  induction tried generalizing verdict ledger with
  | nil =>
    simp only [List.map_nil, List.nil_append, List.all_nil, Bool.true_and, List.foldl_nil,
      List.flatMap_nil, List.append_nil]
    cases pass label rest verdict ledger _ with
    | mk result => cases result <;> rfl
  | @cons journal trial trials hverdict _ ih =>
    -- the pass adds verdicts in front, the list of trials is read from the front
    have hbool : (trials.all Trial.passed && (trial.passed && verdict)) =
        ((trial.passed && trials.all Trial.passed) && verdict) := by
      rw [Bool.and_left_comm, Bool.and_assoc]
    rw [List.map_cons, List.cons_append, pass_cons_of_ok hverdict, ih]
    simp only [List.all_cons, List.foldl_cons, List.flatMap_cons, List.map_cons, List.cons_append,
      hbool, ← List.append_assoc, observe_eq_outcome hverdict, Trial.book]
    cases (pass label rest _ _ _).result <;> rfl

/-- The rules of an evaluation of a theory: what it returns, the theory it leaves, and the calls
that are made. -/
inductive Reports (t : Theory) (journal : Journal) :
    Except TheoryError Report → Theory → List Call → Prop
  /-- When all hypotheses come to a verdict, each is reported, and the verdict of the theory is
  that all of them passed. -/
  | complete {trials : List Trial} (all : t.hypotheses = trials.map Trial.before)
      (tried : Tried journal trials) :
      t.Reports journal
        (.ok ⟨t.name, trials.all Trial.passed, trials.map Trial.outcome⟩)
        { t with
          hypotheses := trials.map Trial.after
          ledger := (trials.foldl Trial.book t.begun).note
            (.evaluationComplete t.label (trials.all Trial.passed)) }
        (trials.flatMap Trial.calls)
  /-- The first hypothesis that comes to no verdict ends the evaluation with its own error. The
  hypotheses behind it are left as they are. -/
  | aborted {trials : List Trial} {h failed : Hypothesis} {rest : List Hypothesis}
      {e : TheoryError} {last : List Call}
      (split : t.hypotheses = trials.map Trial.before ++ h :: rest) (tried : Tried journal trials)
      (fails : h.evaluate (journal ++ trials.flatMap Trial.calls) =
        (.error e, failed, journal ++ trials.flatMap Trial.calls ++ last)) :
      t.Reports journal (.error e)
        { t with
          hypotheses := trials.map Trial.after ++ failed :: rest
          ledger := ((trials.foldl Trial.book t.begun).count .error).note
            (.evaluationAborted t.label h.label e.code e.message) }
        (trials.flatMap Trial.calls ++ last)

lemma report_of_reports {t after : Theory} {result : Except TheoryError Report}
    {calls : List Call} (h : t.Reports journal result after calls) :
    t.report journal = (result, after, journal ++ calls) := by
  cases h with
  | @complete trials all tried =>
    have hpass := pass_append t.label [] true t.begun tried
    rw [List.append_nil, ← all] at hpass
    simp only [pass, Except.map, Bool.and_true, List.append_nil] at hpass
    simp only [report, hpass]
  | @aborted trials h failed rest e last split tried fails =>
    have hpass := pass_append t.label (h :: rest) true t.begun tried
    rw [pass_cons_of_error fails, ← split] at hpass
    simp only [Except.map] at hpass
    simp only [report, hpass, List.append_assoc]

lemma exists_reports (t : Theory) (journal : Journal) :
    ∃ result after calls, t.Reports journal result after calls := by
  rcases tried_or_fails t.hypotheses journal with ⟨trials, all, tried⟩ |
    ⟨trials, h, rest, e, failed, last, split, tried, fails⟩
  · exact ⟨_, _, _, .complete all tried⟩
  · exact ⟨_, _, _, .aborted split tried fails⟩

/-- Evaluating a theory does exactly what the rules say, with a report and with a bare verdict. -/
theorem report_eq_iff (t after : Theory) (journal journal' : Journal) :
    (∀ result, t.report journal = (result, after, journal') ↔
      ∃ calls, journal' = journal ++ calls ∧ t.Reports journal result after calls) ∧
    (∀ verdict, t.evaluate journal = (verdict, after, journal') ↔
      ∃ result calls, verdict = result.map Report.verdict ∧ journal' = journal ++ calls ∧
        t.Reports journal result after calls) := by
  obtain ⟨result₀, after₀, calls₀, hrules⟩ := t.exists_reports journal
  have hreport := report_of_reports hrules
  constructor
  · intro result
    constructor
    · intro h
      rw [hreport] at h
      simp only [Prod.mk.injEq] at h
      obtain ⟨rfl, rfl, rfl⟩ := h
      exact ⟨calls₀, rfl, hrules⟩
    · rintro ⟨calls, rfl, h⟩
      exact report_of_reports h
  · intro verdict
    constructor
    · intro h
      rw [evaluate, hreport] at h
      simp only [Prod.mk.injEq] at h
      obtain ⟨rfl, rfl, rfl⟩ := h
      exact ⟨result₀, calls₀, rfl, rfl, hrules⟩
    · rintro ⟨result, calls, rfl, rfl, h⟩
      rw [evaluate, report_of_reports h]

end Theory

end Postulate
