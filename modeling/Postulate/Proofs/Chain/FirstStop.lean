import Mathlib.Tactic.Lemma
import Postulate.Chain.Focus

/-!
# The first stopping clause

An evaluation goes through the clauses of a chain in the order of linking, from the clause it is
called on, until a clause stops it. A clause stops an evaluation when it carries the mark, when its
value has to be read and cannot be, and when its check does not hold of the value read; any other
clause is passed. This file says in rules, without the recursion of `Chain.evaluateFrom`, what a
clause does to an evaluation that comes to it (`Clause.Passes`, `Clause.Stops`) and what the whole
evaluation does (`Focus.Evaluates`). The rules give the calls that are made, one by one and in
order, and every clause as it is afterwards. The main result is `Focus.evaluate_eq_iff`: the rules
and the recursion agree.
-/

namespace Postulate

namespace Clause

/-- An evaluation that comes to the clause goes on behind it, after the given calls. A check takes
one read of the value and is asked about the value read. -/
inductive Passes (c : Clause) (journal : Journal) : List Call → Prop
  | unchecked (fresh : c.evaluated = false) (noCheck : c.check = none) : c.Passes journal []
  | checked {check : Check c.type} {value : c.type.Carrier} (fresh : c.evaluated = false)
      (hasCheck : c.check = some check) (readable : (c.source.read journal).1 = .ok value)
      (holds : check.holds value (journal ++ c.source.calls journal) = true) :
      c.Passes journal (c.source.calls journal ++ [check.call value true])

/-- An evaluation that comes to the clause ends there with a result, after the given calls. -/
inductive Stops (c : Clause) (journal : Journal) : Except ClauseError Bool → List Call → Prop
  | marked (seen : c.evaluated = true) : c.Stops journal (.error .alreadyEvaluated) []
  | unreadable {check : Check c.type} {e : ConversionError} (fresh : c.evaluated = false)
      (hasCheck : c.check = some check) (unreadable : (c.source.read journal).1 = .error e) :
      c.Stops journal (.error (.conversion e)) (c.source.calls journal)
  | refused {check : Check c.type} {value : c.type.Carrier} (fresh : c.evaluated = false)
      (hasCheck : c.check = some check) (readable : (c.source.read journal).1 = .ok value)
      (fails : check.holds value (journal ++ c.source.calls journal) = false) :
      c.Stops journal (.ok false) (c.source.calls journal ++ [check.call value false])

variable {c : Clause} {journal : Journal} {calls : List Call} {result : Except ClauseError Bool}

lemma evaluated_of_passes (h : c.Passes journal calls) : c.evaluated = false := by
  cases h with
  | unchecked fresh => exact fresh
  | checked fresh => exact fresh

/-- What a read gives and leaves, once its answer is known. -/
lemma read_eq {t : ValueType} {s : Source t} {answer : Except ConversionError t.Carrier}
    (h : (s.read journal).1 = answer) : s.read journal = (answer, journal ++ s.calls journal) := by
  rw [← h, ← s.journal_read journal]

lemma test_of_passes (h : c.Passes journal calls) :
    c.test journal = (.ok true, journal ++ calls) := by
  cases h with
  | unchecked _ noCheck =>
    rw [test_of_check_eq_none noCheck, List.append_nil]
  | checked _ hasCheck readable holds =>
    simp only [test, hasCheck, read_eq readable, Check.ask, holds, List.append_assoc]

/-- Every clause either lets an evaluation pass or stops it. -/
lemma passes_or_stops (c : Clause) (journal : Journal) :
    (∃ calls, c.Passes journal calls) ∨ ∃ result calls, c.Stops journal result calls := by
  cases fresh : c.evaluated with
  | true => exact Or.inr ⟨_, _, .marked fresh⟩
  | false =>
    cases hasCheck : c.check with
    | none => exact Or.inl ⟨_, .unchecked fresh hasCheck⟩
    | some check =>
      cases hread : (c.source.read journal).1 with
      | error e => exact Or.inr ⟨_, _, .unreadable fresh hasCheck hread⟩
      | ok value =>
        cases holds : check.holds value (journal ++ c.source.calls journal) with
        | true => exact Or.inl ⟨_, .checked fresh hasCheck hread holds⟩
        | false => exact Or.inr ⟨_, _, .refused fresh hasCheck hread holds⟩

end Clause

/-- An evaluation passes all clauses of a list, one after the other. -/
inductive AllPass : List Clause → Journal → List Call → Prop
  | nil {journal : Journal} : AllPass [] journal []
  | cons {c : Clause} {rest : List Clause} {journal : Journal} {calls more : List Call}
      (head : c.Passes journal calls) (tail : AllPass rest (journal ++ calls) more) :
      AllPass (c :: rest) journal (calls ++ more)

/-- A list of clauses is passed as a whole, or has a first clause that stops the evaluation. -/
lemma allPass_or_stops (clauses : List Clause) (journal : Journal) :
    (∃ calls, AllPass clauses journal calls) ∨
      ∃ passed k rest calls result last, clauses = passed ++ k :: rest ∧
        AllPass passed journal calls ∧ k.Stops (journal ++ calls) result last := by
  induction clauses generalizing journal with
  | nil => exact Or.inl ⟨[], .nil⟩
  | cons c clauses ih =>
    -- when the first clause is passed, the others are asked from the journal that it left
    rcases c.passes_or_stops journal with ⟨calls, head⟩ | ⟨result, last, stop⟩
    · rcases ih (journal ++ calls) with ⟨more, tail⟩ | ⟨passed, k, rest, more, result, last, hsplit,
        tail, stop⟩
      · exact Or.inl ⟨_, .cons head tail⟩
      · refine Or.inr ⟨c :: passed, k, rest, calls ++ more, result, last, ?_, .cons head tail, ?_⟩
        · rw [hsplit, List.cons_append]
        · rwa [← List.append_assoc]
    · exact Or.inr ⟨[], c, clauses, [], result, last, rfl, .nil, by rwa [List.append_nil]⟩

namespace Chain

variable {entry : Clause} {later : List Clause} {journal : Journal} {calls : List Call}
  {result : Except ClauseError Bool}

/-- A chain is the list of its clauses. -/
lemma eq_of_clauses {c d : Chain} (h : c.clauses = d.clauses) : c = d := by
  obtain ⟨entry, later⟩ := c
  obtain ⟨entry', later'⟩ := d
  simp only [clauses_mk, List.cons.injEq] at h
  rw [h.1, h.2]

lemma evaluateFrom_of_stops (h : entry.Stops journal result calls) :
    evaluateFrom entry later journal = ⟨result, ⟨entry.marked, later⟩, journal ++ calls⟩ := by
  cases h with
  | marked seen =>
    have hmarked : entry.marked = entry := by
      cases entry
      simp_all [Clause.marked]
    rw [evaluateFrom, if_pos seen, hmarked, List.append_nil]
  | unreadable fresh hasCheck unreadable =>
    rw [evaluateFrom]
    simp only [fresh, Clause.test, hasCheck, Clause.read_eq unreadable, Bool.false_eq_true, if_false]
  | refused fresh hasCheck readable fails =>
    rw [evaluateFrom]
    simp only [fresh, Clause.test, hasCheck, Clause.read_eq readable, Check.ask, fails,
      Bool.false_eq_true, if_false, List.append_assoc]

lemma evaluateFrom_last_of_passes (h : entry.Passes journal calls) :
    evaluateFrom entry [] journal = ⟨.ok true, ⟨entry.marked, []⟩, journal ++ calls⟩ := by
  rw [evaluateFrom]
  simp only [Clause.evaluated_of_passes h, Clause.test_of_passes h, Bool.false_eq_true, if_false]

lemma evaluateFrom_cons_of_passes {next : Clause} (h : entry.Passes journal calls) :
    evaluateFrom entry (next :: later) journal =
      let rest := evaluateFrom next later (journal ++ calls)
      ⟨rest.verdict, ⟨entry.marked, rest.chain.clauses⟩, rest.journal⟩ := by
  rw [evaluateFrom]
  simp only [Clause.evaluated_of_passes h, Clause.test_of_passes h, Bool.false_eq_true, if_false]

lemma evaluateFrom_of_allPass (h : AllPass (entry :: later) journal calls) :
    evaluateFrom entry later journal =
      ⟨.ok true, ⟨entry.marked, later.map Clause.marked⟩, journal ++ calls⟩ := by
  induction later generalizing entry journal calls with
  | nil =>
    cases h with
    | cons head tail =>
      cases tail with
      | nil => rw [evaluateFrom_last_of_passes head, List.append_nil, List.map_nil]
  | cons next later ih =>
    cases h with
    | cons head tail =>
      rw [evaluateFrom_cons_of_passes head, ih tail, List.append_assoc]
      rfl

/-- The clauses before the first that stops the evaluation get the mark, and so does that one. -/
lemma evaluate_of_stops {c : Chain} {passed rest : List Clause} {k : Clause} {last : List Call}
    (split : c.clauses = passed ++ k :: rest) (before : AllPass passed journal calls)
    (stop : k.Stops (journal ++ calls) result last) :
    ∃ d : Chain, d.clauses = passed.map Clause.marked ++ k.marked :: rest ∧
      c.evaluate journal = ⟨result, d, journal ++ (calls ++ last)⟩ := by
  induction passed generalizing c journal calls with
  | nil =>
    obtain ⟨entry, later⟩ := c
    obtain ⟨rfl, rfl⟩ : entry = k ∧ later = rest := by simpa using split
    cases before with
    | nil =>
      rw [List.append_nil] at stop
      exact ⟨⟨entry.marked, later⟩, rfl, evaluateFrom_of_stops stop⟩
  | cons first passed ih =>
    obtain ⟨entry, later⟩ := c
    obtain ⟨rfl, hlater⟩ : entry = first ∧ later = passed ++ k :: rest := by simpa using split
    cases before with
    | @cons _ _ _ calls more head tail =>
      -- the clause behind the first one, whichever it is, starts the rest of the evaluation
      obtain ⟨next, others, hnext⟩ : ∃ next others, later = next :: others := by
        cases later with
        | nil => simp at hlater
        | cons next others => exact ⟨next, others, rfl⟩
      subst hnext
      rw [← List.append_assoc] at stop
      obtain ⟨d, hd, heval⟩ := ih (c := ⟨next, others⟩) hlater tail stop
      refine ⟨⟨entry.marked, d.clauses⟩, by rw [clauses_mk, hd, List.map_cons, List.cons_append], ?_⟩
      have heval' : evaluateFrom next others (journal ++ calls) =
          ⟨result, d, journal ++ calls ++ (more ++ last)⟩ := heval
      change evaluateFrom entry (next :: others) journal = _
      rw [evaluateFrom_cons_of_passes head, heval']
      simp only [List.append_assoc]

lemma evaluate_of_allPass {c : Chain} (h : AllPass c.clauses journal calls) :
    ∃ d : Chain, d.clauses = c.clauses.map Clause.marked ∧
      c.evaluate journal = ⟨.ok true, d, journal ++ calls⟩ :=
  ⟨⟨c.entry.marked, c.later.map Clause.marked⟩, rfl, evaluateFrom_of_allPass h⟩

/-- Evaluating only adds to the journal. -/
lemma exists_journal_evaluate (c : Chain) (journal : Journal) :
    ∃ calls, (c.evaluate journal).journal = journal ++ calls := by
  rcases allPass_or_stops c.clauses journal with ⟨calls, all⟩ |
    ⟨passed, k, rest, calls, result, last, split, before, stop⟩
  · obtain ⟨d, -, heval⟩ := evaluate_of_allPass all
    exact ⟨calls, by rw [heval]⟩
  · obtain ⟨d, -, heval⟩ := evaluate_of_stops split before stop
    exact ⟨calls ++ last, by rw [heval]⟩

end Chain

namespace Focus

/-- The rules of an evaluation from the clause in focus onward: its result, the chain as it is
afterwards, seen from the same clause, and the calls that were made. -/
inductive Evaluates (f : Focus) (journal : Journal) :
    Except ClauseError Bool → Focus → List Call → Prop
  /-- The first clause that stops the evaluation decides it. It is marked, like the clauses from
  the one in focus up to it; all other clauses are as before. -/
  | stopped {passed rest : List Clause} {k : Clause} {calls last : List Call}
      {result : Except ClauseError Bool} {after : Focus}
      (split : f.onward.clauses = passed ++ k :: rest) (before : AllPass passed journal calls)
      (stop : k.Stops (journal ++ calls) result last) (untouched : after.before = f.before)
      (marked : after.onward.clauses = passed.map Clause.marked ++ k.marked :: rest) :
      f.Evaluates journal result after (calls ++ last)
  /-- When no clause stops it, the chain holds, and all clauses from the one in focus are
  marked. -/
  | completed {calls : List Call} {after : Focus} (all : AllPass f.onward.clauses journal calls)
      (untouched : after.before = f.before)
      (marked : after.onward.clauses = f.onward.clauses.map Clause.marked) :
      f.Evaluates journal (.ok true) after calls

lemma evaluate_eq (f : Focus) {journal journal' : Journal} {c : Chain}
    {result : Except ClauseError Bool} (h : f.onward.evaluate journal = ⟨result, c, journal'⟩) :
    f.evaluate journal = (result, ⟨f.before, c⟩, journal') := by
  rw [evaluate, h]

lemma evaluate_of_evaluates {f after : Focus} {journal : Journal}
    {result : Except ClauseError Bool} {calls : List Call}
    (h : f.Evaluates journal result after calls) :
    f.evaluate journal = (result, after, journal ++ calls) := by
  obtain ⟨afterBefore, afterOnward⟩ := after
  cases h with
  | stopped split before stop untouched marked =>
    obtain ⟨d, hd, heval⟩ := Chain.evaluate_of_stops split before stop
    obtain rfl : d = afterOnward := Chain.eq_of_clauses (hd.trans marked.symm)
    rw [f.evaluate_eq heval, ← untouched]
  | completed all untouched marked =>
    obtain ⟨d, hd, heval⟩ := Chain.evaluate_of_allPass all
    obtain rfl : d = afterOnward := Chain.eq_of_clauses (hd.trans marked.symm)
    rw [f.evaluate_eq heval, ← untouched]

lemma exists_evaluates (f : Focus) (journal : Journal) :
    ∃ result after calls, f.Evaluates journal result after calls := by
  rcases allPass_or_stops f.onward.clauses journal with ⟨calls, all⟩ |
    ⟨passed, k, rest, calls, result, last, split, before, stop⟩
  · obtain ⟨d, hd, -⟩ := Chain.evaluate_of_allPass all
    exact ⟨_, ⟨f.before, d⟩, _, .completed all rfl hd⟩
  · obtain ⟨d, hd, -⟩ := Chain.evaluate_of_stops split before stop
    exact ⟨_, ⟨f.before, d⟩, _, .stopped split before stop rfl hd⟩

/-- Evaluating a chain from any of its clauses does exactly what the rules say: the first clause
that stops the evaluation decides the result, the marks and the calls. -/
theorem evaluate_eq_iff (f after : Focus) (journal journal' : Journal)
    (result : Except ClauseError Bool) :
    f.evaluate journal = (result, after, journal') ↔
      ∃ calls, journal' = journal ++ calls ∧ f.Evaluates journal result after calls := by
  constructor
  · intro h
    obtain ⟨result₀, after₀, calls, hrules⟩ := f.exists_evaluates journal
    have heval := evaluate_of_evaluates hrules
    rw [h] at heval
    simp only [Prod.mk.injEq] at heval
    obtain ⟨rfl, rfl, rfl⟩ := heval
    exact ⟨calls, rfl, hrules⟩
  · rintro ⟨calls, rfl, hrules⟩
    exact evaluate_of_evaluates hrules

end Focus

end Postulate
