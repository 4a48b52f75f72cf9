import Postulate.Proofs.Theory.Turns

/-!
# One verdict at most

A theory has no mark of its own that would say that it has been evaluated; its hypotheses have, and
they keep it. A pass comes to a verdict only when it finds none of them evaluated, and leaves all of
them evaluated when it does. So a theory in which anything has been evaluated comes to no verdict
any more, whatever is done with it later, and a run sees one verdict at most of a theory that has
hypotheses. All this is `Theory.one_verdict_at_most`.
-/

namespace Postulate

namespace Hypothesis

/-- The mark of the entry ends an evaluation before anything happens. -/
lemma evaluate_of_isEvaluated {h : Hypothesis} (heval : h.isEvaluated = true) (journal : Journal) :
    h.evaluate journal = (.error (.clause .alreadyEvaluated), h, journal) := by
  cases hchain : h.chain with
  | none => simp [isEvaluated, hchain] at heval
  | some c =>
    have hc : c.isEvaluated = true := by simpa [isEvaluated, hchain] using heval
    simp only [evaluate, hchain, Chain.evaluate_of_isEvaluated hc]
    rw [← hchain]
    rfl

/-- What comes to a verdict has a chain, was not evaluated before, and is afterwards. -/
lemma of_evaluate_eq_ok {h after : Hypothesis} {journal journal' : Journal} {passed : Bool}
    (heval : h.evaluate journal = (.ok passed, after, journal')) :
    h.isSupposed = true ∧ h.isEvaluated = false ∧ after.isEvaluated = true := by
  have hsupposed : h.isSupposed = true := by
    by_contra hs
    rw [evaluate_of_chain_eq_none (by simpa [isSupposed] using hs)] at heval
    simp at heval
  have hafter := h.isEvaluated_evaluate journal
  rw [heval, hsupposed] at hafter
  refine ⟨hsupposed, ?_, hafter⟩
  by_contra hevaluated
  rw [evaluate_of_isEvaluated (by simpa using hevaluated)] at heval
  simp at heval

end Hypothesis

namespace Theory

lemma isEvaluated_of_tried {journal : Journal} {trials : List Trial}
    (tried : Tried journal trials) :
    ∀ trial ∈ trials, trial.before.isSupposed = true ∧ trial.before.isEvaluated = false ∧
      trial.after.isEvaluated = true := by
  induction tried with
  | nil => simp
  | cons verdict _ ih => simpa using ⟨Hypothesis.of_evaluate_eq_ok verdict, by simpa using ih⟩

variable {t u : Theory} {journal : Journal} {calls : List Call}

/-- The number of hypotheses that have been evaluated. -/
def evaluatedCount (t : Theory) : Nat := t.hypotheses.countP Hypothesis.isEvaluated

lemma isEvaluated_iff_evaluatedCount_pos : t.isEvaluated = true ↔ 0 < t.evaluatedCount := by
  rw [Theory.isEvaluated, List.any_eq_true, evaluatedCount, List.countP_pos_iff]

lemma Becomes.evaluatedCount_le (h : t.Becomes u) : t.evaluatedCount ≤ u.evaluatedCount :=
  Persist.countP_le (fun _ _ => Hypothesis.Becomes.isEvaluated) h

/-- Once a hypothesis is evaluated, some hypothesis is evaluated for good. -/
lemma Becomes.isEvaluated (h : t.Becomes u) (heval : t.isEvaluated = true) :
    u.isEvaluated = true := by
  rw [isEvaluated_iff_evaluatedCount_pos] at heval ⊢
  exact Nat.lt_of_lt_of_le heval h.evaluatedCount_le

/-- A theory in which something is evaluated comes to no verdict. -/
lemma error_of_isEvaluated {result : Except TheoryError Report}
    (h : t.Reports journal result u calls) (heval : t.isEvaluated = true) :
    ∃ e, result = .error e := by
  cases h with
  | complete all tried =>
    rw [Theory.isEvaluated, all, List.any_map, List.any_eq_true] at heval
    obtain ⟨trial, htrial, hevaluated⟩ := heval
    have hbefore := (isEvaluated_of_tried tried trial htrial).2.1
    simp [hbefore] at hevaluated
  | aborted => exact ⟨_, rfl⟩

/-! ## The first hypothesis -/

/-- The first hypothesis is there, and it is evaluated. -/
def StartsEvaluated (t : Theory) : Prop :=
  ∃ h, t.hypotheses[0]? = some h ∧ h.isEvaluated = true

lemma Becomes.startsEvaluated (h : t.Becomes u) (ht : t.StartsEvaluated) : u.StartsEvaluated := by
  obtain ⟨k, hk, heval⟩ := ht
  obtain ⟨g, hg, hkg⟩ := Persist.getElem? h hk
  exact ⟨g, hg, hkg.isEvaluated heval⟩

/-- An evaluated hypothesis at the first place ends a pass at once. -/
lemma result_of_startsEvaluated (ht : t.StartsEvaluated) (journal : Journal) :
    (t.report journal).1 = .error (.clause .alreadyEvaluated) := by
  obtain ⟨h, hfirst, heval⟩ := ht
  obtain ⟨rest, hrest⟩ : ∃ rest, t.hypotheses = h :: rest := by
    cases hlist : t.hypotheses with
    | nil => simp [hlist] at hfirst
    | cons k rest => exact ⟨rest, by simpa [hlist] using hfirst⟩
  simp only [report, hrest, pass_cons_of_error (Hypothesis.evaluate_of_isEvaluated heval journal)]

/-- After a verdict, the first hypothesis, if there is one, is evaluated. -/
lemma startsEvaluated_of_ok {r : Report} (h : t.Reports journal (.ok r) u calls)
    (nonempty : t.hypotheses ≠ []) : u.StartsEvaluated := by
  cases h with
  | @complete trials all tried =>
    cases trials with
    | nil => exact absurd all nonempty
    | cons trial trials =>
      exact ⟨trial.after, rfl, (isEvaluated_of_tried tried trial List.mem_cons_self).2.2⟩

/-- After a failed evaluation of a theory in which nothing was evaluated, something is evaluated
exactly if the first hypothesis had a chain. -/
lemma isEvaluated_of_error {e : TheoryError} (h : t.Reports journal (.error e) u calls)
    (fresh : t.isEvaluated = false) :
    u.isEvaluated = false ↔ ∃ h, t.hypotheses[0]? = some h ∧ h.isSupposed = false := by
  cases h with
  | @aborted trials h failed rest e last split tried fails =>
    cases trials with
    | nil =>
      -- the first hypothesis has failed; it is evaluated if there was anything to evaluate
      have hfailed := h.isEvaluated_evaluate (journal ++ List.flatMap Trial.calls [])
      rw [fails] at hfailed
      have hrest : rest.any Hypothesis.isEvaluated = false := by
        rw [Theory.isEvaluated, split, List.map_nil, List.nil_append, List.any_cons,
          Bool.or_eq_false_iff] at fresh
        exact fresh.2
      simp only [Theory.isEvaluated, split, List.map_nil, List.nil_append, List.any_cons, hrest,
        Bool.or_false, hfailed, List.getElem?_cons_zero, Option.some.injEq, exists_eq_left']
    | cons trial trials =>
      -- the first hypothesis has come to a verdict
      obtain ⟨hsupposed, -, hafter⟩ := isEvaluated_of_tried tried trial List.mem_cons_self
      simp [Theory.isEvaluated, split, hafter, hsupposed]

end Theory

/-! ## The law -/

/-- The turn evaluates a theory that has hypotheses, and comes to a verdict. -/
def Turn.concludes (turn : Turn) : Bool :=
  turn.command.isEvaluation && !turn.before.hypotheses.isEmpty && turn.result.isOk

namespace Turn

variable {turn : Turn}

/-- Before the verdict nothing was evaluated, and after it the first hypothesis is. -/
lemma startsEvaluated_of_concludes (h : turn.concludes = true) : turn.after.StartsEvaluated := by
  simp only [concludes, Bool.and_eq_true, Bool.not_eq_true', List.isEmpty_eq_false_iff] at h
  obtain ⟨⟨isEvaluation, nonempty⟩, isOk⟩ := h
  obtain ⟨result, calls, rules, heq⟩ := turn.performs.reports isEvaluation
  cases result with
  | error e => simp [heq, Except.map, Except.isOk, Except.toBool] at isOk
  | ok r => exact Theory.startsEvaluated_of_ok rules nonempty

lemma result_of_startsEvaluated (h : turn.before.StartsEvaluated)
    (isEvaluation : turn.command.isEvaluation = true) :
    turn.result = .error (.clause .alreadyEvaluated) := by
  obtain ⟨result, calls, rules, heq⟩ := turn.performs.reports isEvaluation
  have hresult := Theory.result_of_startsEvaluated h turn.journal
  rw [Theory.report_of_reports rules] at hresult
  have hresult : result = .error (.clause .alreadyEvaluated) := hresult
  rw [heq, hresult]
  rfl

lemma not_concludes_of_startsEvaluated (h : turn.before.StartsEvaluated) :
    turn.concludes = false := by
  by_cases isEvaluation : turn.command.isEvaluation = true
  · simp [concludes, result_of_startsEvaluated h isEvaluation, Except.isOk, Except.toBool]
  · simp [concludes, isEvaluation]

end Turn

namespace Theory

/-- In a run, at most one evaluation of a theory with hypotheses comes to a verdict. -/
lemma countP_concludes_le_one (commands : List Command) (t : Theory) (journal : Journal) :
    (turns commands t journal).countP Turn.concludes ≤ 1 := by
  induction commands generalizing t journal with
  | nil => simp [turns]
  | cons command commands ih =>
    let turn : Turn := ⟨t, command, journal⟩
    have hturns : turns (command :: commands) t journal =
        turn :: turns commands turn.after turn.left := rfl
    rw [hturns, List.countP_cons]
    by_cases h : turn.concludes = true
    · -- the first hypothesis is evaluated from then on, so no later turn concludes
      have hlater : ∀ other ∈ turns commands turn.after turn.left, other.before.StartsEvaluated :=
        before_of_mem_turns (fun _ _ => Becomes.startsEvaluated)
          (Turn.startsEvaluated_of_concludes h)
      have hnone : (turns commands turn.after turn.left).countP Turn.concludes = 0 := by
        refine List.countP_eq_zero.mpr fun other hother => ?_
        simp [Turn.not_concludes_of_startsEvaluated (hlater other hother)]
      simp [hnone, h]
    · rw [if_neg h]
      exact ih turn.after turn.left

/-- A theory comes to one verdict at most. With any hypothesis evaluated, every evaluation fails,
now and after whatever is done later. In any run, at most one evaluation of a theory with hypotheses
comes to a verdict, and all evaluations after it fail because it was evaluated already. And an
evaluation that fails leaves nothing evaluated, where nothing was, exactly if the first hypothesis
had no chain. -/
theorem one_verdict_at_most (t : Theory) (commands : List Command) (journal : Journal) :
    (t.isEvaluated = true → ∀ turn ∈ turns commands t journal,
      turn.command.isEvaluation = true → ∃ e, turn.result = .error e) ∧
    (turns commands t journal).countP Turn.concludes ≤ 1 ∧
    (∀ passed turn later, turns commands t journal = passed ++ turn :: later →
      turn.concludes = true → ∀ next ∈ later, next.command.isEvaluation = true →
        next.result = .error (.clause .alreadyEvaluated)) ∧
    ∀ turn ∈ turns commands t journal, ∀ e, turn.command.isEvaluation = true →
      turn.before.isEvaluated = false → turn.result = .error e →
        (turn.after.isEvaluated = false ↔
          ∃ h, turn.before.hypotheses[0]? = some h ∧ h.isSupposed = false) := by
  refine ⟨?_, countP_concludes_le_one commands t journal, ?_, ?_⟩
  · intro heval turn hturn isEvaluation
    have hbefore := before_of_mem_turns (fun _ _ => Becomes.isEvaluated) heval turn hturn
    obtain ⟨result, calls, rules, heq⟩ := turn.performs.reports isEvaluation
    obtain ⟨e, rfl⟩ := error_of_isEvaluated rules hbefore
    exact ⟨e, heq⟩
  · intro passed turn later split concludes next hnext isEvaluation
    obtain ⟨rest, rfl⟩ := exists_turns_of_split split
    have hbefore := before_of_mem_turns (fun _ _ => Becomes.startsEvaluated)
      (Turn.startsEvaluated_of_concludes concludes) next hnext
    exact Turn.result_of_startsEvaluated hbefore isEvaluation
  · intro turn _ e isEvaluation fresh fails
    obtain ⟨result, calls, rules, heq⟩ := turn.performs.reports isEvaluation
    cases result with
    | error e' => exact isEvaluated_of_error rules fresh
    | ok r => simp [heq, Except.map] at fails

/-- A theory that was evaluated, with a hypothesis added since, comes to no verdict any more. The
evaluations after its report fail because of it. And an evaluation that fails at a first hypothesis
without a chain leaves nothing evaluated. -/
theorem no_verdict_after_report :
    let supposed : Command := .suppose none (.ofSupposition "p" fun _ => true)
    let t := (run [supposed, .report] {} []).2.1
    (t.isEvaluated = true ∧ ∀ turn ∈ turns [.add (some "late"), .evaluate, .report] t [],
      turn.command.isEvaluation = true → ∃ e, turn.result = .error e) ∧
    (∃ passed turn later, turns [supposed, .report, .evaluate] {} [] = passed ++ turn :: later ∧
      turn.concludes = true ∧ ∀ next ∈ later, next.command.isEvaluation = true →
        next.result = .error (.clause .alreadyEvaluated)) ∧
    ∃ turn ∈ turns [.add none, .evaluate] {} [], ∃ e, turn.result = .error e ∧
      turn.after.isEvaluated = false := by
  intro supposed t
  refine ⟨⟨rfl, (one_verdict_at_most _ _ _).1 rfl⟩, ?_, ?_⟩
  · let first : Turn := ⟨{}, supposed, []⟩
    let second : Turn := ⟨first.after, .report, first.left⟩
    let third : Turn := ⟨second.after, .evaluate, second.left⟩
    refine ⟨[first], second, [third], rfl, rfl, ?_⟩
    exact (one_verdict_at_most {} [supposed, .report, .evaluate] []).2.2.1 [first] second [third]
      rfl rfl
  · let first : Turn := ⟨{}, .add none, []⟩
    let second : Turn := ⟨first.after, .evaluate, first.left⟩
    have hmem : second ∈ turns [.add none, .evaluate] {} [] := by
      simp [turns, second, first]
    have hfailed := (one_verdict_at_most {} [.add none, .evaluate] []).2.2.2 second hmem _
      rfl rfl rfl
    exact ⟨second, hmem, _, rfl, hfailed.mpr ⟨_, rfl, rfl⟩⟩

end Theory

end Postulate
