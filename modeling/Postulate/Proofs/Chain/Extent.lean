import Mathlib.Data.List.Count
import Postulate.Proofs.Chain.FirstStop

/-!
# How far an evaluation gets

An evaluation that comes to a verdict has either passed all clauses of the chain, and the chain
holds, or it has passed the clauses before the first one whose check fails, and ends there
(`Chain.FailsAt`). In the first case all clauses are marked afterwards. In the second the new marks
end with the clause that failed, but a clause behind it may have had its mark before. So the number
of marked clauses, which is all that is looked at afterwards, is the number of clauses that were
come to and of clauses marked before behind them (`Chain.evaluatedCount_of_failsAt`), and it falls
short of the length of the chain exactly if some clause behind the failing one has no mark
(`Chain.evaluatedCount_lt_iff_of_failsAt`).
-/

namespace Postulate

/-- No clause stops an evaluation with the verdict that the chain holds. -/
lemma Clause.ne_true_of_stops {k : Clause} {journal : Journal} {result : Except ClauseError Bool}
    {calls : List Call} (h : k.Stops journal result calls) : result ≠ .ok true := by
  cases h <;> simp

lemma countP_evaluated_map_marked (l : List Clause) :
    (l.map Clause.marked).countP Clause.evaluated = l.length := by
  rw [List.countP_eq_length.mpr, List.length_map]
  intro c hc
  obtain ⟨d, -, rfl⟩ := List.mem_map.mp hc
  exact d.evaluated_marked

namespace Chain

/-- An evaluation that begins with the calls in the journal passes the given clauses, the first of
the chain, and ends at the next one, whose check does not hold. -/
structure FailsAt (c : Chain) (now : Journal) (passed : List Clause) (k : Clause)
    (rest : List Clause) : Prop where
  split : c.clauses = passed ++ k :: rest
  fails : ∃ calls last, AllPass passed now calls ∧ k.Stops (now ++ calls) (.ok false) last

/-- A clause fails in the evaluation, and there are clauses behind it. -/
def IsCutShort (c : Chain) (now : Journal) : Prop :=
  ∃ passed k rest, c.FailsAt now passed k rest ∧ rest ≠ []

variable {c : Chain} {now : Journal} {passed rest : List Clause} {k : Clause}

lemma FailsAt.length_eq (h : c.FailsAt now passed k rest) :
    c.length = passed.length + 1 + rest.length := by
  rw [length, h.split, List.length_append, List.length_cons]
  omega

/-- The clause that fails gets the last of the new marks. -/
lemma evaluate_of_failsAt (h : c.FailsAt now passed k rest) :
    (c.evaluate now).verdict = .ok false ∧
      (c.evaluate now).chain.clauses = passed.map Clause.marked ++ k.marked :: rest := by
  obtain ⟨calls, last, before, stop⟩ := h.fails
  obtain ⟨d, hd, heval⟩ := evaluate_of_stops h.split before stop
  rw [heval]
  exact ⟨rfl, hd⟩

/-- A chain fails exactly if one of its clauses does. -/
lemma verdict_eq_false_iff :
    (c.evaluate now).verdict = .ok false ↔ ∃ passed k rest, c.FailsAt now passed k rest := by
  constructor
  · intro h
    rcases allPass_or_stops c.clauses now with ⟨calls, all⟩ |
      ⟨passed, k, rest, calls, result, last, split, before, stop⟩
    · obtain ⟨d, -, heval⟩ := evaluate_of_allPass all
      simp [heval] at h
    · obtain ⟨d, -, heval⟩ := evaluate_of_stops split before stop
      obtain rfl : result = .ok false := by simpa [heval] using h
      exact ⟨passed, k, rest, split, calls, last, before, stop⟩
  · rintro ⟨passed, k, rest, h⟩
    exact (evaluate_of_failsAt h).1

lemma clauses_of_verdict_true (h : (c.evaluate now).verdict = .ok true) :
    (c.evaluate now).chain.clauses = c.clauses.map Clause.marked := by
  rcases allPass_or_stops c.clauses now with ⟨calls, all⟩ |
    ⟨passed, k, rest, calls, result, last, split, before, stop⟩
  · obtain ⟨d, hd, heval⟩ := evaluate_of_allPass all
    rw [heval]
    exact hd
  · obtain ⟨d, -, heval⟩ := evaluate_of_stops split before stop
    have hresult : result = .ok true := by simpa [heval] using h
    exact absurd hresult (Clause.ne_true_of_stops stop)

/-! ## The number of marks -/

lemma evaluatedCount_of_verdict_true (h : (c.evaluate now).verdict = .ok true) :
    (c.evaluate now).chain.evaluatedCount = c.length := by
  rw [evaluatedCount, clauses_of_verdict_true h, countP_evaluated_map_marked, length]

/-- After a failure the clauses up to the failing one are marked, and those behind it that were
marked before. -/
lemma evaluatedCount_of_failsAt (h : c.FailsAt now passed k rest) :
    (c.evaluate now).chain.evaluatedCount =
      passed.length + 1 + rest.countP Clause.evaluated := by
  rw [evaluatedCount, (evaluate_of_failsAt h).2, List.countP_append, countP_evaluated_map_marked,
    List.countP_cons, if_pos k.evaluated_marked]
  omega

/-- Some clause is without a mark after a failure exactly if one behind the failing clause was. -/
lemma evaluatedCount_lt_iff_of_failsAt (h : c.FailsAt now passed k rest) :
    (c.evaluate now).chain.evaluatedCount < c.length ↔ ∃ d ∈ rest, d.evaluated = false := by
  rw [evaluatedCount_of_failsAt h, h.length_eq, ← List.countP_lt_length_iff]
  omega

/-- Where no clause was marked before, the number of marks is the place of the failing clause. -/
lemma evaluatedCount_of_fresh (h : c.FailsAt now passed k rest)
    (fresh : ∀ d ∈ c.clauses, d.evaluated = false) :
    (c.evaluate now).chain.evaluatedCount = passed.length + 1 := by
  have hrest : rest.countP Clause.evaluated = 0 := by
    refine List.countP_eq_zero.mpr fun d hd => ?_
    simp [fresh d (by simp [h.split, hd])]
  rw [evaluatedCount_of_failsAt h, hrest]

end Chain

end Postulate
