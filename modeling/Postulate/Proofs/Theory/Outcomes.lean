import Postulate.Proofs.Chain.Extent
import Postulate.Proofs.Theory.Counters
import Postulate.Proofs.Theory.Names

/-!
# What a report tells

The outcome of a hypothesis is observed when its evaluation is over: the verdict, and how many of
its clauses are marked by then (`Outcome.Observes`). When the chain holds, these are all clauses.
When a clause fails and no clause was marked before, they are the clauses up to the failing one.
But a builder can leave marks behind, on clauses that the evaluation never comes to, and these are
counted too. So a report counts right for every hypothesis that starts without marks
(`Theory.counts_of_report`), while the flag that a chain was cut short is raised only where some
clause behind the failing one has no mark at all (`Theory.flags_of_report`): it is silent about a
chain that was cut short in front of marked clauses (`Theory.early_mark_hides_cut`).
-/

namespace Postulate

/-! ## One outcome -/

/-- The outcome is what is observed of a hypothesis with the given chain, whose turn comes after the
calls in the journal. -/
structure Outcome.Observes (o : Outcome) (h : Hypothesis) (c : Chain) (now : Journal) : Prop where
  chain_eq : h.chain = some c
  label_eq : o.label = h.label
  verdict_eq : (c.evaluate now).verdict = .ok o.passed
  evaluated_eq : o.clausesEvaluated = (c.evaluate now).chain.evaluatedCount
  total_eq : o.clausesTotal = c.length

/-- What the flag of an outcome tells of the chain `c`, evaluated after the calls in `now`. -/
structure Outcome.TellsCut (o : Outcome) (c : Chain) (now : Journal) : Prop where
  /-- The flag is raised when a clause fails and some clause behind it has no mark. -/
  flag : o.isShortCircuited = true ↔
    ∃ passed k rest, c.FailsAt now passed k rest ∧ ∃ d ∈ rest, d.evaluated = false
  /-- A chain with a flag was cut short. -/
  sound : o.isShortCircuited = true → c.IsCutShort now
  /-- If no clause was marked before, a chain that was cut short has its flag. -/
  fresh : (∀ d ∈ c.clauses, d.evaluated = false) → c.IsCutShort now → o.isShortCircuited = true

/-- What the counts of an outcome tell of the chain `c`, evaluated after the calls in `now`. -/
structure Outcome.TellsCounts (o : Outcome) (c : Chain) (now : Journal) : Prop where
  verdict_eq : (c.evaluate now).verdict = .ok o.passed
  total_eq : o.clausesTotal = c.length
  /-- When the chain holds, all clauses are counted, whatever was marked before. -/
  passed : o.passed = true → o.clausesEvaluated = o.clausesTotal
  /-- The hypothesis fails exactly if some clause does, all clauses before it being passed. -/
  failed : o.passed = false ↔ ∃ passed k rest, c.FailsAt now passed k rest
  /-- If no clause was marked before, the clauses up to the failing one are counted. -/
  fresh : (∀ d ∈ c.clauses, d.evaluated = false) → ∀ passed k rest,
    c.FailsAt now passed k rest → o.clausesEvaluated = passed.length + 1

namespace Outcome.Observes

variable {o : Outcome} {h : Hypothesis} {c : Chain} {now : Journal}

/-- Observing a hypothesis after it has come to a verdict. -/
lemma of_evaluate {after : Hypothesis} {left : Journal} {passed : Bool}
    (heval : h.evaluate now = (.ok passed, after, left)) :
    ∃ c, (Outcome.observe after passed).Observes h c now := by
  have hlabel := Hypothesis.label_of_evaluate heval
  cases hchain : h.chain with
  | none =>
    rw [Hypothesis.evaluate_of_chain_eq_none hchain] at heval
    simp at heval
  | some c =>
    simp only [Hypothesis.evaluate, hchain, Prod.mk.injEq] at heval
    obtain ⟨hverdict, rfl, -⟩ := heval
    refine ⟨c, hchain, hlabel, ?_, rfl, c.length_evaluate now⟩
    cases hresult : (c.evaluate now).verdict with
    | error e => simp [hresult, Except.mapError] at hverdict
    | ok b => simpa [hresult, Except.mapError, Outcome.observe] using hverdict

lemma passed_eq_false_iff (obs : o.Observes h c now) :
    o.passed = false ↔ ∃ passed k rest, c.FailsAt now passed k rest := by
  rw [← Chain.verdict_eq_false_iff, obs.verdict_eq, Except.ok.injEq]

lemma clausesEvaluated_of_passed (obs : o.Observes h c now) (passed : o.passed = true) :
    o.clausesEvaluated = o.clausesTotal := by
  have hverdict := obs.verdict_eq
  rw [passed] at hverdict
  rw [obs.evaluated_eq, obs.total_eq, Chain.evaluatedCount_of_verdict_true hverdict]

lemma isShortCircuited_iff (obs : o.Observes h c now) :
    o.isShortCircuited = true ↔
      ∃ passed k rest, c.FailsAt now passed k rest ∧ ∃ d ∈ rest, d.evaluated = false := by
  rw [Outcome.isShortCircuited, decide_eq_true_eq]
  constructor
  · intro short
    have hfailed : o.passed = false := by
      by_contra passed
      have hall := obs.clausesEvaluated_of_passed (by simpa using passed)
      omega
    obtain ⟨passed, k, rest, fails⟩ := obs.passed_eq_false_iff.mp hfailed
    rw [obs.evaluated_eq, obs.total_eq] at short
    exact ⟨passed, k, rest, fails, (Chain.evaluatedCount_lt_iff_of_failsAt fails).mp short⟩
  · rintro ⟨passed, k, rest, fails, hrest⟩
    rw [obs.evaluated_eq, obs.total_eq]
    exact (Chain.evaluatedCount_lt_iff_of_failsAt fails).mpr hrest

lemma isCutShort_of_isShortCircuited (obs : o.Observes h c now)
    (short : o.isShortCircuited = true) : c.IsCutShort now := by
  obtain ⟨passed, k, rest, fails, d, hd, -⟩ := obs.isShortCircuited_iff.mp short
  exact ⟨passed, k, rest, fails, List.ne_nil_of_mem hd⟩

/-- Where no clause was marked before, any clause behind the failing one is without a mark. -/
lemma isShortCircuited_of_isCutShort (obs : o.Observes h c now)
    (fresh : ∀ d ∈ c.clauses, d.evaluated = false) (cut : c.IsCutShort now) :
    o.isShortCircuited = true := by
  obtain ⟨passed, k, rest, fails, hrest⟩ := cut
  obtain ⟨d, hd⟩ := List.exists_mem_of_ne_nil rest hrest
  have hmem : d ∈ c.clauses := by
    rw [fails.split]
    exact List.mem_append_right passed (List.mem_cons_of_mem k hd)
  exact obs.isShortCircuited_iff.mpr ⟨passed, k, rest, fails, d, hd, fresh d hmem⟩

lemma tellsCut (obs : o.Observes h c now) : o.TellsCut c now where
  flag := obs.isShortCircuited_iff
  sound := obs.isCutShort_of_isShortCircuited
  fresh := obs.isShortCircuited_of_isCutShort

lemma tellsCounts (obs : o.Observes h c now) : o.TellsCounts c now where
  verdict_eq := obs.verdict_eq
  total_eq := obs.total_eq
  passed := obs.clausesEvaluated_of_passed
  failed := obs.passed_eq_false_iff
  fresh fresh passed k rest fails := by
    rw [obs.evaluated_eq, Chain.evaluatedCount_of_fresh fails fresh]

end Outcome.Observes

/-- The recipe for an age that is to be eighteen at least and below a hundred and fifty, with more
steps after the checks are linked. -/
def Builder.ofAge (years : Int32) (more : List Step) : Builder where
  type := .int
  source := .constant years
  plan := .ofSteps ([.refine (t := .int) (.predicate "adult" fun _ n => decide (18 ≤ n)),
    .refine (t := .int) (.predicate "mortal" fun _ n => decide (n < 150))] ++ more)

/-! ## All outcomes of a report -/

namespace Theory

/-- The journal when the turn of the hypothesis at a position comes: those before it have been
evaluated. -/
def journalAt (t : Theory) (journal : Journal) (i : Nat) : Journal :=
  (t.hypotheses.take i).foldl (fun now h => (h.evaluate now).2.2) journal

variable {t after : Theory} {journal journal' : Journal} {r : Report}

/-- Every trial takes place when its turn comes. -/
lemma evaluate_of_tried {trials : List Trial} (tried : Tried journal trials) {i : Nat}
    {trial : Trial} (hi : trials[i]? = some trial) :
    ∃ left, trial.before.evaluate
      (((trials.map Trial.before).take i).foldl (fun now h => (h.evaluate now).2.2) journal) =
        (.ok trial.passed, trial.after, left) := by
  induction tried generalizing i with
  | nil => simp at hi
  | @cons journal first trials verdict _ ih =>
    cases i with
    | zero =>
      obtain rfl : first = trial := by simpa using hi
      exact ⟨_, verdict⟩
    | succ i =>
      rw [List.map_cons, List.take_succ_cons, List.foldl_cons, verdict]
      exact ih (by simpa using hi)

/-- A report is made of trials of all hypotheses, one after the other. -/
lemma exists_tried_of_report (reported : t.report journal = (.ok r, after, journal')) :
    ∃ trials, t.hypotheses = trials.map Trial.before ∧ Tried journal trials ∧
      r.outcomes = trials.map Trial.outcome := by
  obtain ⟨result, u, calls, rules⟩ := t.exists_reports journal
  have hreport := report_of_reports rules
  rw [reported, Prod.mk.injEq] at hreport
  obtain ⟨hresult, -⟩ := hreport
  cases rules with
  | aborted => simp at hresult
  | @complete trials all tried =>
    obtain rfl := Except.ok.inj hresult
    exact ⟨trials, all, tried, rfl⟩

/-- There is an outcome for every hypothesis, in the same place, observed in its turn. -/
lemma observes_of_report (reported : t.report journal = (.ok r, after, journal')) {i : Nat}
    {h : Hypothesis} {o : Outcome} (hi : t.hypotheses[i]? = some h) (ho : r.outcomes[i]? = some o) :
    ∃ c, o.Observes h c (t.journalAt journal i) := by
  obtain ⟨trials, all, tried, houtcomes⟩ := exists_tried_of_report reported
  rw [houtcomes, List.getElem?_map, Option.map_eq_some_iff] at ho
  obtain ⟨trial, htrial, rfl⟩ := ho
  rw [all, List.getElem?_map, htrial, Option.map_some, Option.some.injEq] at hi
  subst hi
  obtain ⟨left, heval⟩ := evaluate_of_tried tried htrial
  rw [← observe_eq_outcome heval, journalAt, all]
  exact Outcome.Observes.of_evaluate heval

lemma length_outcomes (reported : t.report journal = (.ok r, after, journal')) :
    r.outcomes.length = t.hypotheses.length := by
  obtain ⟨trials, all, -, houtcomes⟩ := exists_tried_of_report reported
  rw [houtcomes, all, List.length_map, List.length_map]

/-- The outcomes that failed are those of the verdicts that failed, in the same order, and they are
labelled as the hypotheses are. -/
lemma failures_of_report (reported : t.report journal = (.ok r, after, journal')) :
    r.outcomes.map Outcome.passed = verdicts t.hypotheses journal ∧
      r.failures =
        ((r.outcomes.zip (verdicts t.hypotheses journal)).filter fun p => !p.2).map Prod.fst ∧
      r.failedLabels =
        ((t.hypotheses.zip (verdicts t.hypotheses journal)).filter fun p => !p.2).map
          fun p => p.1.label := by
  obtain ⟨trials, all, tried, houtcomes⟩ := exists_tried_of_report reported
  have split : t.hypotheses = trials.map Trial.before ++ [] := by rw [all, List.append_nil]
  have hverdicts : verdicts t.hypotheses journal = trials.map Trial.passed :=
    verdicts_of_split split tried rfl
  rw [Report.failedLabels, Report.failures, hverdicts, houtcomes, all]
  simp only [List.zip_map', List.filter_map, List.map_map]
  exact ⟨rfl, rfl, rfl⟩

/-! ## The whole report -/

/-- Every chain that is cut short in front of a clause without a mark is flagged, and no other. -/
theorem flags_of_report (reported : t.report journal = (.ok r, after, journal')) :
    r.outcomes.length = t.hypotheses.length ∧
      ∀ i (h : Hypothesis) (o : Outcome), t.hypotheses[i]? = some h → r.outcomes[i]? = some o →
        ∃ c, h.chain = some c ∧ o.TellsCut c (t.journalAt journal i) := by
  refine ⟨length_outcomes reported, fun i h o hi ho => ?_⟩
  obtain ⟨c, obs⟩ := observes_of_report reported hi ho
  exact ⟨c, obs.chain_eq, obs.tellsCut⟩

/-- Two chains for the same age are cut short by the same check. The builder of the first has
evaluated the last clause before, and only the second one is flagged. -/
theorem flags_of_early_mark :
    let t := (run [.suppose (some "early") (.ofAge 15 [.evaluate]),
      .suppose (some "plain") (.ofAge 15 [])] {} []).2.1
    ∃ r after left, t.report [] = (.ok r, after, left) ∧
      r.outcomes.map Outcome.isShortCircuited = [false, true] ∧
      ∀ i (h : Hypothesis) (o : Outcome), t.hypotheses[i]? = some h → r.outcomes[i]? = some o →
        ∃ c, h.chain = some c ∧ o.TellsCut c (t.journalAt [] i) := by
  intro t
  exact ⟨_, _, _, rfl, rfl, (flags_of_report (t := t) rfl).2⟩

/-- The flag does not say of every chain whether it was cut short: it is silent where all clauses
behind the failing one were marked before, although the evaluation comes to none of them. -/
theorem early_mark_hides_cut :
    ¬ ∀ (t : Theory) (journal : Journal) (r : Report) (i : Nat) (h : Hypothesis) (o : Outcome)
        (c : Chain), t.Reachable → (t.report journal).1 = .ok r → t.hypotheses[i]? = some h →
      r.outcomes[i]? = some o → h.chain = some c →
        (o.isShortCircuited = true ↔ c.IsCutShort (t.journalAt journal i)) := by
  intro flagged
  let t := (run [.suppose none (.ofAge 15 [.evaluate])] {} []).2.1
  have reachable : t.Reachable := (Reachable.empty none).run _ _
  let entry : Clause := { type := .int, source := .constant 15 }
  let adult : Check .int := .predicate "adult" fun _ n => decide (18 ≤ n)
  let mortal : Check .int := .predicate "mortal" fun _ n => decide (n < 150)
  let failing : Clause := { entry with check := some adult }
  let last : Clause := { entry with check := some mortal, evaluated := true }
  have hflag := flagged t [] _ 0 _ _ ⟨entry, [failing, last]⟩ reachable rfl rfl rfl rfl
  -- the entry is passed without a check, and the check behind it fails
  have before : AllPass [entry] (t.journalAt [] 0) [] := .cons (.unchecked rfl rfl) .nil
  have stop : failing.Stops (t.journalAt [] 0 ++ []) (.ok false)
      ([] ++ [adult.call (15 : Int32) false]) := .refused rfl rfl rfl rfl
  have cut : Chain.IsCutShort ⟨entry, [failing, last]⟩ (t.journalAt [] 0) :=
    ⟨[entry], failing, [last], ⟨rfl, _, _, before, stop⟩, List.cons_ne_nil last []⟩
  have raised := hflag.mpr cut
  cases raised

/-- A report counts for every hypothesis, in its place, the clauses of its chain and those that are
marked: all of them if the chain holds, and those up to the first that fails if it does not and none
was marked before. The outcomes that failed are those whose verdict is false, in the order of
registration and under the labels of their hypotheses. -/
theorem counts_of_report (reported : t.report journal = (.ok r, after, journal')) :
    r.outcomes.length = t.hypotheses.length ∧
      (∀ i (h : Hypothesis) (o : Outcome), t.hypotheses[i]? = some h → r.outcomes[i]? = some o →
        ∃ c, h.chain = some c ∧ o.label = h.label ∧ o.TellsCounts c (t.journalAt journal i)) ∧
      r.outcomes.map Outcome.passed = verdicts t.hypotheses journal ∧
      r.failures =
        ((r.outcomes.zip (verdicts t.hypotheses journal)).filter fun p => !p.2).map Prod.fst ∧
      r.failedLabels =
        ((t.hypotheses.zip (verdicts t.hypotheses journal)).filter fun p => !p.2).map
          fun p => p.1.label := by
  refine ⟨length_outcomes reported, fun i h o hi ho => ?_, failures_of_report reported⟩
  obtain ⟨c, obs⟩ := observes_of_report reported hi ho
  exact ⟨c, obs.chain_eq, obs.label_eq, obs.tellsCounts⟩

/-- One age that is too low, in front of a clause that is not come to, and one that is not, in front
of a hypothesis without a name. -/
theorem counts_of_two_ages :
    let t := (run [.suppose (some "young") (.ofAge 15 []), .suppose (some "old") (.ofAge 51 []),
      .suppose none (.ofSupposition "terms" fun _ => false)] {} []).2.1
    ∃ r after left, t.report [] = (.ok r, after, left) ∧
      r.outcomes.map Outcome.clausesEvaluated = [2, 3, 2] ∧
      r.outcomes.map Outcome.clausesTotal = [3, 3, 2] ∧ r.failedLabels = ["young", "#2"] ∧
      ∀ i (h : Hypothesis) (o : Outcome), t.hypotheses[i]? = some h → r.outcomes[i]? = some o →
        ∃ c, h.chain = some c ∧ o.label = h.label ∧ o.TellsCounts c (t.journalAt [] i) := by
  intro t
  exact ⟨_, _, _, rfl, rfl, rfl, by decide, (counts_of_report (t := t) rfl).2.1⟩

end Theory

end Postulate
