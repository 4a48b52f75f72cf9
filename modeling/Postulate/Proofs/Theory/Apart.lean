import Postulate.Proofs.Chain.Own
import Postulate.Proofs.Theory.Pass
import Postulate.Theory.Command

/-!
# Hypotheses apart

Two hypotheses are apart when they share no function of the caller and no function of the one looks
at calls of the other (`Hypothesis.Apart`). Then the evaluation of one does not matter to the other:
neither its state nor what it comes to when it is evaluated itself (`Hypothesis.comesTo_other`). In
a theory whose hypotheses are all apart from each other this holds of any evaluations of any others
(`Theory.undisturbed_by_others`), and a pass comes to what the hypotheses come to when each of them
is evaluated from the start (`Theory.passes_of_apart`).
-/

namespace Postulate

open Journal (Agree)

namespace Hypothesis

/-- The functions of the hypothesis have labels of the set, and do not look at calls of others. -/
def Contained (own : String → Bool) (h : Hypothesis) : Prop :=
  ∀ c, h.chain = some c → c.Contained own

/-- What a hypothesis comes to when it is evaluated: the verdict or the error, and its state. -/
def comesTo (h : Hypothesis) (journal : Journal) : Except TheoryError Bool × Hypothesis :=
  ((h.evaluate journal).1, (h.evaluate journal).2.1)

/-- The outcome of a hypothesis that comes to a verdict. -/
def outcome? (journal : Journal) (h : Hypothesis) : Option Outcome :=
  match h.comesTo journal with
  | (.ok passed, after) => some (.observe after passed)
  | (.error _, _) => none

/-- The hypotheses share no function, and no function of the one looks at calls of the other. -/
def Apart (h k : Hypothesis) : Prop :=
  ∃ own other, Unshared own other ∧ h.Contained own ∧ k.Contained other

variable {own : String → Bool} {a b : Journal} {h k : Hypothesis}

lemma Apart.symm (apart : h.Apart k) : k.Apart h := by
  obtain ⟨own, other, unshared, hcontained, kcontained⟩ := apart
  exact ⟨other, own, unshared.symm, kcontained, hcontained⟩

/-- A contained hypothesis makes calls within the set only, and calls outside it make no difference
to what it comes to. -/
lemma evaluate_contained (contained : h.Contained own) (agree : Agree own a b) :
    ∃ result after calls, h.evaluate a = (result, after, a ++ calls) ∧
      h.evaluate b = (result, after, b ++ calls) ∧ Journal.Within own calls ∧
        after.Contained own := by
  cases hchain : h.chain with
  | none =>
    refine ⟨.error (.missingSupposition h.label), h, [], ?_, ?_, Journal.within_nil, contained⟩
    · rw [evaluate_of_chain_eq_none hchain, List.append_nil]
    · rw [evaluate_of_chain_eq_none hchain, List.append_nil]
  | some c =>
    obtain ⟨verdict, after, calls, ha, hb, within, hafter⟩ :=
      Chain.evaluate_contained (contained c hchain) agree
    refine ⟨verdict.mapError .clause, { h with chain := some after }, calls, ?_, ?_, within, ?_⟩
    · simp only [evaluate, hchain, ha]
    · simp only [evaluate, hchain, hb]
    · intro d hd
      obtain rfl := Option.some.inj hd
      exact hafter

lemma comesTo_of_agree (contained : h.Contained own) (agree : Agree own a b) :
    h.comesTo a = h.comesTo b := by
  obtain ⟨result, after, calls, ha, hb, -, -⟩ := evaluate_contained contained agree
  rw [comesTo, comesTo, ha, hb]

/-- Whatever comes of the evaluation of another hypothesis, this one comes to the same as before it,
and the two are still apart. -/
lemma comesTo_other (apart : h.Apart k) {journal journal' : Journal} {after : Hypothesis}
    {result : Except TheoryError Bool} (heval : k.evaluate journal = (result, after, journal')) :
    h.comesTo journal' = h.comesTo journal ∧ h.Apart after := by
  obtain ⟨own, other, unshared, hcontained, kcontained⟩ := apart
  obtain ⟨result', after', calls, hk, -, within, hafter⟩ :=
    evaluate_contained kcontained (Agree.refl journal)
  rw [heval] at hk
  simp only [Prod.mk.injEq] at hk
  obtain ⟨rfl, rfl, rfl⟩ := hk
  have hagree : Agree own (journal ++ calls) journal :=
    Journal.agree_append_of_unshared unshared within journal
  exact ⟨comesTo_of_agree hcontained hagree, own, other, unshared, hcontained, hafter⟩

end Hypothesis

namespace Theory

open Hypothesis (Apart)

variable {t : Theory} {journal : Journal} {trials : List Trial} {h : Hypothesis}

/-! ## A pass -/

/-- The trials of others do not matter to a hypothesis. -/
lemma comesTo_of_tried (tried : Tried journal trials)
    (apart : ∀ trial ∈ trials, h.Apart trial.before) :
    h.comesTo (journal ++ trials.flatMap Trial.calls) = h.comesTo journal := by
  induction tried with
  | nil => rw [List.flatMap_nil, List.append_nil]
  | @cons journal trial trials verdict _ ih =>
    have hrest := ih fun other hother => apart other (List.mem_cons_of_mem trial hother)
    have hfirst := Hypothesis.comesTo_other (apart trial List.mem_cons_self) verdict
    rw [List.flatMap_cons, ← List.append_assoc, hrest, hfirst.1]

/-- In a pass over hypotheses that are apart, each comes to what it comes to at the start. -/
lemma comesTo_of_mem_tried (tried : Tried journal trials)
    (apart : (trials.map Trial.before).Pairwise Apart) :
    ∀ trial ∈ trials, trial.before.comesTo journal = (.ok trial.passed, trial.after) := by
  induction tried with
  | nil => simp
  | @cons journal trial trials verdict _ ih =>
    rw [List.map_cons, List.pairwise_cons] at apart
    intro other hother
    rcases List.mem_cons.1 hother with rfl | hother
    · rw [Hypothesis.comesTo, verdict]
    · have hapart : other.before.Apart trial.before :=
        (apart.1 other.before (List.mem_map_of_mem hother)).symm
      rw [← ih apart.2 other hother, (Hypothesis.comesTo_other hapart verdict).1]

lemma outcome?_of_mem_tried (tried : Tried journal trials)
    (apart : (trials.map Trial.before).Pairwise Apart) :
    ∀ trial ∈ trials, trial.before.outcome? journal = some trial.outcome := by
  intro trial htrial
  have hcomes := comesTo_of_mem_tried tried apart trial htrial
  obtain ⟨hindex, hname⟩ : trial.after.index = trial.before.index ∧
      trial.after.name = trial.before.name := by
    have hafter : (trial.before.evaluate journal).2.1 = trial.after := congrArg Prod.snd hcomes
    rw [← hafter]
    exact ⟨trial.before.index_evaluate journal, trial.before.name_evaluate journal⟩
  rw [Hypothesis.outcome?, hcomes]
  simp only [Outcome.observe, Trial.outcome, hindex, hname]

/-- A pass that comes to what the hypotheses come to when each is evaluated from the start. -/
structure PassesApart (t : Theory) (journal : Journal) : Prop where
  /-- There is a report exactly when all hypotheses come to a verdict. -/
  succeeds_iff : (∃ r, (t.report journal).1 = .ok r) ↔
    ∀ h ∈ t.hypotheses, (h.outcome? journal).isSome = true
  /-- The outcomes are theirs. -/
  outcomes_eq : ∀ r, (t.report journal).1 = .ok r →
    r.outcomes = t.hypotheses.filterMap (Hypothesis.outcome? journal) ∧
      r.outcomes.map Outcome.index = t.hypotheses.map Hypothesis.index ∧
        r.verdict = r.outcomes.all Outcome.passed
  /-- So are the states in which they are left. -/
  states_eq : ∀ r, (t.report journal).1 = .ok r →
    (t.report journal).2.1.hypotheses = t.hypotheses.map fun h => (h.comesTo journal).2

lemma passes_of_apart (apart : t.hypotheses.Pairwise Apart) (journal : Journal) :
    t.PassesApart journal := by
  obtain ⟨result, after, calls, rules⟩ := t.exists_reports journal
  have hreport := report_of_reports rules
  cases rules with
  | @complete trials all tried =>
    rw [all] at apart
    have hcomes := comesTo_of_mem_tried tried apart
    have houtcome := outcome?_of_mem_tried tried apart
    refine ⟨?_, ?_, ?_⟩
    · refine ⟨fun _ h hh => ?_, fun _ => ⟨_, by rw [hreport]⟩⟩
      rw [all] at hh
      obtain ⟨trial, htrial, rfl⟩ := List.mem_map.1 hh
      rw [houtcome trial htrial, Option.isSome_some]
    · intro r hr
      rw [hreport] at hr
      obtain rfl := Except.ok.inj hr
      have houtcomes : (trials.map Trial.before).filterMap (Hypothesis.outcome? journal) =
          trials.map Trial.outcome := by
        rw [List.filterMap_map, ← List.filterMap_eq_map]
        exact List.filterMap_congr houtcome
      rw [all, houtcomes, List.map_map, List.map_map, List.all_map]
      exact ⟨rfl, rfl, rfl⟩
    · intro r _
      rw [hreport, all, List.map_map]
      exact List.map_congr_left fun trial htrial => (congrArg Prod.snd (hcomes trial htrial)).symm
  | @aborted trials h failed rest e last split tried fails =>
    have herror : ∀ r, (t.report journal).1 ≠ .ok r := by
      intro r hr
      rw [hreport] at hr
      exact absurd hr (by simp)
    refine ⟨⟨fun ⟨r, hr⟩ => absurd hr (herror r), fun verdicts => ?_⟩,
      fun r hr => absurd hr (herror r), fun r hr => absurd hr (herror r)⟩
    -- the hypothesis that ended the pass comes to an error at the start, too
    have hapart : ∀ trial ∈ trials, h.Apart trial.before := by
      rw [split, List.pairwise_append] at apart
      intro trial htrial
      exact (apart.2.2 _ (List.mem_map_of_mem htrial) h List.mem_cons_self).symm
    have hsame := comesTo_of_tried tried hapart
    rw [Hypothesis.comesTo, fails] at hsame
    have hnone : h.outcome? journal = none := by rw [Hypothesis.outcome?, ← hsame]
    have hsome := verdicts h (by rw [split]; exact List.mem_append_right _ List.mem_cons_self)
    rw [hnone] at hsome
    exact absurd hsome (by simp)

/-! ## Evaluations of others -/

/-- The theory and the journal after the hypotheses at some positions were evaluated. -/
def evaluating (t : Theory) (positions : List Nat) (journal : Journal) : Theory × Journal :=
  (run (positions.map fun i => .direct i .evaluate) t journal).2

/-- However often and in whatever order other hypotheses are evaluated, a hypothesis that is apart
from them stays as it is, and comes to the same. -/
lemma undisturbed_by_others {i : Nat} (here : t.hypotheses[i]? = some h)
    (apart : ∀ (j : Nat) (k : Hypothesis), j ≠ i → t.hypotheses[j]? = some k → h.Apart k)
    {others : List Nat} (other : i ∉ others) (journal : Journal) :
    (t.evaluating others journal).1.hypotheses[i]? = some h ∧
      h.comesTo (t.evaluating others journal).2 = h.comesTo journal := by
  induction others generalizing t journal with
  | nil => exact ⟨here, rfl⟩
  | cons j others ih =>
    have hne : j ≠ i := fun heq => other (heq ▸ List.mem_cons_self)
    have hothers : i ∉ others := fun hmem => other (List.mem_cons_of_mem j hmem)
    have hstep : t.evaluating (j :: others) journal =
        (t.direct j .evaluate journal).2.1.evaluating others (t.direct j .evaluate journal).2.2 :=
      rfl
    rw [hstep]
    cases hget : t.hypotheses[j]? with
    | none =>
      have hnothing : t.direct j .evaluate journal = (.ok .absent, t, journal) := by
        simp only [direct, hget]
      rw [hnothing]
      exact ih here apart hothers journal
    | some k =>
      rcases heval : k.evaluate journal with ⟨result, after, journal'⟩
      obtain ⟨hsame, hafter⟩ := Hypothesis.comesTo_other (apart j k hne hget) heval
      have hdirect : (t.direct j .evaluate journal).2 =
          ({ t with hypotheses := t.hypotheses.set j after }, journal') := by
        simp only [direct, hget, Hypothesis.perform, heval]
      rw [hdirect, ← hsame]
      refine ih ?_ ?_ hothers journal'
      · rwa [List.getElem?_set_ne hne]
      · -- the one that was evaluated is still apart, and the others have not changed
        intro l k' hl hk'
        by_cases heq : l = j
        · subst heq
          have hlt : l < t.hypotheses.length := (List.getElem?_eq_some_iff.1 hget).1
          rw [List.getElem?_set_self hlt] at hk'
          obtain rfl := Option.some.inj hk'
          exact hafter
        · rw [List.getElem?_set_ne (Ne.symm heq)] at hk'
          exact apart l k' hl hk'

/-- No evaluations of other hypotheses change a hypothesis, or what it comes to. -/
def Undisturbed (t : Theory) (journal : Journal) : Prop :=
  ∀ (i : Nat) (h : Hypothesis), t.hypotheses[i]? = some h → ∀ others : List Nat, i ∉ others →
    (t.evaluating others journal).1.hypotheses[i]? = some h ∧
      h.comesTo (t.evaluating others journal).2 = h.comesTo journal

lemma undisturbed_of_apart (apart : t.hypotheses.Pairwise Apart) (journal : Journal) :
    t.Undisturbed journal := by
  intro i h here others other
  refine undisturbed_by_others here (fun j k hne hk => ?_) other journal
  obtain ⟨hi, rfl⟩ := List.getElem?_eq_some_iff.1 here
  obtain ⟨hj, rfl⟩ := List.getElem?_eq_some_iff.1 hk
  rcases Nat.lt_or_gt_of_ne hne with hlt | hgt
  · exact (List.pairwise_iff_getElem.1 apart j i hj hi hlt).symm
  · exact List.pairwise_iff_getElem.1 apart i j hi hj hgt

end Theory

end Postulate
