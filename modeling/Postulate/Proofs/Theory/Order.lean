import Postulate.Proofs.Theory.Apart
import Postulate.Proofs.Theory.Counters
import Postulate.Proofs.Theory.Names

/-!
# The order of registration

Suppositions are apart when they share neither a name nor a function, and no function looks at calls
of another supposition. It does not matter then in which order they are registered: every builder
builds what it builds when it is the first (`Theory.supposing_of_apart`), and what is reported of a
hypothesis is what would be reported if it were the only one (`Theory.told_of_apart`), but for its
position. So a theory comes to a verdict in one order exactly when it does in every other, to the
same one, and the outcomes are the same in the order of registration. The main result is
`Theory.report_perm`.
-/

namespace Postulate

open Journal (Agree)
open Theory (properName)

/-! ## Without a position -/

/-- The hypothesis at the first position. -/
def Hypothesis.unplaced (h : Hypothesis) : Hypothesis := { h with index := 0 }

/-- The outcome of the hypothesis at the first position. -/
def Outcome.unplaced (o : Outcome) : Outcome := { o with index := 0 }

/-- A hypothesis comes to the same at every position. -/
lemma Hypothesis.outcome?_unplaced (h : Hypothesis) (journal : Journal) :
    h.unplaced.outcome? journal = (h.outcome? journal).map Outcome.unplaced := by
  obtain ⟨index, name, chain⟩ := h
  cases chain with
  | none => rfl
  | some c =>
    simp only [outcome?, comesTo, evaluate, unplaced]
    cases (c.evaluate journal).verdict <;> rfl

/-! ## Suppositions -/

/-- A hypothesis to be registered. -/
structure Supposition where
  name : Option String := none
  builder : Builder
  /-- The labels of the functions that the builder brings along. -/
  own : String → Bool

namespace Supposition

/-- The command that registers the hypothesis. -/
def command (s : Supposition) : Command := .suppose s.name s.builder

/-- Neither a proper name nor a function is shared. -/
structure Apart (s s' : Supposition) : Prop where
  names : ∀ n, properName s.name = some n → properName s'.name = some n → False
  functions : Unshared s.own s'.own

/-- The functions have labels of their own, and do not look at calls of others. -/
def Contained (s : Supposition) : Prop := s.builder.Contained s.own

/-- The hypothesis as it is registered first, unless its builder fails. -/
def alone (journal : Journal) (s : Supposition) : Option Hypothesis :=
  (s.builder.build journal).1.toOption.map fun c => ⟨0, properName s.name, some c⟩

/-- The outcome that is reported when there is no other hypothesis. -/
def outcome? (journal : Journal) (s : Supposition) : Option Outcome :=
  (s.alone journal).bind (Hypothesis.outcome? (s.builder.build journal).2)

/-- When there is no other hypothesis, this one comes to a verdict, or is not registered at all. -/
def Decides (journal : Journal) (s : Supposition) : Prop :=
  (s.alone journal).isSome = true → (s.outcome? journal).isSome = true

variable {s s' : Supposition} {journal journal' : Journal} {h : Hypothesis}

lemma Apart.symm (apart : s.Apart s') : s'.Apart s :=
  ⟨fun n hn hn' => apart.names n hn' hn, apart.functions.symm⟩

/-- Building does the same from journals that agree on the calls of the supposition. -/
lemma Contained.build (contained : s.Contained) (agree : Agree s.own journal journal') :
    s.alone journal = s.alone journal' ∧
      Agree s.own (s.builder.build journal).2 (s.builder.build journal').2 := by
  obtain ⟨result, calls, ha, hb, -, -⟩ := Builder.build_contained contained agree
  rw [alone, alone, ha, hb]
  exact ⟨rfl, Journal.lasting_agree s.own _ _ calls agree⟩

/-- What is built makes calls of the supposition only. -/
lemma Contained.agree_build (contained : s.Contained) {own : String → Bool}
    (unshared : Unshared own s.own) (journal : Journal) :
    Agree own (s.builder.build journal).2 journal := by
  obtain ⟨result, calls, ha, -, within, -⟩ :=
    Builder.build_contained contained (Agree.refl journal)
  rw [ha]
  exact Journal.agree_append_of_unshared unshared within journal

lemma exists_chain_of_alone (halone : s.alone journal = some h) :
    ∃ c, (s.builder.build journal).1 = .ok c ∧ h = ⟨0, properName s.name, some c⟩ := by
  rw [alone, Option.map_eq_some_iff] at halone
  obtain ⟨c, hc, rfl⟩ := halone
  cases hbuild : (s.builder.build journal).1 with
  | error e => simp [hbuild, Except.toOption] at hc
  | ok d =>
    obtain rfl : d = c := by simpa [hbuild, Except.toOption] using hc
    exact ⟨d, rfl, rfl⟩

lemma Contained.of_alone (contained : s.Contained) (halone : s.alone journal = some h) :
    h.Contained s.own := by
  obtain ⟨c, hbuild, rfl⟩ := exists_chain_of_alone halone
  obtain ⟨result, calls, ha, -, -, built⟩ :=
    Builder.build_contained contained (Agree.refl journal)
  rw [ha] at hbuild
  intro d hd
  obtain rfl := Option.some.inj hd
  exact built c hbuild

end Supposition

namespace Theory

open Supposition (alone)

variable {t u : Theory} {s : Supposition} {L M : List Supposition} {journal : Journal}

/-! ## Registering suppositions -/

/-- The theory and the journal after suppositions were registered, one after the other. -/
def supposing (t : Theory) (L : List Supposition) (journal : Journal) : Theory × Journal :=
  (run (L.map Supposition.command) t journal).2

/-- What registering a supposition does when its name is free. -/
structure Takes (t : Theory) (s : Supposition) (journal : Journal) (u : Theory)
    (journal' : Journal) : Prop where
  journal_eq : journal' = (s.builder.build journal).2
  hypotheses_eq : u.hypotheses.map Hypothesis.unplaced =
    t.hypotheses.map Hypothesis.unplaced ++ (s.alone journal).toList
  position?_eq : ∀ n, properName s.name ≠ some n → u.position? n = t.position? n

lemma takes_of_isFree (free : t.IsFree (properName s.name)) (journal : Journal) :
    t.Takes s journal (t.perform s.command journal).2.1 (t.perform s.command journal).2.2 := by
  rcases hbuild : s.builder.build journal with ⟨e | c, journal'⟩
  · have halone : s.alone journal = none := by rw [alone, hbuild]; rfl
    simp only [Supposition.command, perform, suppose_of_fails free hbuild]
    refine ⟨by rw [hbuild], ?_, fun n _ => rfl⟩
    rw [halone, Option.toList_none, List.append_nil]
  · have halone : s.alone journal = some ⟨0, properName s.name, some c⟩ := by
      rw [alone, hbuild]
      rfl
    simp only [Supposition.command, perform, suppose_of_builds free hbuild]
    refine ⟨by rw [hbuild], ?_, fun n hn => ?_⟩
    · rw [halone, Option.toList_some]
      exact List.map_append
    · exact (t.position?_enter _ n).trans (if_neg hn)

/-- What registering suppositions does when they are apart. -/
structure TakesAll (t : Theory) (L : List Supposition) (journal : Journal) (u : Theory)
    (journal' : Journal) : Prop where
  /-- Each hypothesis is registered as if it were the first. -/
  hypotheses_eq : u.hypotheses.map Hypothesis.unplaced =
    t.hypotheses.map Hypothesis.unplaced ++ L.filterMap (alone journal)
  /-- What others called does not matter to the functions of a supposition. -/
  agree_build : ∀ s ∈ L, Agree s.own journal' (s.builder.build journal).2
  /-- Nor does it to any other function. -/
  agree : ∀ own, (∀ s ∈ L, Unshared own s.own) → Agree own journal' journal

lemma supposing_of_apart (contained : ∀ s ∈ L, s.Contained) (apart : L.Pairwise Supposition.Apart)
    (free : ∀ s ∈ L, t.IsFree (properName s.name)) (journal : Journal) :
    t.TakesAll L journal (t.supposing L journal).1 (t.supposing L journal).2 := by
  induction L generalizing t journal with
  | nil => exact ⟨by simp [supposing, run], by simp, fun own _ => Agree.refl journal⟩
  | cons s L ih =>
    rw [List.pairwise_cons] at apart
    have hs : s.Contained := contained s List.mem_cons_self
    have hL : ∀ s' ∈ L, s'.Contained := fun s' hs' => contained s' (List.mem_cons_of_mem s hs')
    have takes := takes_of_isFree (free s List.mem_cons_self) journal
    have hstep : t.supposing (s :: L) journal =
        (t.perform s.command journal).2.1.supposing L (t.perform s.command journal).2.2 := rfl
    rw [hstep]
    generalize (t.perform s.command journal).2.1 = u at takes
    generalize (t.perform s.command journal).2.2 = journal₁ at takes
    obtain ⟨rfl, htaken, hposition⟩ := takes
    -- the names of the others are still free
    have hfree : ∀ s' ∈ L, u.IsFree (properName s'.name) := by
      intro s' hs' n hn
      rw [hposition n fun hname => (apart.1 s' hs').names n hname hn]
      exact free s' (List.mem_cons_of_mem s hs') n hn
    -- and their functions do not look at the calls of the first builder
    have hagree : ∀ s' ∈ L, Agree s'.own (s.builder.build journal).2 journal := fun s' hs' =>
      hs.agree_build (apart.1 s' hs').functions.symm journal
    have hrest := ih hL apart.2 hfree (s.builder.build journal).2
    refine ⟨?_, ?_, ?_⟩
    · have halone : L.filterMap (alone (s.builder.build journal).2) =
          L.filterMap (alone journal) :=
        List.filterMap_congr fun s' hs' => ((hL s' hs').build (hagree s' hs')).1
      rw [hrest.hypotheses_eq, htaken, halone, List.append_assoc, List.filterMap_cons]
      cases s.alone journal <;> rfl
    · intro s' hs'
      rcases List.mem_cons.1 hs' with rfl | hs'
      · exact hrest.agree _ fun s' hs' => (apart.1 s' hs').functions
      · exact (hrest.agree_build s' hs').trans ((hL s' hs').build (hagree s' hs')).2
    · intro own unshared
      have hfirst := hs.agree_build (unshared s List.mem_cons_self) journal
      exact (hrest.agree own fun s' hs' => unshared s' (List.mem_cons_of_mem s hs')).trans hfirst

/-! ## What is reported -/

lemma New.reachable (new : t.New) : t.Reachable := by
  cases new with
  | empty name => exact .empty name
  | ofConfig made => exact .ofConfig made

/-- No name is taken in a new theory. -/
lemma New.isFree (new : t.New) (name : Option String) : t.IsFree name := by
  intro n _
  cases hposition : t.position? n with
  | none => rfl
  | some i =>
    rw [(wellNamed_of_reachable new.reachable).position_iff, new.empty_metrics.1] at hposition
    simp at hposition

/-- What a theory reports is told by the suppositions that were registered, in their order, from
what is reported of each of them when there are no others. -/
structure Told (L : List Supposition) (journal : Journal) (t : Theory) (journal' : Journal) :
    Prop where
  /-- There is a report exactly when there would be one for each supposition alone. -/
  succeeds_iff : (∃ r, (t.report journal').1 = .ok r) ↔ ∀ s ∈ L, s.Decides journal
  /-- The outcomes are those of the suppositions alone, but for their positions. -/
  outcomes_eq : ∀ r, (t.report journal').1 = .ok r →
    r.outcomes.map Outcome.unplaced = L.filterMap (Supposition.outcome? journal)
  /-- The positions are counted from the first. -/
  indices_eq : ∀ r, (t.report journal').1 = .ok r →
    r.outcomes.map Outcome.index = List.range r.outcomes.length
  /-- The verdict is that all have passed. -/
  verdict_eq : ∀ r, (t.report journal').1 = .ok r → r.verdict = r.outcomes.all Outcome.passed
  /-- No evaluation of a hypothesis changes another one, or what it comes to. -/
  undisturbed : t.Undisturbed journal'
  /-- A report leaves the hypotheses as if each of them alone had been evaluated. -/
  states_eq : ∀ r, (t.report journal').1 = .ok r →
    (t.report journal').2.1.hypotheses = t.hypotheses.map fun h => (h.comesTo journal').2

namespace TakesAll

variable {journal' : Journal} (taken : t.TakesAll L journal u journal')

include taken

/-- What a hypothesis comes to after all registrations, it comes to after its own. -/
lemma bind_outcome? (contained : ∀ s ∈ L, s.Contained) :
    ∀ s ∈ L, (s.alone journal).bind (Hypothesis.outcome? journal') = s.outcome? journal := by
  intro s hs
  refine Option.bind_congr fun h hh => ?_
  have hsame := Hypothesis.comesTo_of_agree ((contained s hs).of_alone hh) (taken.agree_build s hs)
  rw [Hypothesis.outcome?, Hypothesis.outcome?, hsame]

variable (new : t.New)

include new

lemma registered_eq : u.hypotheses.map Hypothesis.unplaced = L.filterMap (alone journal) := by
  rw [taken.hypotheses_eq, new.empty_metrics.1, List.map_nil, List.nil_append]

/-- The hypotheses are apart from each other, as the suppositions are. -/
lemma apart (contained : ∀ s ∈ L, s.Contained) (apart : L.Pairwise Supposition.Apart) :
    u.hypotheses.Pairwise Hypothesis.Apart := by
  have hunplaced : (u.hypotheses.map Hypothesis.unplaced).Pairwise Hypothesis.Apart := by
    rw [taken.registered_eq new, List.pairwise_filterMap]
    refine List.Pairwise.imp_of_mem (fun {s s'} hs hs' happart h hh h' hh' => ?_) apart
    exact ⟨s.own, s'.own, happart.functions, (contained s hs).of_alone hh,
      (contained s' hs').of_alone hh'⟩
  -- whether hypotheses are apart does not depend on their positions
  have hmap := List.pairwise_map.1 hunplaced
  exact hmap

/-- All hypotheses come to a verdict exactly when each supposition does that is the only one. -/
lemma forall_isSome_iff (contained : ∀ s ∈ L, s.Contained) :
    (∀ h ∈ u.hypotheses, (h.outcome? journal').isSome = true) ↔ ∀ s ∈ L, s.Decides journal := by
  have hunplaced : (∀ h ∈ u.hypotheses, (h.outcome? journal').isSome = true) ↔
      ∀ h ∈ L.filterMap (alone journal), (h.outcome? journal').isSome = true := by
    rw [← taken.registered_eq new, List.forall_mem_map]
    simp only [Hypothesis.outcome?_unplaced, Option.isSome_map]
  rw [hunplaced, List.forall_mem_filterMap]
  refine forall₂_congr fun s hs => ?_
  rw [Supposition.Decides, ← taken.bind_outcome? contained s hs]
  cases s.alone journal with
  | none => simp
  | some h => simp

/-- Whatever the hypotheses come to is told by the suppositions that are the only ones. -/
lemma filterMap_outcome? (contained : ∀ s ∈ L, s.Contained) :
    (u.hypotheses.filterMap (Hypothesis.outcome? journal')).map Outcome.unplaced =
      L.filterMap (Supposition.outcome? journal) := by
  calc (u.hypotheses.filterMap (Hypothesis.outcome? journal')).map Outcome.unplaced
      = u.hypotheses.filterMap fun h => h.unplaced.outcome? journal' := by
        simp only [List.map_filterMap, Hypothesis.outcome?_unplaced]
    _ = (L.filterMap (alone journal)).filterMap (Hypothesis.outcome? journal') := by
        rw [← taken.registered_eq new, List.filterMap_map]
        rfl
    _ = L.filterMap fun s => (s.alone journal).bind (Hypothesis.outcome? journal') :=
        List.filterMap_filterMap
    _ = L.filterMap (Supposition.outcome? journal) :=
        List.filterMap_congr (taken.bind_outcome? contained)

end TakesAll

lemma told_of_apart (contained : ∀ s ∈ L, s.Contained) (apart : L.Pairwise Supposition.Apart)
    (new : t.New) (journal : Journal) :
    Told L journal (t.supposing L journal).1 (t.supposing L journal).2 := by
  have taken := supposing_of_apart contained apart (fun s _ => new.isFree _) journal
  have hnamed : (t.supposing L journal).1.WellNamed :=
    wellNamed_of_reachable (new.reachable.run _ journal)
  generalize t.supposing L journal = after at taken hnamed
  obtain ⟨u, journal'⟩ := after
  have hapart := taken.apart new contained apart
  have passes := passes_of_apart hapart journal'
  refine ⟨?_, ?_, ?_, fun r hr => (passes.outcomes_eq r hr).2.2,
    undisturbed_of_apart hapart journal', passes.states_eq⟩
  · rw [passes.succeeds_iff, taken.forall_isSome_iff new contained]
  · intro r hr
    rw [(passes.outcomes_eq r hr).1, taken.filterMap_outcome? new contained]
  · intro r hr
    have hindices := (passes.outcomes_eq r hr).2.1
    have hlength := congrArg List.length hindices
    rw [List.length_map, List.length_map] at hlength
    rw [hindices, hnamed.indices, hlength, length]

/-- A bare verdict is that of the report. -/
lemma evaluate_eq_ok_iff {verdict : Bool} : (t.evaluate journal).1 = .ok verdict ↔
    ∃ r, (t.report journal).1 = .ok r ∧ r.verdict = verdict := by
  rw [evaluate]
  rcases t.report journal with ⟨e | r, after, journal'⟩
  · simp [Except.map]
  · simp [Except.map]

namespace Told

variable {journal₁ journal₂ : Journal} (toldₜ : Told L journal t journal₁)
  (toldᵤ : Told M journal u journal₂) (perm : L.Perm M)

include toldₜ toldᵤ perm

lemma succeeds_iff_of_perm : (∃ verdict, (t.evaluate journal₁).1 = .ok verdict) ↔
    ∃ verdict, (u.evaluate journal₂).1 = .ok verdict := by
  have hreports : (∃ r, (t.report journal₁).1 = .ok r) ↔ ∃ r, (u.report journal₂).1 = .ok r := by
    rw [toldₜ.succeeds_iff, toldᵤ.succeeds_iff]
    exact ⟨fun h s hs => h s (perm.mem_iff.2 hs), fun h s hs => h s (perm.mem_iff.1 hs)⟩
  constructor
  · rintro ⟨verdict, hverdict⟩
    obtain ⟨r, hr, -⟩ := evaluate_eq_ok_iff.1 hverdict
    obtain ⟨r', hr'⟩ := hreports.1 ⟨r, hr⟩
    exact ⟨r'.verdict, evaluate_eq_ok_iff.2 ⟨r', hr', rfl⟩⟩
  · rintro ⟨verdict, hverdict⟩
    obtain ⟨r', hr', -⟩ := evaluate_eq_ok_iff.1 hverdict
    obtain ⟨r, hr⟩ := hreports.2 ⟨r', hr'⟩
    exact ⟨r.verdict, evaluate_eq_ok_iff.2 ⟨r, hr, rfl⟩⟩

/-- The outcomes are the same up to order and positions, and the verdict does not look at these. -/
lemma reports_of_perm {r r' : Report} (hr : (t.report journal₁).1 = .ok r)
    (hr' : (u.report journal₂).1 = .ok r') : r.verdict = r'.verdict ∧
      (r.outcomes.map Outcome.unplaced).Perm (r'.outcomes.map Outcome.unplaced) := by
  have hperm : (r.outcomes.map Outcome.unplaced).Perm (r'.outcomes.map Outcome.unplaced) := by
    rw [toldₜ.outcomes_eq r hr, toldᵤ.outcomes_eq r' hr']
    exact perm.filterMap _
  have hall : ∀ outcomes : List Outcome, outcomes.all Outcome.passed =
      (outcomes.map Outcome.unplaced).all Outcome.passed := by
    intro outcomes
    rw [List.all_map]
    rfl
  refine ⟨?_, hperm⟩
  rw [toldₜ.verdict_eq r hr, toldᵤ.verdict_eq r' hr', hall, hperm.all_eq, ← hall]

end Told

/-- The order of registration matters to positions only. When suppositions that are apart are
registered in two orders, each with a new theory, then either both theories come to a verdict, and
it is the same one, or neither does. What they report of a hypothesis is what would be reported if
it were the only one, and no evaluation of a hypothesis matters to another. -/
theorem report_perm (perm : L.Perm M) (contained : ∀ s ∈ L, s.Contained)
    (apart : L.Pairwise Supposition.Apart) {t u : Theory} (newₜ : t.New) (newᵤ : u.New)
    (journal : Journal) :
    let first := t.supposing L journal
    let second := u.supposing M journal
    ((∃ verdict, (first.1.evaluate first.2).1 = .ok verdict) ↔
        ∃ verdict, (second.1.evaluate second.2).1 = .ok verdict) ∧
      (∀ verdict verdict', (first.1.evaluate first.2).1 = .ok verdict →
        (second.1.evaluate second.2).1 = .ok verdict' → verdict = verdict') ∧
      (∀ r r', (first.1.report first.2).1 = .ok r → (second.1.report second.2).1 = .ok r' →
        r.verdict = r'.verdict ∧
          (r.outcomes.map Outcome.unplaced).Perm (r'.outcomes.map Outcome.unplaced)) ∧
      Told L journal first.1 first.2 ∧ Told M journal second.1 second.2 := by
  intro first second
  have toldₜ : Told L journal first.1 first.2 := told_of_apart contained apart newₜ journal
  have toldᵤ : Told M journal second.1 second.2 := by
    refine told_of_apart (fun s hs => contained s (perm.mem_iff.2 hs)) ?_ newᵤ journal
    exact perm.pairwise apart Supposition.Apart.symm
  refine ⟨toldₜ.succeeds_iff_of_perm toldᵤ perm, ?_, ?_, toldₜ, toldᵤ⟩
  · intro verdict verdict' hfirst hsecond
    obtain ⟨r, hr, rfl⟩ := evaluate_eq_ok_iff.1 hfirst
    obtain ⟨r', hr', rfl⟩ := evaluate_eq_ok_iff.1 hsecond
    exact (toldₜ.reports_of_perm toldᵤ perm hr hr').1
  · intro r r' hr hr'
    exact toldₜ.reports_of_perm toldᵤ perm hr hr'

/-- A condition that holds when it is asked for the first time, and a count of reads that is checked
to be the first: in both orders both hold. -/
theorem report_perm_of_counters :
    let once : Supposition :=
      { name := some "once"
        builder := .ofSupposition "a" fun journal => journal.checks "a" == 0
        own := fun label => label == "a" }
    let first : Supposition :=
      { builder :=
          { type := .int
            source := .provider "b" fun journal => .ok (Int32.ofNat (journal.reads "b"))
            plan := .ofSteps [.refine (t := .int) (.predicate "b" fun _ n => n == 0)] }
        own := fun label => label == "b" }
    let one := supposing {} [once, first] []
    let other := supposing {} [first, once] []
    [once, first].Perm [first, once] ∧ (∀ s ∈ [once, first], s.Contained) ∧
      [once, first].Pairwise Supposition.Apart ∧ New {} ∧
      (one.1.evaluate one.2).1 = .ok true ∧
      ∃ verdict, (other.1.evaluate other.2).1 = .ok verdict ∧ true = verdict := by
  intro once first one other
  have perm : [once, first].Perm [first, once] := .swap first once []
  have honce : once.Contained := by
    refine Builder.contained_ofSteps ⟨trivial, trivial⟩ fun step hstep => ?_
    obtain rfl := List.mem_singleton.1 hstep
    refine ⟨rfl, fun a b _ agree => ?_⟩
    have hchecks : a.checks "a" = b.checks "a" := by
      refine agree.countP_eq fun call hcall => ?_
      cases call <;> simp_all [Call.isCheck, Call.label, once]
    simp only [Check.holds, hchecks]
  have hfirst : first.Contained := by
    refine Builder.contained_ofSteps ⟨rfl, fun a b agree => ?_⟩ fun step hstep => ?_
    · have hreads : a.reads "b" = b.reads "b" := by
        refine agree.countP_eq fun call hcall => ?_
        cases call <;> simp_all [Call.isRead, Call.label, first]
      simp only [hreads]
    · obtain rfl := List.mem_singleton.1 hstep
      exact ⟨rfl, fun a b n _ => rfl⟩
  have contained : ∀ s ∈ [once, first], s.Contained := by
    simp [honce, hfirst]
  have apart : [once, first].Pairwise Supposition.Apart := by
    refine List.pairwise_pair.2 ⟨fun n _ hn => ?_, fun label ha hb => ?_⟩
    · simp [first, properName] at hn
    · simp_all [once, first]
  have hresult : (one.1.evaluate one.2).1 = .ok true := rfl
  have hperm := report_perm perm contained apart (.empty none) (.empty none) []
  obtain ⟨verdict, hverdict⟩ := hperm.1.1 ⟨true, hresult⟩
  exact ⟨perm, contained, apart, .empty none, hresult, verdict, hverdict,
    hperm.2.1 true verdict hresult hverdict⟩

end Theory

end Postulate
