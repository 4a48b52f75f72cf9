import Postulate.Proofs.Chain.Blind
import Postulate.Proofs.Chain.Linking

/-!
# Functions of one's own

Functions of the caller can only influence each other through the journal. A chain is contained in
a set of labels when all its functions have labels of the set, and when these functions do not look
at calls of any others (`Chain.Contained`). Then whatever is done with the chain makes calls within
the set only (the lemmas on `Within`), and what comes of it depends on the calls within the set
only, so that calls of functions outside can be added to the journal or left out of it
(`Journal.agree_append_of_unshared`). This file shows so for everything that is done with a chain;
the main results are `Chain.evaluate_contained` and `Builder.build_contained`.
-/

namespace Postulate

/-- The label of the function that was called. -/
def Call.label : Call → String
  | .read label _ | .failedRead label _ | .checked label _ _ | .mapped label _ _
  | .supposed label _ => label

/-- No label is in both sets. -/
def Unshared (own other : String → Bool) : Prop :=
  ∀ label, own label = true → other label = true → False

lemma Unshared.symm {own other : String → Bool} (h : Unshared own other) : Unshared other own :=
  fun label hother hown => h label hown hother

namespace Journal

/-- All calls are of functions with labels of the set. -/
def Within (own : String → Bool) (calls : List Call) : Prop :=
  ∀ call ∈ calls, own call.label = true

/-- The second journal is the first with calls added that are all within the set. -/
def Grows (own : String → Bool) (a b : Journal) : Prop :=
  ∃ calls, b = a ++ calls ∧ Within own calls

/-- The two journals have the same calls of functions with labels of the set, in the same order. -/
def Agree (own : String → Bool) (a b : Journal) : Prop :=
  a.filter (fun call => own call.label) = b.filter (fun call => own call.label)

variable {own other : String → Bool} {a b c : Journal} {calls more : List Call}

lemma within_nil : Within own [] := by simp [Within]

lemma Within.append (h : Within own calls) (k : Within own more) : Within own (calls ++ more) := by
  intro call hcall
  exact (List.mem_append.1 hcall).elim (h call) (k call)

lemma within_singleton {call : Call} (h : own call.label = true) : Within own [call] := by
  intro other hother
  rwa [List.mem_singleton.1 hother]

lemma Grows.refl (a : Journal) : Grows own a a := ⟨[], (List.append_nil a).symm, within_nil⟩

lemma Grows.trans (h : Grows own a b) (k : Grows own b c) : Grows own a c := by
  obtain ⟨calls, rfl, hcalls⟩ := h
  obtain ⟨more, rfl, hmore⟩ := k
  exact ⟨calls ++ more, List.append_assoc a calls more, hcalls.append hmore⟩

lemma Agree.refl (a : Journal) : Agree own a a := rfl

lemma Agree.symm (h : Agree own a b) : Agree own b a := Eq.symm h

lemma Agree.trans (h : Agree own a b) (k : Agree own b c) : Agree own a c := Eq.trans h k

lemma lasting_agree (own : String → Bool) : Journal.Lasting (Agree own) := by
  intro a b calls h
  rw [Agree, List.filter_append, List.filter_append, show a.filter _ = b.filter _ from h]

/-- Calls of functions outside the set make no difference. -/
lemma agree_append_of_unshared (unshared : Unshared own other) (h : Within other calls)
    (a : Journal) : Agree own (a ++ calls) a := by
  have hnone : calls.filter (fun call => own call.label) = [] := by
    rw [List.filter_eq_nil_iff]
    exact fun call hcall hown => unshared call.label hown (h call hcall)
  rw [Agree, List.filter_append, hnone, List.append_nil]

/-- Journals that agree have equally many calls of a kind, if all its calls are within the set. -/
lemma Agree.countP_eq {p : Call → Bool} (h : Agree own a b)
    (within : ∀ call, p call = true → own call.label = true) : a.countP p = b.countP p := by
  -- the calls that are counted are among those in which the journals agree
  have hfilter : ∀ journal : Journal,
      (journal.filter fun call => own call.label).countP p = journal.countP p := by
    intro journal
    rw [List.countP_filter]
    refine List.countP_congr fun call _ => ?_
    rw [Bool.and_eq_true]
    exact ⟨And.left, fun hp => ⟨hp, within call hp⟩⟩
  rw [← hfilter a, ← hfilter b, show a.filter _ = b.filter _ from h]

end Journal

open Journal (Agree)

variable {own : String → Bool} {a b journal : Journal} {calls : List Call}

/-! ## Labels of the set -/

/-- The provider behind the source, if there is one, has a label of the set. -/
def Source.Within (own : String → Bool) : {t : ValueType} → Source t → Prop
  | _, .constant _ => True
  | _, .provider label _ => own label = true
  | _, .converted _ origin => origin.Within own

lemma Source.within_calls {t : ValueType} {s : Source t} (h : s.Within own) (journal : Journal) :
    Journal.Within own (s.calls journal) := by
  induction s with
  | constant value => exact Journal.within_nil
  | provider label answer =>
    rw [calls]
    cases answer journal with
    | ok value => exact Journal.within_singleton h
    | error e => exact Journal.within_singleton h
  | converted conversion origin ih => exact ih h

lemma Source.within_cast {t u : ValueType} (h : t = u) {s : Source t} :
    (h ▸ s : Source u).Within own ↔ s.Within own := by
  subst h
  rfl

namespace Clause

/-- The functions of the clause have labels of the set. -/
structure Within (own : String → Bool) (c : Clause) : Prop where
  source : c.source.Within own
  check : ∀ check, c.check = some check → own check.label = true

/-- Without a check, it is a matter of the source. -/
lemma within_of_source {t : ValueType} {s : Source t} (h : s.Within own) :
    Clause.Within own { type := t, source := s } :=
  ⟨h, by simp⟩

lemma within_marked {c : Clause} : c.marked.Within own ↔ c.Within own :=
  ⟨fun h => ⟨h.source, h.check⟩, fun h => ⟨h.source, h.check⟩⟩

variable {c : Clause}

/-- A read and the question after it. -/
lemma Within.calls_question (h : c.Within own) {check : Check c.type}
    (hasCheck : c.check = some check) (value : c.type.Carrier) (passed : Bool) :
    Journal.Within own (c.source.calls journal ++ [check.call value passed]) := by
  have hlabel : (check.call value passed).label = check.label := by
    cases check <;> rfl
  have hquestion : Journal.Within own [check.call value passed] :=
    Journal.within_singleton (by rw [hlabel, h.check check hasCheck])
  exact (Source.within_calls h.source journal).append hquestion

lemma Within.passes (h : c.Within own) (passes : c.Passes journal calls) :
    Journal.Within own calls := by
  cases passes with
  | unchecked => exact Journal.within_nil
  | checked fresh hasCheck => exact h.calls_question hasCheck _ _

lemma Within.stops (h : c.Within own) {result : Except ClauseError Bool}
    (stop : c.Stops journal result calls) : Journal.Within own calls := by
  cases stop with
  | marked => exact Journal.within_nil
  | unreadable => exact Source.within_calls h.source journal
  | refused fresh hasCheck => exact h.calls_question hasCheck _ _

end Clause

lemma within_of_allPass {clauses : List Clause} (h : ∀ c ∈ clauses, c.Within own)
    (all : AllPass clauses journal calls) : Journal.Within own calls := by
  induction all with
  | nil => exact Journal.within_nil
  | @cons c rest journal calls more head _ ih =>
    have hhead := (h c List.mem_cons_self).passes head
    exact hhead.append (ih fun k hk => h k (List.mem_cons_of_mem c hk))

namespace Chain

/-- The functions of the chain have labels of the set. -/
def Within (own : String → Bool) (c : Chain) : Prop := ∀ k ∈ c.clauses, k.Within own

/-- Marks have nothing to do with labels. -/
lemma Within.of_map_marked {c d : Chain} (h : c.Within own)
    (same : d.clauses.map Clause.marked = c.clauses.map Clause.marked) : d.Within own :=
  forall_of_map_marked (fun _ => Clause.within_marked) same h

lemma Within.evaluate {c : Chain} (h : c.Within own) (journal : Journal) :
    Journal.Grows own journal (c.evaluate journal).journal ∧
      (c.evaluate journal).chain.Within own := by
  refine ⟨?_, h.of_map_marked (c.map_marked_evaluate journal)⟩
  rcases allPass_or_stops c.clauses journal with ⟨calls, all⟩ |
    ⟨passed, k, rest, calls, result, last, split, before, stop⟩
  · obtain ⟨d, -, heval⟩ := evaluate_of_allPass all
    exact ⟨calls, by rw [heval], within_of_allPass h all⟩
  · obtain ⟨d, -, heval⟩ := evaluate_of_stops split before stop
    have hk : k.Within own := h k (by simp [split])
    have hpassed : ∀ c ∈ passed, c.Within own := fun c hc => h c (by simp [split, hc])
    exact ⟨calls ++ last, by rw [heval], (within_of_allPass hpassed before).append (hk.stops stop)⟩

end Chain

/-- The function of the caller that a step brings along, if it does, has a label of the set. -/
def Step.Within (own : String → Bool) : Step → Prop
  | .refine check => own check.label = true
  | .transform mapping => own mapping.label = true
  | .back | .read | .evaluate | .convert _ => True

/-- All functions of the caller that can come in have labels of the set. -/
def Plan.Within (own : String → Bool) : Plan → Prop
  | .finish | .fail _ => True
  | .take step next => step.Within own ∧ ∀ answer, (next answer).Within own
  | .consult next => ∀ journal, (next journal).Within own

namespace Focus

variable {f : Focus} {step : Step}

lemma within_here (h : f.chain.Within own) : f.here.Within own :=
  h f.here (by rw [clauses_chain]; exact List.mem_append_right _ List.mem_cons_self)

lemma within_linked (h : f.chain.Within own) (last : f.hasNext = false) {c : Clause}
    (hc : c.Within own) : (f.linked c).chain.Within own := by
  intro k hk
  rw [clauses_linked last, List.mem_append, List.mem_singleton] at hk
  rcases hk with hk | rfl
  · exact h k hk
  · exact hc

/-- Linking calls the functions of the clause before, and the mapping. -/
lemma within_links {answer : Except ClauseError Answer} {after : Focus}
    (h : f.chain.Within own) (hstep : step.Within own)
    (rules : f.Links journal step answer after calls) :
    Journal.Within own calls ∧ after.chain.Within own := by
  have hhere := within_here h
  have hcalls := Source.within_calls hhere.source journal
  cases rules with
  | taken => exact ⟨Journal.within_nil, h⟩
  | @refined check last =>
    refine ⟨Journal.within_nil, within_linked h last ⟨hhere.source, ?_⟩⟩
    intro other hother
    obtain rfl := Option.some.inj hother
    exact hstep
  | converted last isText =>
    refine ⟨Journal.within_nil, within_linked h last (Clause.within_of_source ?_)⟩
    exact (Source.within_cast isText).2 hhere.source
  | unreadable => exact ⟨hcalls, h⟩
  | transformed last =>
    exact ⟨hcalls.append (Journal.within_singleton hstep),
      within_linked h last (Clause.within_of_source trivial)⟩

/-- A step calls functions with labels of the set, and no others come into the chain. -/
lemma within_perform (h : f.chain.Within own) (hstep : step.Within own) (journal : Journal) :
    Journal.Grows own journal (f.perform step journal).2.2 ∧
      (f.perform step journal).2.1.chain.Within own := by
  by_cases fits : step.Fits f.type
  · cases isLink : step.isLink with
    | true =>
      obtain ⟨answer, after, calls, rules⟩ := exists_links isLink fits journal
      obtain ⟨hcalls, hafter⟩ := within_links h hstep rules
      rw [perform_of_links rules]
      exact ⟨⟨calls, rfl, hcalls⟩, hafter⟩
    | false =>
      cases step with
      | refine | transform | convert => simp [Step.isLink] at isLink
      | back =>
        cases hback : f.back? with
        | none =>
          simp only [perform, hback]
          exact ⟨Journal.Grows.refl journal, h⟩
        | some previous =>
          simp only [perform, hback, chain_back hback]
          exact ⟨Journal.Grows.refl journal, h⟩
      | read =>
        have hjournal : (f.here.value journal).2 = journal ++ f.here.source.calls journal := by
          rw [← Source.journal_read, Clause.value]
          rcases f.here.source.read journal with ⟨e | value, after⟩ <;> rfl
        have hcalls := Source.within_calls (within_here h).source journal
        exact ⟨⟨f.here.source.calls journal, hjournal, hcalls⟩, h⟩
      | evaluate =>
        have honward : f.onward.Within own := fun k hk => h k (by simp [clauses_chain, hk])
        obtain ⟨hcalls, hchain⟩ := honward.evaluate journal
        refine ⟨hcalls, fun k hk => ?_⟩
        simp only [perform, evaluate, clauses_chain, List.mem_append] at hk
        rcases hk with hk | hk
        · exact h k (by simp [clauses_chain, List.mem_reverse.1 hk])
        · exact hchain k hk
  · rw [perform_of_not_fits fits]
    exact ⟨Journal.Grows.refl journal, h⟩

end Focus

lemma Plan.within_carryOut {plan : Plan} (hplan : plan.Within own) {f : Focus}
    (h : f.chain.Within own) (journal : Journal) :
    Journal.Grows own journal (plan.carryOut f journal).2 ∧
      ∀ g, (plan.carryOut f journal).1 = .ok g → g.chain.Within own := by
  induction plan generalizing f journal with
  | finish =>
    refine ⟨Journal.Grows.refl journal, fun g hg => ?_⟩
    obtain rfl := Except.ok.inj hg
    exact h
  | fail e => exact ⟨Journal.Grows.refl journal, by simp [carryOut]⟩
  | take step next ih =>
    obtain ⟨hcalls, hafter⟩ := Focus.within_perform h hplan.1 journal
    obtain ⟨hmore, hresult⟩ := ih _ (hplan.2 _) hafter (f.perform step journal).2.2
    exact ⟨hcalls.trans hmore, hresult⟩
  | consult next ih => exact ih journal (hplan journal) h journal

/-- Source and plan have labels of the set. -/
structure Builder.Within (own : String → Bool) (builder : Builder) : Prop where
  source : builder.source.Within own
  plan : builder.plan.Within own

lemma Builder.Within.build {builder : Builder} (h : builder.Within own) (journal : Journal) :
    Journal.Grows own journal (builder.build journal).2 ∧
      ∀ c, (builder.build journal).1 = .ok c → c.Within own := by
  have hentry : builder.entry.chain.Within own := by
    intro k hk
    obtain rfl := List.mem_singleton.1 hk
    exact Clause.within_of_source h.source
  obtain ⟨hcalls, hresult⟩ := Plan.within_carryOut h.plan hentry journal
  rcases hplan : builder.plan.carryOut builder.entry journal with ⟨e | f, after⟩
  · rw [hplan] at hcalls
    simp only [Builder.build, hplan]
    exact ⟨hcalls, by simp⟩
  · rw [hplan] at hcalls hresult
    simp only [Builder.build, hplan]
    refine ⟨hcalls, fun c hc => ?_⟩
    obtain rfl := Except.ok.inj hc
    exact hresult f rfl

/-! ## Nothing but calls of one's own -/

/-- The functions of the chain have labels of the set, and do not look at calls of others. -/
structure Chain.Contained (own : String → Bool) (c : Chain) : Prop where
  within : c.Within own
  blind : c.BlindTo (Agree own)

/-- Evaluating a contained chain makes calls within the set, and calls outside it make no
difference to what comes of it. -/
lemma Chain.evaluate_contained {c : Chain} (h : c.Contained own) (agree : Agree own a b) :
    ∃ verdict after calls, c.evaluate a = ⟨verdict, after, a ++ calls⟩ ∧
      c.evaluate b = ⟨verdict, after, b ++ calls⟩ ∧
        Journal.Within own calls ∧ after.Contained own := by
  obtain ⟨verdict, after, calls, ha, hb, blind⟩ :=
    evaluate_alike (Journal.lasting_agree own) h.blind agree
  obtain ⟨⟨calls', hjournal, hcalls⟩, within⟩ := h.within.evaluate a
  rw [ha] at hjournal within
  obtain rfl := List.append_cancel_left hjournal
  exact ⟨verdict, after, calls, ha, hb, hcalls, within, blind⟩

/-- The functions of the builder have labels of the set, and do not look at calls of others. -/
structure Builder.Contained (own : String → Bool) (builder : Builder) : Prop where
  within : builder.Within own
  blind : builder.BlindTo (Agree own)

/-- Building a contained chain makes calls within the set, and calls outside it make no difference
to what is built. -/
lemma Builder.build_contained {builder : Builder} (h : builder.Contained own)
    (agree : Agree own a b) :
    ∃ result calls, builder.build a = (result, a ++ calls) ∧
      builder.build b = (result, b ++ calls) ∧ Journal.Within own calls ∧
        ∀ c, result = .ok c → c.Contained own := by
  obtain ⟨result, calls, ha, hb, blind⟩ :=
    build_alike (Journal.lasting_agree own) h.blind agree
  obtain ⟨⟨calls', hjournal, hcalls⟩, within⟩ := h.within.build a
  rw [ha] at hjournal within
  obtain rfl := List.append_cancel_left hjournal
  exact ⟨result, calls, ha, hb, hcalls, fun c hc => ⟨within c hc, blind c hc⟩⟩

/-! ## Plain plans -/

/-- Steps that are taken one after the other bring in what each of them brings in. -/
lemma Plan.contained_ofSteps {R : Journal → Journal → Prop} {steps : List Step}
    (h : ∀ step ∈ steps, step.Within own ∧ step.BlindTo R) :
    (Plan.ofSteps steps).Within own ∧ (Plan.ofSteps steps).BlindTo R := by
  induction steps with
  | nil => exact ⟨trivial, trivial⟩
  | cons step steps ih =>
    obtain ⟨hwithin, hblind⟩ := h step List.mem_cons_self
    have hrest := ih fun other hother => h other (List.mem_cons_of_mem step hother)
    -- an answer goes on to the next steps, and an error ends the plan
    refine ⟨⟨hwithin, fun answer => ?_⟩, ⟨hblind, fun answer => ?_⟩⟩
    · cases answer with
      | error e => trivial
      | ok answer => exact hrest.1
    · cases answer with
      | error e => trivial
      | ok answer => exact hrest.2

/-- A builder with such a plan is contained when its source and its steps are. -/
lemma Builder.contained_ofSteps {t : ValueType} {s : Source t} {steps : List Step}
    (source : s.Within own ∧ s.BlindTo (Agree own))
    (h : ∀ step ∈ steps, step.Within own ∧ step.BlindTo (Agree own)) :
    Builder.Contained own { type := t, source := s, plan := .ofSteps steps } := by
  obtain ⟨hwithin, hblind⟩ := Plan.contained_ofSteps h
  exact ⟨⟨source.1, hwithin⟩, ⟨source.2, hblind⟩⟩

end Postulate
