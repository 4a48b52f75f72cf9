import Postulate.Chain.Step
import Postulate.Proofs.Chain.FirstStop

/-!
# Functions of the caller that cannot tell two journals apart

What a function of the caller answers may depend on all calls made before. A relation between
journals says which journals a function is meant not to tell apart; one that answers the same on
any two of them is blind to the relation. If the relation outlasts the adding of calls
(`Journal.Lasting`), then a chain whose functions are all blind to it does the same from both
journals: it gives the same results, becomes the same chain, and makes the same calls. This file
shows so for everything that is done with a chain, from a single read up to a builder
(`Builder.build_alike`).
-/

namespace Postulate

/-- A relation between journals that still holds when the same calls are added to both. -/
def Journal.Lasting (R : Journal → Journal → Prop) : Prop :=
  ∀ (a b : Journal) (calls : List Call), R a b → R (a ++ calls) (b ++ calls)

variable {R : Journal → Journal → Prop} {a b : Journal}

namespace Source

/-- The provider behind the source, if there is one, answers the same on related journals. -/
def BlindTo (R : Journal → Journal → Prop) : {t : ValueType} → Source t → Prop
  | _, .constant _ => True
  | _, .provider _ answer => ∀ a b, R a b → answer a = answer b
  | _, .converted _ origin => origin.BlindTo R

lemma blindTo_constant {t : ValueType} (value : t.Carrier) : (constant value).BlindTo R := trivial

lemma blindTo_cast {t u : ValueType} (h : t = u) {s : Source t} :
    (h ▸ s : Source u).BlindTo R ↔ s.BlindTo R := by
  subst h
  rfl

lemma read_alike {t : ValueType} {s : Source t} (blind : s.BlindTo R) (related : R a b) :
    ∃ answer calls, s.read a = (answer, a ++ calls) ∧ s.read b = (answer, b ++ calls) := by
  induction s with
  | constant value => exact ⟨.ok value, [], by simp [read]⟩
  | provider label answer =>
    have heq : answer a = answer b := blind a b related
    cases hb : answer b with
    | ok value =>
      simp only [read, heq, hb]
      exact ⟨_, _, rfl, rfl⟩
    | error e =>
      simp only [read, heq, hb]
      exact ⟨_, _, rfl, rfl⟩
  | converted conversion origin ih =>
    obtain ⟨e | text, calls, ha, hb⟩ := ih blind
    · exact ⟨.error e, calls, by simp only [read, ha], by simp only [read, hb]⟩
    · exact ⟨conversion.convert text, calls, by simp only [read, ha], by simp only [read, hb]⟩

/-- The calls of a read are those that it adds to the journal. -/
lemma calls_eq {t : ValueType} {s : Source t} {journal : Journal} {calls : List Call}
    {answer : Except ConversionError t.Carrier} (h : s.read journal = (answer, journal ++ calls)) :
    s.calls journal = calls := by
  have hjournal := s.journal_read journal
  rw [h] at hjournal
  exact (List.append_cancel_left hjournal).symm

end Source

/-- The check answers the same on related journals. -/
def Check.BlindTo (R : Journal → Journal → Prop) {t : ValueType} (check : Check t) : Prop :=
  ∀ a b value, R a b → check.holds value a = check.holds value b

namespace Clause

/-- Source and check answer the same on related journals. -/
structure BlindTo (R : Journal → Journal → Prop) (c : Clause) : Prop where
  source : c.source.BlindTo R
  check : ∀ check, c.check = some check → check.BlindTo R

/-- A clause that only holds a value is as blind as its source. -/
lemma blindTo_of_source {t : ValueType} {s : Source t} (h : s.BlindTo R) :
    Clause.BlindTo R { type := t, source := s } :=
  ⟨h, by simp⟩

lemma blindTo_marked {c : Clause} : c.marked.BlindTo R ↔ c.BlindTo R :=
  ⟨fun h => ⟨h.source, h.check⟩, fun h => ⟨h.source, h.check⟩⟩

variable {c : Clause}

lemma passes_alike (lasting : Journal.Lasting R) (blind : c.BlindTo R) (related : R a b)
    {calls : List Call} (h : c.Passes a calls) : c.Passes b calls := by
  obtain ⟨answer, read, ha, hb⟩ := Source.read_alike blind.source related
  cases h with
  | unchecked fresh noCheck => exact .unchecked fresh noCheck
  | @checked check value fresh hasCheck readable holds =>
    rw [ha] at readable
    rw [Source.calls_eq ha] at holds ⊢
    rw [blind.check check hasCheck _ _ value (lasting a b read related),
      ← Source.calls_eq hb] at holds
    rw [← Source.calls_eq hb]
    exact .checked fresh hasCheck (by rw [hb, readable]) holds

lemma stops_alike (lasting : Journal.Lasting R) (blind : c.BlindTo R) (related : R a b)
    {result : Except ClauseError Bool} {calls : List Call} (h : c.Stops a result calls) :
    c.Stops b result calls := by
  obtain ⟨answer, read, ha, hb⟩ := Source.read_alike blind.source related
  cases h with
  | marked seen => exact .marked seen
  | unreadable fresh hasCheck unreadable =>
    rw [ha] at unreadable
    rw [Source.calls_eq ha, ← Source.calls_eq hb]
    exact .unreadable fresh hasCheck (by rw [hb, unreadable])
  | @refused check value fresh hasCheck readable fails =>
    rw [ha] at readable
    rw [Source.calls_eq ha] at fails ⊢
    rw [blind.check check hasCheck _ _ value (lasting a b read related),
      ← Source.calls_eq hb] at fails
    rw [← Source.calls_eq hb]
    exact .refused fresh hasCheck (by rw [hb, readable]) fails

lemma value_alike (blind : c.BlindTo R) (related : R a b) :
    ∃ answer calls, c.value a = (answer, a ++ calls) ∧ c.value b = (answer, b ++ calls) := by
  obtain ⟨e | v, calls, ha, hb⟩ := Source.read_alike blind.source related
  · exact ⟨.error (.conversion e), calls, by simp only [value, ha], by simp only [value, hb]⟩
  · exact ⟨.ok ⟨c.type, v⟩, calls, by simp only [value, ha], by simp only [value, hb]⟩

end Clause

lemma allPass_alike (lasting : Journal.Lasting R) {clauses : List Clause} {calls : List Call}
    (blind : ∀ c ∈ clauses, c.BlindTo R) (related : R a b) (h : AllPass clauses a calls) :
    AllPass clauses b calls := by
  induction h generalizing b with
  | nil => exact .nil
  | @cons c rest a calls more head _ ih =>
    exact .cons (Clause.passes_alike lasting (blind c List.mem_cons_self) related head)
      (ih (fun k hk => blind k (List.mem_cons_of_mem c hk)) (lasting a b calls related))

namespace Chain

/-- All clauses of the chain are blind to the relation. -/
def BlindTo (R : Journal → Journal → Prop) (c : Chain) : Prop := ∀ k ∈ c.clauses, k.BlindTo R

/-- What holds of all clauses of a chain, marked or not, holds of them when marks have changed. -/
lemma forall_of_map_marked {P : Clause → Prop} (marked : ∀ k : Clause, P k.marked ↔ P k)
    {c d : Chain} (same : d.clauses.map Clause.marked = c.clauses.map Clause.marked)
    (h : ∀ k ∈ c.clauses, P k) : ∀ k ∈ d.clauses, P k := by
  intro k hk
  have hmem : k.marked ∈ c.clauses.map Clause.marked := same ▸ List.mem_map_of_mem hk
  obtain ⟨k', hk', heq⟩ := List.mem_map.mp hmem
  have hmarked : P k.marked := heq ▸ (marked k').mpr (h k' hk')
  exact (marked k).mp hmarked

/-- Marks have nothing to do with blindness. -/
lemma BlindTo.of_map_marked {c d : Chain} (blind : c.BlindTo R)
    (h : d.clauses.map Clause.marked = c.clauses.map Clause.marked) : d.BlindTo R :=
  forall_of_map_marked (fun _ => Clause.blindTo_marked) h blind

lemma evaluate_alike (lasting : Journal.Lasting R) {c : Chain} (blind : c.BlindTo R)
    (related : R a b) :
    ∃ verdict after calls, c.evaluate a = ⟨verdict, after, a ++ calls⟩ ∧
      c.evaluate b = ⟨verdict, after, b ++ calls⟩ ∧ after.BlindTo R := by
  -- the same clauses pass, and the same one stops the evaluation
  obtain ⟨verdict, after, calls, ha, hb⟩ : ∃ verdict after calls,
      c.evaluate a = ⟨verdict, after, a ++ calls⟩ ∧
        c.evaluate b = ⟨verdict, after, b ++ calls⟩ := by
    rcases allPass_or_stops c.clauses a with ⟨calls, all⟩ |
      ⟨passed, k, rest, calls, result, last, split, before, stop⟩
    · obtain ⟨d, hd, ha⟩ := evaluate_of_allPass all
      obtain ⟨d', hd', hb⟩ := evaluate_of_allPass (allPass_alike lasting blind related all)
      obtain rfl : d' = d := eq_of_clauses (hd'.trans hd.symm)
      exact ⟨_, _, _, ha, hb⟩
    · have hk : k.BlindTo R := blind k (by simp [split])
      have hpassed : ∀ c ∈ passed, c.BlindTo R := fun c hc => blind c (by simp [split, hc])
      obtain ⟨d, hd, ha⟩ := evaluate_of_stops split before stop
      obtain ⟨d', hd', hb⟩ := evaluate_of_stops split
        (allPass_alike lasting hpassed related before)
        (Clause.stops_alike lasting hk (lasting a b calls related) stop)
      obtain rfl : d' = d := eq_of_clauses (hd'.trans hd.symm)
      exact ⟨_, _, _, ha, hb⟩
  refine ⟨verdict, after, calls, ha, hb, blind.of_map_marked ?_⟩
  have hmarks := c.map_marked_evaluate a
  rwa [ha] at hmarks

end Chain

/-! ## Steps and builders -/

/-- The mapping answers the same on related journals. -/
def Mapping.BlindTo (R : Journal → Journal → Prop) {t u : ValueType} (m : Mapping t u) : Prop :=
  ∀ a b value, R a b → m.apply a value = m.apply b value

/-- The function of the caller that a step brings along, if it does, is blind to the relation. -/
def Step.BlindTo (R : Journal → Journal → Prop) : Step → Prop
  | .refine check => check.BlindTo R
  | .transform mapping => mapping.BlindTo R
  | .back | .read | .evaluate | .convert _ => True

/-- What a plan does is the same on related journals, and so is what its functions answer. -/
def Plan.BlindTo (R : Journal → Journal → Prop) : Plan → Prop
  | .finish | .fail _ => True
  | .take step next => step.BlindTo R ∧ ∀ answer, (next answer).BlindTo R
  | .consult next => (∀ a b, R a b → next a = next b) ∧ ∀ journal, (next journal).BlindTo R

namespace Focus

/-- The chain in focus is blind to the relation. -/
def BlindTo (R : Journal → Journal → Prop) (f : Focus) : Prop := f.chain.BlindTo R

variable {f g : Focus}

lemma blindTo_iff :
    f.BlindTo R ↔ (∀ k ∈ f.before, k.BlindTo R) ∧ f.onward.BlindTo R := by
  simp only [BlindTo, Chain.BlindTo, clauses_chain, List.mem_append, List.mem_reverse]
  exact ⟨fun h => ⟨fun k hk => h k (Or.inl hk), fun k hk => h k (Or.inr hk)⟩,
    fun h k hk => hk.elim (h.1 k) (h.2 k)⟩

lemma BlindTo.here (blind : f.BlindTo R) : f.here.BlindTo R :=
  (blindTo_iff.mp blind).2 _ List.mem_cons_self

lemma BlindTo.link (blind : f.BlindTo R) {c : Clause} (hc : c.BlindTo R) (h : f.link c = .ok g) :
    g.BlindTo R := by
  obtain ⟨-, -, hclauses⟩ := clauses_link h
  intro k hk
  rw [hclauses, List.mem_append, List.mem_singleton] at hk
  rcases hk with hk | rfl
  · exact blind k hk
  · exact hc

lemma BlindTo.refine (blind : f.BlindTo R) {check : Check f.type} (hcheck : check.BlindTo R)
    (h : f.refine check = .ok g) : g.BlindTo R := by
  have hlinked : Clause.BlindTo R
      { type := f.type, source := f.here.source, check := some check } := by
    refine ⟨blind.here.source, ?_⟩
    intro other hother
    obtain rfl := Option.some.inj hother
    exact hcheck
  exact blind.link hlinked h

lemma BlindTo.convert (blind : f.BlindTo R) {t : ValueType} {isText : f.type = .text}
    {conversion : Conversion t} (h : f.convert isText conversion = .ok g) : g.BlindTo R := by
  have hsource : (Source.converted conversion (isText ▸ f.here.source)).BlindTo R :=
    (Source.blindTo_cast isText).mpr blind.here.source
  exact blind.link (Clause.blindTo_of_source hsource) h

lemma BlindTo.settle (blind : f.BlindTo R) {linked : Except ClauseError Focus}
    (h : ∀ g, linked = .ok g → g.BlindTo R) : (f.settle linked).2.BlindTo R := by
  cases linked with
  | error e => exact blind
  | ok g => exact h g rfl

lemma evaluate_alike (lasting : Journal.Lasting R) (blind : f.BlindTo R) (related : R a b) :
    ∃ verdict after calls, f.evaluate a = (verdict, after, a ++ calls) ∧
      f.evaluate b = (verdict, after, b ++ calls) ∧ after.BlindTo R := by
  obtain ⟨hbefore, honward⟩ := blindTo_iff.mp blind
  obtain ⟨verdict, chain, calls, ha, hb, hchain⟩ := Chain.evaluate_alike lasting honward related
  exact ⟨verdict, ⟨f.before, chain⟩, calls, by simp only [evaluate, ha],
    by simp only [evaluate, hb], blindTo_iff.mpr ⟨hbefore, hchain⟩⟩

lemma transform_alike (lasting : Journal.Lasting R) (blind : f.BlindTo R) {u : ValueType}
    {mapping : Mapping f.type u} (hmapping : mapping.BlindTo R) (related : R a b) :
    ∃ linked calls, f.transform mapping a = (linked, a ++ calls) ∧
      f.transform mapping b = (linked, b ++ calls) ∧ ∀ g, linked = .ok g → g.BlindTo R := by
  by_cases hnext : f.hasNext = true
  · exact ⟨.error .linkAlreadySet, [], by simp [transform, hnext], by simp [transform, hnext],
      by simp⟩
  · obtain ⟨e | value, calls, ha, hb⟩ := Source.read_alike blind.here.source related
    · simp only [transform, hnext, ha, hb, if_false, Bool.false_eq_true]
      exact ⟨_, _, rfl, rfl, by simp⟩
    · -- the mapping is called after the read, and sees the calls of the read
      have heq : mapping.apply (a ++ calls) value = mapping.apply (b ++ calls) value :=
        hmapping _ _ value (lasting a b calls related)
      simp only [transform, hnext, ha, hb, heq, if_false, Bool.false_eq_true, List.append_assoc]
      refine ⟨_, _, rfl, rfl, fun g hg => blind.link ?_ hg⟩
      exact Clause.blindTo_of_source (Source.blindTo_constant _)

/-- A step does the same from related journals. -/
lemma perform_alike (lasting : Journal.Lasting R) (blind : f.BlindTo R) {step : Step}
    (hstep : step.BlindTo R) (related : R a b) :
    ∃ answer after calls, f.perform step a = (answer, after, a ++ calls) ∧
      f.perform step b = (answer, after, b ++ calls) ∧ after.BlindTo R := by
  cases step with
  | back =>
    cases hback : f.back? with
    | none =>
      exact ⟨.ok (.moved false), f, [], by simp [perform, hback], by simp [perform, hback], blind⟩
    | some previous =>
      have hprevious : previous.BlindTo R := by
        rw [BlindTo, chain_back hback]
        exact blind
      exact ⟨.ok (.moved true), previous, [], by simp [perform, hback], by simp [perform, hback],
        hprevious⟩
  | read =>
    obtain ⟨answer, calls, ha, hb⟩ := Clause.value_alike blind.here related
    exact ⟨answer.map .value, f, calls, by simp only [perform, value, ha],
      by simp only [perform, value, hb], blind⟩
  | evaluate =>
    obtain ⟨verdict, after, calls, ha, hb, hafter⟩ := evaluate_alike lasting blind related
    exact ⟨verdict.map .verdict, after, calls, by simp only [perform, ha],
      by simp only [perform, hb], hafter⟩
  | @refine t check =>
    -- a step made for another type fails before anything is called
    by_cases fits : t = f.type
    · subst fits
      let settled := f.settle (f.refine check)
      refine ⟨settled.1, settled.2, [], by simp [perform, settled], by simp [perform, settled], ?_⟩
      exact blind.settle fun g hg => blind.refine hstep hg
    · exact ⟨.error .wrongType, f, [], by simp [perform, fits], by simp [perform, fits], blind⟩
  | @transform t u mapping =>
    by_cases fits : t = f.type
    · subst fits
      obtain ⟨linked, calls, ha, hb, hlinked⟩ := transform_alike lasting blind hstep related
      let settled := f.settle linked
      refine ⟨settled.1, settled.2, calls, by simp [perform, ha, settled],
        by simp [perform, hb, settled], ?_⟩
      exact blind.settle hlinked
    · exact ⟨.error .wrongType, f, [], by simp [perform, fits], by simp [perform, fits], blind⟩
  | convert conversion =>
    by_cases isText : f.type = .text
    · let settled := f.settle (f.convert isText conversion)
      refine ⟨settled.1, settled.2, [], by simp [perform, isText, settled],
        by simp [perform, isText, settled], ?_⟩
      exact blind.settle fun g hg => blind.convert hg
    · exact ⟨.error .wrongType, f, [], by simp [perform, isText], by simp [perform, isText], blind⟩

end Focus

/-- A plan does the same from related journals. -/
lemma Plan.carryOut_alike (lasting : Journal.Lasting R) {plan : Plan} (hplan : plan.BlindTo R)
    {f : Focus} (blind : f.BlindTo R) (related : R a b) :
    ∃ result calls, plan.carryOut f a = (result, a ++ calls) ∧
      plan.carryOut f b = (result, b ++ calls) ∧ ∀ g, result = .ok g → g.BlindTo R := by
  induction plan generalizing f a b with
  | finish =>
    refine ⟨.ok f, [], by simp [carryOut], by simp [carryOut], ?_⟩
    intro g hg
    obtain rfl := Except.ok.inj hg
    exact blind
  | fail e => exact ⟨.error e, [], by simp [carryOut], by simp [carryOut], by simp⟩
  | take step next ih =>
    obtain ⟨answer, after, calls, ha, hb, hafter⟩ :=
      Focus.perform_alike lasting blind hplan.1 related
    obtain ⟨result, more, hrestA, hrestB, hresult⟩ :=
      ih answer (hplan.2 answer) hafter (lasting a b calls related)
    refine ⟨result, calls ++ more, ?_, ?_, hresult⟩
    · simp only [carryOut, ha, hrestA, List.append_assoc]
    · simp only [carryOut, hb, hrestB, List.append_assoc]
  | consult next ih =>
    -- both journals lead to the plan that `b` leads to
    obtain ⟨result, calls, ha, hb, hresult⟩ := ih b (hplan.2 b) blind related
    exact ⟨result, calls, by simp only [carryOut, hplan.1 a b related, ha],
      by simp only [carryOut, hb], hresult⟩

namespace Builder

/-- Source and plan are blind to the relation. -/
structure BlindTo (R : Journal → Journal → Prop) (builder : Builder) : Prop where
  source : builder.source.BlindTo R
  plan : builder.plan.BlindTo R

/-- A builder does the same from related journals. -/
lemma build_alike (lasting : Journal.Lasting R) {builder : Builder} (blind : builder.BlindTo R)
    (related : R a b) :
    ∃ result calls, builder.build a = (result, a ++ calls) ∧
      builder.build b = (result, b ++ calls) ∧ ∀ c, result = .ok c → c.BlindTo R := by
  have hentry : builder.entry.BlindTo R := by
    intro k hk
    obtain rfl := List.mem_singleton.mp hk
    exact Clause.blindTo_of_source blind.source
  obtain ⟨e | f, calls, ha, hb, hresult⟩ := Plan.carryOut_alike lasting blind.plan hentry related
  · exact ⟨.error e, calls, by simp only [build, ha], by simp only [build, hb], by simp⟩
  · refine ⟨.ok f.chain, calls, by simp only [build, ha], by simp only [build, hb], ?_⟩
    intro c hc
    obtain rfl := Except.ok.inj hc
    exact hresult f rfl

end Builder

/-! ## Equality

No function of the caller can tell a journal from itself. -/

lemma Journal.lasting_eq : Journal.Lasting Eq := by
  rintro a b calls rfl
  rfl

lemma Source.blindTo_eq {t : ValueType} (s : Source t) : s.BlindTo Eq := by
  induction s with
  | constant value => trivial
  | provider label answer => exact fun _ _ h => congrArg answer h
  | converted conversion origin ih => exact ih

lemma Check.blindTo_eq {t : ValueType} (check : Check t) : check.BlindTo Eq :=
  fun _ _ value h => congrArg (check.holds value) h

lemma Chain.blindTo_eq (c : Chain) : c.BlindTo Eq :=
  fun k _ => ⟨k.source.blindTo_eq, fun check _ => check.blindTo_eq⟩

lemma Step.blindTo_eq (step : Step) : step.BlindTo Eq := by
  cases step with
  | back | read | evaluate | convert _ => trivial
  | refine check => exact check.blindTo_eq
  | transform mapping => exact fun _ _ value h => congrArg (mapping.apply · value) h

lemma Plan.blindTo_eq (plan : Plan) : plan.BlindTo Eq := by
  induction plan with
  | finish | fail _ => trivial
  | take step next ih => exact ⟨step.blindTo_eq, ih⟩
  | consult next ih => exact ⟨fun _ _ h => congrArg next h, ih⟩

lemma Builder.blindTo_eq (builder : Builder) : builder.BlindTo Eq :=
  ⟨builder.source.blindTo_eq, builder.plan.blindTo_eq⟩

/-- Building only adds to the journal. -/
lemma Builder.exists_journal_build (builder : Builder) (journal : Journal) :
    ∃ calls, (builder.build journal).2 = journal ++ calls := by
  obtain ⟨result, calls, hbuild, -, -⟩ :=
    build_alike Journal.lasting_eq builder.blindTo_eq (Eq.refl journal)
  exact ⟨calls, by rw [hbuild]⟩

end Postulate
