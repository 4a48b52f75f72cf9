import Postulate.Proofs.Chain.Blind
import Postulate.Proofs.Theory.Registration

/-!
# Two runs of the same commands

Two theories that differ in their ledgers only, with two journals that no function of the caller
can tell apart, go on doing the same: nothing that a command returns or changes looks at a ledger,
the ledger itself apart. The two ledgers are related by whatever relation outlasts counting and
logging (`Log.Ledger.Lasting`), and the two journals by a relation that the theory and the
commands are blind to. The main result is `Theory.run_alike`.
-/

namespace Postulate

/-- A relation between ledgers that still holds when the same is counted or logged in both. -/
structure Log.Ledger.Lasting (S : Log.Ledger → Log.Ledger → Prop) : Prop where
  count : ∀ (l m : Log.Ledger) (tally : Log.Tally), S l m → S (l.count tally) (m.count tally)
  note : ∀ (l m : Log.Ledger) (event : Log.Event), S l m → S (l.note event) (m.note event)

open Log (Ledger)

variable {R : Journal → Journal → Prop} {S : Ledger → Ledger → Prop} {a b : Journal}

namespace Hypothesis

/-- The chain of the hypothesis, if it has one, is blind to the relation. -/
def BlindTo (R : Journal → Journal → Prop) (h : Hypothesis) : Prop :=
  ∀ c, h.chain = some c → c.BlindTo R

variable {h : Hypothesis}

lemma blindTo_of_chain {c : Chain} (hc : c.BlindTo R) (hchain : h.chain = some c) :
    h.BlindTo R := by
  intro d hd
  obtain rfl := Option.some.inj (hchain.symm.trans hd)
  exact hc

lemma suppose_alike (lasting : Journal.Lasting R) {builder : Builder}
    (hbuilder : builder.BlindTo R) (related : R a b) :
    ∃ result calls, h.suppose builder a = (result, a ++ calls) ∧
      h.suppose builder b = (result, b ++ calls) ∧ ∀ g, result = .ok g → g.BlindTo R := by
  by_cases hs : h.isSupposed = true
  · exact ⟨.error (.suppositionAlreadySet h.label), [], by simp [suppose_of_isSupposed hs],
      by simp [suppose_of_isSupposed hs], by simp⟩
  · obtain ⟨e | c, calls, ha, hb, hresult⟩ := Builder.build_alike lasting hbuilder related
    · exact ⟨.error (.clause e), calls, by simp [suppose, hs, ha], by simp [suppose, hs, hb],
        by simp⟩
    · refine ⟨.ok { h with chain := some c }, calls, by simp [suppose, hs, ha],
        by simp [suppose, hs, hb], ?_⟩
      intro g hg
      obtain rfl := Except.ok.inj hg
      exact blindTo_of_chain (hresult c rfl) rfl

lemma evaluate_alike (lasting : Journal.Lasting R) (blind : h.BlindTo R) (related : R a b) :
    ∃ result after calls, h.evaluate a = (result, after, a ++ calls) ∧
      h.evaluate b = (result, after, b ++ calls) ∧ after.BlindTo R := by
  cases hchain : h.chain with
  | none =>
    exact ⟨.error (.missingSupposition h.label), h, [], by simp [evaluate, hchain],
      by simp [evaluate, hchain], blind⟩
  | some c =>
    obtain ⟨verdict, after, calls, ha, hb, hafter⟩ :=
      Chain.evaluate_alike lasting (blind c hchain) related
    exact ⟨verdict.mapError .clause, { h with chain := some after }, calls,
      by simp only [evaluate, hchain, ha], by simp only [evaluate, hchain, hb],
      blindTo_of_chain hafter rfl⟩

end Hypothesis

/-- The builder of the command, if it has one, is blind to the relation. -/
def HypothesisCommand.BlindTo (R : Journal → Journal → Prop) : HypothesisCommand → Prop
  | .suppose builder => builder.BlindTo R
  | .evaluate => True

/-- The builder of the command, if it has one, is blind to the relation. -/
def Command.BlindTo (R : Journal → Journal → Prop) : Command → Prop
  | .suppose _ builder => builder.BlindTo R
  | .direct _ command | .named _ command => command.BlindTo R
  | .add _ | .evaluate | .report => True

lemma HypothesisCommand.blindTo_eq (command : HypothesisCommand) : command.BlindTo Eq := by
  cases command with
  | suppose builder => exact builder.blindTo_eq
  | evaluate => trivial

lemma Command.blindTo_eq (command : Command) : command.BlindTo Eq := by
  cases command with
  | suppose name builder => exact builder.blindTo_eq
  | direct index command => exact command.blindTo_eq
  | named name command => exact command.blindTo_eq
  | add | evaluate | report => trivial

lemma Hypothesis.perform_alike (lasting : Journal.Lasting R) {h : Hypothesis}
    (blind : h.BlindTo R) {command : HypothesisCommand} (hcommand : command.BlindTo R)
    (related : R a b) :
    ∃ result after calls, h.perform command a = (result, after, a ++ calls) ∧
      h.perform command b = (result, after, b ++ calls) ∧ after.BlindTo R := by
  cases command with
  | suppose builder =>
    obtain ⟨e | g, calls, ha, hb, hresult⟩ := suppose_alike (h := h) lasting hcommand related
    · exact ⟨.error e, h, calls, by simp only [perform, ha], by simp only [perform, hb], blind⟩
    · exact ⟨.ok .supposed, g, calls, by simp only [perform, ha], by simp only [perform, hb],
        hresult g rfl⟩
  | evaluate =>
    obtain ⟨result, after, calls, ha, hb, hafter⟩ := evaluate_alike lasting blind related
    exact ⟨result.map .verdict, after, calls, by simp only [perform, ha],
      by simp only [perform, hb], hafter⟩

namespace Theory

/-- Two theories differ in their ledgers only, and these are related. -/
structure Alike (S : Ledger → Ledger → Prop) (t u : Theory) : Prop where
  name_eq : u.name = t.name
  hypotheses_eq : u.hypotheses = t.hypotheses
  names_eq : u.names = t.names
  ledger : S t.ledger u.ledger

/-- All hypotheses of the theory are blind to the relation. -/
def BlindTo (R : Journal → Journal → Prop) (t : Theory) : Prop := ∀ h ∈ t.hypotheses, h.BlindTo R

variable {t u : Theory}

namespace Alike

lemma label_eq (h : t.Alike S u) : u.label = t.label := by rw [label, label, h.name_eq]

lemma length_eq (h : t.Alike S u) : u.length = t.length := by rw [length, length, h.hypotheses_eq]

lemma position?_eq (h : t.Alike S u) (n : String) : u.position? n = t.position? n := by
  rw [position?, position?, h.names_eq]

lemma locate_eq (h : t.Alike S u) (n : String) : u.locate n = t.locate n := by
  rw [locate, locate, h.position?_eq, h.hypotheses_eq]

lemma isFree_iff (h : t.Alike S u) {name : Option String} : u.IsFree name ↔ t.IsFree name := by
  simp only [IsFree, h.position?_eq]

lemma fresh_eq (h : t.Alike S u) (name : Option String) (chain : Option Chain) :
    u.fresh name chain = t.fresh name chain := by
  rw [fresh, fresh, h.length_eq]

lemma refuse (steady : Ledger.Lasting S) (h : t.Alike S u) (n : String) :
    (t.refuse n).Alike S (u.refuse n) :=
  ⟨h.name_eq, h.hypotheses_eq, h.names_eq, steady.note _ _ _ (steady.count _ _ _ h.ledger)⟩

lemma register (steady : Ledger.Lasting S) (h : t.Alike S u) (g : Hypothesis) :
    (t.register g).Alike S (u.register g) := by
  refine ⟨h.name_eq, ?_, ?_, steady.note _ _ _ (steady.count _ _ _ h.ledger)⟩
  · simp only [Theory.register, enter, confirm, h.hypotheses_eq]
  · simp only [Theory.register, enter, confirm, h.names_eq]

end Alike

lemma blindTo_eq (t : Theory) : t.BlindTo Eq := fun _ _ c _ => c.blindTo_eq

/-! ## Registrations -/

lemma BlindTo.register (blind : t.BlindTo R) {g : Hypothesis} (hg : g.BlindTo R) :
    (t.register g).BlindTo R := by
  intro k hk
  have hmem : k ∈ t.hypotheses ++ [g] := hk
  rcases List.mem_append.mp hmem with hk | hk
  · exact blind k hk
  · obtain rfl := List.mem_singleton.mp hk
    exact hg

lemma blindTo_fresh (t : Theory) (name : Option String) : (t.fresh name none).BlindTo R := by
  simp [Hypothesis.BlindTo, fresh]

lemma add_alike (steady : Ledger.Lasting S) (alike : t.Alike S u) (blind : t.BlindTo R)
    (name : Option String) :
    ∃ result t' u', t.add name = (result, t') ∧ u.add name = (result, u') ∧ t'.Alike S u' ∧
      t'.BlindTo R := by
  rcases t.isFree_or_taken (properName name) with free | ⟨n, proper, taken⟩
  · refine ⟨_, _, _, add_of_isFree free, ?_, alike.register steady _,
      blind.register (t.blindTo_fresh name)⟩
    rw [add_of_isFree (alike.isFree_iff.mpr free), alike.length_eq, alike.fresh_eq]
  · refine ⟨_, _, _, add_of_taken proper taken, ?_, alike.refuse steady n, blind⟩
    exact add_of_taken proper (by rw [alike.position?_eq, taken])

lemma suppose_alike (lasting : Journal.Lasting R) (steady : Ledger.Lasting S)
    (alike : t.Alike S u) (blind : t.BlindTo R) (name : Option String) {builder : Builder}
    (hbuilder : builder.BlindTo R) (related : R a b) :
    ∃ result t' u' calls, t.suppose name builder a = (result, t', a ++ calls) ∧
      u.suppose name builder b = (result, u', b ++ calls) ∧ t'.Alike S u' ∧ t'.BlindTo R := by
  rcases t.isFree_or_taken (properName name) with free | ⟨n, proper, taken⟩
  · have free' := alike.isFree_iff.mpr free
    obtain ⟨e | c, calls, ha, hb, hresult⟩ := Builder.build_alike lasting hbuilder related
    · exact ⟨_, t, u, calls, suppose_of_fails free ha, suppose_of_fails free' hb, alike, blind⟩
    · refine ⟨_, _, _, calls, suppose_of_builds free ha, ?_, alike.register steady _,
        blind.register (Hypothesis.blindTo_of_chain (hresult c rfl) rfl)⟩
      rw [suppose_of_builds free' hb, alike.length_eq, alike.fresh_eq]
  · have taken' : (u.position? n).isSome = true := by rw [alike.position?_eq, taken]
    refine ⟨.error (.duplicateName n), t.refuse n, u.refuse n, [], ?_, ?_, alike.refuse steady n,
      blind⟩
    · rw [suppose_of_taken proper taken, List.append_nil]
    · rw [suppose_of_taken proper taken', List.append_nil]

/-! ## Work on one hypothesis -/

lemma direct_alike (lasting : Journal.Lasting R) (alike : t.Alike S u) (blind : t.BlindTo R)
    (index : Nat) {command : HypothesisCommand} (hcommand : command.BlindTo R) (related : R a b) :
    ∃ result t' u' calls, t.direct index command a = (result, t', a ++ calls) ∧
      u.direct index command b = (result, u', b ++ calls) ∧ t'.Alike S u' ∧ t'.BlindTo R := by
  cases hget : t.hypotheses[index]? with
  | none =>
    exact ⟨.ok .absent, t, u, [], by simp [direct, hget],
      by simp [direct, alike.hypotheses_eq, hget], alike, blind⟩
  | some h =>
    obtain ⟨result, after, calls, ha, hb, hafter⟩ :=
      Hypothesis.perform_alike lasting (blind h (List.mem_of_getElem? hget)) hcommand related
    refine ⟨result, { t with hypotheses := t.hypotheses.set index after },
      { u with hypotheses := u.hypotheses.set index after }, calls,
      by simp only [direct, hget, ha], by simp only [direct, alike.hypotheses_eq, hget, hb], ?_, ?_⟩
    · exact ⟨alike.name_eq, by simp only [alike.hypotheses_eq], alike.names_eq, alike.ledger⟩
    · intro k hk
      rcases List.mem_or_eq_of_mem_set hk with hk | rfl
      · exact blind k hk
      · exact hafter

/-! ## Evaluation -/

lemma pass_alike (lasting : Journal.Lasting R) (steady : Ledger.Lasting S) (label : String)
    {hypotheses : List Hypothesis} (blind : ∀ h ∈ hypotheses, h.BlindTo R) (verdict : Bool)
    {l m : Ledger} (hledger : S l m) (related : R a b) :
    ∃ result after l' m' calls,
      pass label hypotheses verdict l a = ⟨result, after, l', a ++ calls⟩ ∧
        pass label hypotheses verdict m b = ⟨result, after, m', b ++ calls⟩ ∧ S l' m' ∧
          ∀ h ∈ after, h.BlindTo R := by
  induction hypotheses generalizing verdict l m a b with
  | nil => exact ⟨.ok (verdict, []), [], l, m, [], by simp [pass], by simp [pass], hledger, blind⟩
  | cons h rest ih =>
    obtain ⟨e | passed, after, calls, ha, hb, hafter⟩ :=
      Hypothesis.evaluate_alike lasting (blind h List.mem_cons_self) related
    · -- the pass ends here on both sides, and the rest stays as it is
      simp only [pass, ha, hb]
      refine ⟨_, _, _, _, _, rfl, rfl, steady.note _ _ _ (steady.count _ _ _ hledger), ?_⟩
      simpa [hafter] using fun k hk => blind k (List.mem_cons_of_mem h hk)
    · obtain ⟨result, others, l', m', more, hpassA, hpassB, hl, hothers⟩ :=
        ih (fun k hk => blind k (List.mem_cons_of_mem h hk)) (passed && verdict)
          (steady.note _ _ (.hypothesisEvaluated after.label passed)
            (steady.count _ _ (.verdict passed) hledger))
          (lasting a b calls related)
      simp only [pass, ha, hb, hpassA, hpassB, List.append_assoc]
      exact ⟨_, _, _, _, _, rfl, rfl, hl, by simpa [hafter] using hothers⟩

lemma report_alike (lasting : Journal.Lasting R) (steady : Ledger.Lasting S)
    (alike : t.Alike S u) (blind : t.BlindTo R) (related : R a b) :
    ∃ result t' u' calls, t.report a = (result, t', a ++ calls) ∧
      u.report b = (result, u', b ++ calls) ∧ t'.Alike S u' ∧ t'.BlindTo R := by
  have hbegun : S t.begun u.begun := by
    rw [begun, begun, alike.label_eq, alike.length_eq]
    exact steady.note _ _ _ (steady.count _ _ _ alike.ledger)
  obtain ⟨result, after, l', m', calls, ha, hb, hl, hafter⟩ :=
    pass_alike lasting steady t.label blind true hbegun related
  rcases result with e | ⟨verdict, outcomes⟩
  · refine ⟨.error e, { t with hypotheses := after, ledger := l' },
      { u with hypotheses := after, ledger := m' }, calls, ?_, ?_,
      ⟨alike.name_eq, rfl, alike.names_eq, hl⟩, hafter⟩
    · simp only [report, ha]
    · simp only [report, alike.label_eq, alike.hypotheses_eq, hb]
  · refine ⟨.ok ⟨t.name, verdict, outcomes⟩,
      { t with hypotheses := after, ledger := l'.note (.evaluationComplete t.label verdict) },
      { u with hypotheses := after, ledger := m'.note (.evaluationComplete t.label verdict) },
      calls, ?_, ?_, ⟨alike.name_eq, rfl, alike.names_eq, steady.note _ _ _ hl⟩, hafter⟩
    · simp only [report, ha]
    · simp only [report, alike.label_eq, alike.hypotheses_eq, alike.name_eq, hb]

/-! ## Commands -/

/-- A command does the same to two theories alike. -/
lemma perform_alike (lasting : Journal.Lasting R) (steady : Ledger.Lasting S)
    (alike : t.Alike S u) (blind : t.BlindTo R) {command : Command}
    (hcommand : command.BlindTo R) (related : R a b) :
    ∃ result t' u' calls, t.perform command a = (result, t', a ++ calls) ∧
      u.perform command b = (result, u', b ++ calls) ∧ t'.Alike S u' ∧ t'.BlindTo R := by
  cases command with
  | add name =>
    obtain ⟨result, t', u', ht, hu, alike', blind'⟩ := add_alike steady alike blind name
    exact ⟨result.map .registered, t', u', [], by simp [perform, ht], by simp [perform, hu], alike',
      blind'⟩
  | suppose name builder =>
    obtain ⟨result, t', u', calls, ht, hu, alike', blind'⟩ :=
      suppose_alike lasting steady alike blind name hcommand related
    exact ⟨result.map .registered, t', u', calls, by simp only [perform, ht],
      by simp only [perform, hu], alike', blind'⟩
  | direct index command => exact direct_alike lasting alike blind index hcommand related
  | named name command =>
    cases hlocate : t.locate name with
    | none =>
      exact ⟨.ok .absent, t, u, [], by simp [perform, hlocate],
        by simp [perform, alike.locate_eq, hlocate], alike, blind⟩
    | some place =>
      obtain ⟨result, t', u', calls, ht, hu, alike', blind'⟩ :=
        direct_alike lasting alike blind place.1 hcommand related
      exact ⟨result, t', u', calls, by simp only [perform, hlocate, ht],
        by simp only [perform, alike.locate_eq, hlocate, hu], alike', blind'⟩
  | evaluate =>
    obtain ⟨result, t', u', calls, ht, hu, alike', blind'⟩ :=
      report_alike lasting steady alike blind related
    exact ⟨(result.map Report.verdict).map .verdict, t', u', calls,
      by simp only [perform, evaluate, ht], by simp only [perform, evaluate, hu], alike', blind'⟩
  | report =>
    obtain ⟨result, t', u', calls, ht, hu, alike', blind'⟩ :=
      report_alike lasting steady alike blind related
    exact ⟨result.map .report, t', u', calls, by simp only [perform, ht],
      by simp only [perform, hu], alike', blind'⟩

/-- Two theories alike answer the same to all commands, make the same calls, and stay alike. -/
theorem run_alike (lasting : Journal.Lasting R) (steady : Ledger.Lasting S)
    (alike : t.Alike S u) (blind : t.BlindTo R) {commands : List Command}
    (hcommands : ∀ command ∈ commands, command.BlindTo R) (related : R a b) :
    ∃ results t' u' calls, run commands t a = (results, t', a ++ calls) ∧
      run commands u b = (results, u', b ++ calls) ∧ t'.Alike S u' ∧ t'.BlindTo R := by
  induction commands generalizing t u a b with
  | nil => exact ⟨[], t, u, [], by simp [run], by simp [run], alike, blind⟩
  | cons command commands ih =>
    obtain ⟨result, t₁, u₁, calls, ht, hu, alike₁, blind₁⟩ :=
      perform_alike lasting steady alike blind (hcommands command List.mem_cons_self) related
    obtain ⟨results, t₂, u₂, more, hrestA, hrestB, alike₂, blind₂⟩ :=
      ih alike₁ blind₁ (fun c hc => hcommands c (List.mem_cons_of_mem command hc))
        (lasting a b calls related)
    refine ⟨result :: results, t₂, u₂, calls ++ more, ?_, ?_, alike₂, blind₂⟩
    · simp only [run, ht, hrestA, List.append_assoc]
    · simp only [run, hu, hrestB, List.append_assoc]

end Theory

end Postulate
