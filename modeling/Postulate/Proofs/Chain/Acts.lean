import Postulate.Proofs.Chain.Blind
import Postulate.Proofs.Chain.Marks

/-!
# Acts

An act is a step taken on some clause of a chain at some moment. Everything that can be done with
chains is a sequence of acts: a caller works on the clauses of a chain in any order
(`Chain.Undergoes`), and a builder makes a chain by the acts of its plan (`Builder.acts`). No call
is made between acts (`InOrder`), and no act asks more than it marks (`Act.orderly`). With the
clauses that have still to ask as a stock, sequences of acts are added up: every question takes a
clause from the stock, and nothing but a check that is linked adds one (`Accounts`).
-/

namespace Postulate

/-- A step taken from the clause in focus, after the calls in the journal. -/
structure Act where
  before : Focus
  step : Step
  journal : Journal

namespace Act

/-- The answer to the step. -/
def answer (a : Act) : Except ClauseError Answer := (a.before.perform a.step a.journal).1

/-- The focus after the step. -/
def after (a : Act) : Focus := (a.before.perform a.step a.journal).2.1

/-- The journal after the step. -/
def left (a : Act) : Journal := (a.before.perform a.step a.journal).2.2

/-- The calls that the step makes. -/
def calls (a : Act) : List Call := a.left.drop a.journal.length

/-- The clauses that get their mark. -/
def marks (a : Act) : List Clause := turned a.before.chain.clauses a.after.chain.clauses

/-- Is a clause linked that carries a check with this label? -/
def links (label : String) (a : Act) : Bool := a.step.offers label && a.answer.isOk

/-- An act asks only in an evaluation, and there only questions of clauses that it marks, of each
clause once at most. No clause of the chain loses its mark. -/
structure Orderly (a : Act) : Prop where
  evaluates : a.marks ≠ [] → a.step = .evaluate
  asked : Asked a.marks (Journal.questions a.calls)
  becomes : a.before.chain.Becomes a.after.chain

variable {a : Act}

lemma calls_eq {calls : List Call} (h : a.left = a.journal ++ calls) : a.calls = calls := by
  rw [Act.calls, h, List.drop_left]

lemma left_eq (a : Act) : a.left = a.journal ++ a.calls := by
  obtain ⟨answer, after, calls, hperform, -, -⟩ :=
    Focus.perform_alike Journal.lasting_eq (Chain.blindTo_eq a.before.chain) a.step.blindTo_eq
      (Eq.refl a.journal)
  have hleft : a.left = a.journal ++ calls := by rw [left, hperform]
  rw [calls_eq hleft, hleft]

/-- An act that is no evaluation marks nothing and asks nothing. -/
lemma marks_eq_nil (other : a.step ≠ .evaluate) :
    a.marks = [] ∧ Journal.questions a.calls = [] := by
  obtain ⟨linked, calls, hleft, hextends, -⟩ := a.before.extends_perform other a.journal
  refine ⟨?_, by rw [calls_eq hleft, hextends.silent]⟩
  rw [marks, after, hextends.clauses_eq, turned_append_self]

lemma orderly (a : Act) : a.Orderly where
  evaluates marks := by
    by_contra other
    exact marks (marks_eq_nil other).1
  asked := by
    by_cases heval : a.step = .evaluate
    · obtain ⟨before, step, journal⟩ := a
      subst heval
      obtain ⟨calls, hleft, hasked⟩ := before.asked_evaluate journal
      have hcalls : Act.calls ⟨before, .evaluate, journal⟩ = calls := calls_eq hleft
      rw [hcalls]
      exact hasked
    · rw [(marks_eq_nil heval).2]
      exact asked_nil a.marks
  becomes := a.before.becomes_perform a.step a.journal

/-- The clauses that an act links carry at most the check that it was given. -/
lemma unasked_drop_le (a : Act) (label : String) :
    unasked label (a.after.chain.clauses.drop a.before.chain.clauses.length) ≤
      if a.links label then 1 else 0 := by
  by_cases heval : a.step = .evaluate
  · -- an evaluation keeps the number of clauses, and links none
    have hlength : a.after.chain.clauses.length = a.before.chain.clauses.length := by
      obtain ⟨before, step, journal⟩ := a
      subst heval
      have hmap := congrArg List.length (before.onward.map_marked_evaluate journal)
      simp only [List.length_map] at hmap
      simp [after, Focus.perform, Focus.evaluate, Focus.clauses_chain, hmap]
    rw [← hlength, List.drop_length]
    exact Nat.zero_le _
  · obtain ⟨linked, calls, -, hextends, hlinked⟩ := a.before.extends_perform heval a.journal
    have hdrop : a.after.chain.clauses.drop a.before.chain.clauses.length = linked := by
      rw [after, hextends.clauses_eq, List.drop_left]
    rw [hdrop]
    refine Nat.le_trans (List.countP_mono_left fun c _ hc => ?_) (hlinked label)
    simp only [Bool.and_eq_true] at hc
    exact hc.1

/-- Every question takes a clause from those that have still to ask. -/
lemma checks_add_unasked_le (a : Act) (label : String) :
    Journal.checks a.calls label + unasked label a.after.chain.clauses ≤
      unasked label a.before.chain.clauses + if a.links label then 1 else 0 := by
  have hasked := countP_isCheck_le_of_asked a.orderly.asked label
  have hstock := countP_turned_add_unasked a.orderly.becomes label
  have hlinked := a.unasked_drop_le label
  rw [Journal.checks_eq]
  rw [marks] at hasked
  omega

end Act

/-! ## Sequences of acts -/

/-- The acts are done one after the other, each with the journal that the one before it has left:
nothing is called but by them. -/
inductive InOrder : Journal → List Act → Journal → Prop
  | nil {journal : Journal} : InOrder journal [] journal
  | cons {journal journal' : Journal} {a : Act} {acts : List Act} (now : a.journal = journal)
      (rest : InOrder a.left acts journal') : InOrder journal (a :: acts) journal'

lemma InOrder.append {journal journal' journal'' : Journal} {acts more : List Act}
    (h : InOrder journal acts journal') (k : InOrder journal' more journal'') :
    InOrder journal (acts ++ more) journal'' := by
  induction h with
  | nil => exact k
  | cons now _ ih => exact .cons now (ih k)

lemma InOrder.journal_eq {journal journal' : Journal} {acts : List Act}
    (h : InOrder journal acts journal') : journal' = journal ++ acts.flatMap Act.calls := by
  induction h with
  | nil => simp
  | @cons journal journal' a acts now _ ih =>
    rw [ih, a.left_eq, now, List.flatMap_cons, List.append_assoc]

/-- The acts are done in order, and leave of a stock of clauses those that follow: whatever is asked
under a label is taken from the clauses that have still to ask, and from those that are linked. -/
structure Accounts (before : List Clause) (journal : Journal) (acts : List Act)
    (after : List Clause) (journal' : Journal) : Prop where
  inOrder : InOrder journal acts journal'
  balance : ∀ label, Journal.checks (acts.flatMap Act.calls) label + unasked label after ≤
    unasked label before + acts.countP (Act.links label)

namespace Accounts

variable {l m n : List Clause} {journal journal' journal'' : Journal} {acts more : List Act}

lemma nil (l : List Clause) (journal : Journal) : Accounts l journal [] l journal :=
  ⟨.nil, fun label => by simp [Journal.checks]⟩

lemma act (a : Act) :
    Accounts a.before.chain.clauses a.journal [a] a.after.chain.clauses a.left := by
  refine ⟨.cons rfl .nil, fun label => ?_⟩
  simpa [List.countP_cons] using a.checks_add_unasked_le label

lemma append (h : Accounts l journal acts m journal') (k : Accounts m journal' more n journal'') :
    Accounts l journal (acts ++ more) n journal'' := by
  refine ⟨h.inOrder.append k.inOrder, fun label => ?_⟩
  have hl := h.balance label
  have hm := k.balance label
  rw [List.flatMap_append, Journal.checks_append, List.countP_append]
  omega

/-- Clauses before and behind that have no part in the acts make no difference. -/
lemma frame (before behind : List Clause) (h : Accounts l journal acts m journal') :
    Accounts (before ++ l ++ behind) journal acts (before ++ m ++ behind) journal' := by
  refine ⟨h.inOrder, fun label => ?_⟩
  have hl := h.balance label
  simp only [unasked, List.countP_append] at hl ⊢
  omega

/-- What is given up at the end asks no more. -/
lemma abandon (h : Accounts l journal acts m journal') : Accounts l journal acts [] journal' := by
  refine ⟨h.inOrder, fun label => ?_⟩
  have hl := h.balance label
  have hnil : unasked label [] = 0 := rfl
  omega

/-- A stock that has nothing to ask can be left out. -/
lemma of_unasked_eq_zero (h : Accounts l journal acts m journal')
    (hl : ∀ label, unasked label l = 0) : Accounts [] journal acts m journal' := by
  refine ⟨h.inOrder, fun label => ?_⟩
  have hbalance := h.balance label
  rw [hl label] at hbalance
  exact hbalance

end Accounts

/-! ## Work on one chain -/

/-- The acts are done one after the other on one chain, each on any of its clauses. -/
inductive Chain.Undergoes : Chain → Journal → List Act → Chain → Journal → Prop
  | nil {c : Chain} {journal : Journal} : Chain.Undergoes c journal [] c journal
  | cons {c d : Chain} {journal journal' : Journal} {a : Act} {acts : List Act}
      (here : a.before.chain = c) (now : a.journal = journal)
      (rest : Chain.Undergoes a.after.chain a.left acts d journal') :
      Chain.Undergoes c journal (a :: acts) d journal'

namespace Chain.Undergoes

variable {c d : Chain} {journal journal' : Journal} {acts : List Act}

lemma accounts (h : c.Undergoes journal acts d journal') :
    Accounts c.clauses journal acts d.clauses journal' := by
  induction h with
  | nil => exact .nil _ _
  | @cons c d journal journal' a acts here now _ ih =>
    subst here now
    exact (Accounts.act a).append ih

lemma becomes (h : c.Undergoes journal acts d journal') : c.Becomes d := by
  induction h with
  | nil => exact Chain.Becomes.refl _
  | @cons c d journal journal' a acts here _ _ ih =>
    subst here
    exact a.orderly.becomes.trans ih

end Chain.Undergoes

/-- The acts by which a plan is carried out. -/
def Plan.acts : Plan → Focus → Journal → List Act
  | .finish, _, _ | .fail _, _, _ => []
  | .take step next, f, journal =>
    let a : Act := ⟨f, step, journal⟩
    a :: (next a.answer).acts a.after a.left
  | .consult next, f, journal => (next journal).acts f journal

lemma Plan.undergoes_acts (plan : Plan) (f : Focus) (journal : Journal) :
    ∃ d, f.chain.Undergoes journal (plan.acts f journal) d (plan.carryOut f journal).2 ∧
      ∀ g, (plan.carryOut f journal).1 = .ok g → g.chain = d := by
  induction plan generalizing f journal with
  | finish =>
    refine ⟨f.chain, .nil, fun g hg => ?_⟩
    obtain rfl : f = g := Except.ok.inj hg
    rfl
  | fail e => exact ⟨f.chain, .nil, by simp [carryOut]⟩
  | take step next ih =>
    let a : Act := ⟨f, step, journal⟩
    obtain ⟨d, hrest, hd⟩ := ih a.answer a.after a.left
    exact ⟨d, .cons rfl rfl hrest, hd⟩
  | consult next ih => exact ih journal f journal

namespace Builder

/-- The acts by which a chain is built. -/
def acts (b : Builder) (journal : Journal) : List Act := b.plan.acts b.entry journal

variable {b : Builder} {journal journal' : Journal}

/-- A builder starts from an entry that asks nothing. -/
lemma exists_accounts (b : Builder) (journal : Journal) :
    ∃ d, Accounts [] journal (b.acts journal) d.clauses (b.plan.carryOut b.entry journal).2 ∧
      ∀ f, (b.plan.carryOut b.entry journal).1 = .ok f → f.chain = d := by
  obtain ⟨d, hacts, hd⟩ := b.plan.undergoes_acts b.entry journal
  have hentry : ∀ label, unasked label b.entry.chain.clauses = 0 := by
    simp [entry, unasked, Clause.asks]
  exact ⟨d, hacts.accounts.of_unasked_eq_zero hentry, hd⟩

/-- The chain that is built has still to ask what was linked and not asked. -/
lemma accounts_of_ok {d : Chain} (builds : b.build journal = (.ok d, journal')) :
    Accounts [] journal (b.acts journal) d.clauses journal' := by
  obtain ⟨c, haccounts, hc⟩ := b.exists_accounts journal
  rcases hplan : b.plan.carryOut b.entry journal with ⟨e | f, after⟩
  · simp [build, hplan] at builds
  · obtain rfl : f.chain = c := hc f (by rw [hplan])
    simp only [build, hplan, Prod.mk.injEq, Except.ok.injEq] at builds
    obtain ⟨rfl, rfl⟩ := builds
    rwa [hplan] at haccounts

/-- A builder that fails leaves no clauses. -/
lemma accounts_of_error {e : ClauseError} (fails : b.build journal = (.error e, journal')) :
    Accounts [] journal (b.acts journal) [] journal' := by
  obtain ⟨c, haccounts, -⟩ := b.exists_accounts journal
  rcases hplan : b.plan.carryOut b.entry journal with ⟨e' | f, after⟩
  · simp only [build, hplan, Prod.mk.injEq] at fails
    obtain ⟨-, rfl⟩ := fails
    rw [hplan] at haccounts
    exact haccounts.abandon
  · simp [build, hplan] at fails

end Builder

end Postulate
