import Postulate.Proofs.Theory.Turns

/-!
# Every check is asked at most once

A theory works on chains in many ways: builders link and evaluate clauses and may fail in the end,
hypotheses are supposed late and evaluated one by one, passes go over all of them or end early. All
of this comes down to acts on chains, one after the other (`Turn.acts`), and no call is made but by
them. An act asks a check only while it marks the clause that carries it, and marks are never lost.
So over a whole run of any length, on a chain or on a theory, no check is asked twice: that is
`checks_asked_at_most_once`.
-/

namespace Postulate

/-! ## The acts of a run -/

namespace Hypothesis

/-- The clauses of the chain, if there is one. -/
def clauses (h : Hypothesis) : List Clause := h.chain.elim [] Chain.clauses

/-- The acts by which work on a hypothesis is done. -/
def acts (h : Hypothesis) (work : HypothesisCommand) (journal : Journal) : List Act :=
  match work with
  | .suppose builder => if h.isSupposed then [] else builder.acts journal
  | .evaluate => h.chain.elim [] fun c => [⟨.start c, .evaluate, journal⟩]

lemma accounts_evaluate (h : Hypothesis) (journal : Journal) :
    Accounts h.clauses journal (h.acts .evaluate journal) (h.evaluate journal).2.1.clauses
      (h.evaluate journal).2.2 := by
  cases hchain : h.chain with
  | none =>
    rw [evaluate_of_chain_eq_none hchain]
    simp only [acts, hchain, Option.elim_none]
    exact .nil h.clauses journal
  | some c =>
    have hact := Accounts.act ⟨.start c, .evaluate, journal⟩
    simp only [acts, clauses, evaluate, hchain, Option.elim_some]
    exact hact

lemma accounts_of_performs {h after : Hypothesis} {work : HypothesisCommand}
    {result : Except TheoryError Reply} {journal journal' : Journal}
    (done : h.Performs journal work result after journal') :
    Accounts h.clauses journal (h.acts work journal) after.clauses journal' := by
  cases done with
  | evaluates heval =>
    have haccounts := h.accounts_evaluate journal
    rw [heval] at haccounts
    exact haccounts
  | taken supposed =>
    simp only [acts, if_pos supposed]
    exact .nil h.clauses journal
  | @failed builder e journal' bare fails =>
    have haccounts := Builder.accounts_of_error fails
    have hclauses : h.clauses = [] := by rw [clauses, bare, Option.elim_none]
    simpa [acts, isSupposed, bare, hclauses] using haccounts
  | @supposed builder chain journal' bare builds =>
    -- the clauses of the new chain are all that there is
    have haccounts := Builder.accounts_of_ok builds
    have hclauses : h.clauses = [] := by rw [clauses, bare, Option.elim_none]
    simpa [acts, isSupposed, bare, clauses] using haccounts

end Hypothesis

namespace Theory

/-- The clauses of all hypotheses. -/
def clauses (t : Theory) : List Clause := t.hypotheses.flatMap Hypothesis.clauses

/-- The acts of a pass: one hypothesis after the other is evaluated, until one comes to no
verdict. -/
def passActs : List Hypothesis → Journal → List Act
  | [], _ => []
  | h :: rest, journal =>
    h.acts .evaluate journal ++
      match h.evaluate journal with
      | (.error _, _, _) => []
      | (.ok _, _, journal) => passActs rest journal

lemma accounts_pass (label : String) (hypotheses : List Hypothesis) (verdict : Bool)
    (ledger : Log.Ledger) (journal : Journal) :
    Accounts (hypotheses.flatMap Hypothesis.clauses) journal (passActs hypotheses journal)
      ((pass label hypotheses verdict ledger journal).hypotheses.flatMap Hypothesis.clauses)
      (pass label hypotheses verdict ledger journal).journal := by
  induction hypotheses generalizing verdict ledger journal with
  | nil => exact .nil [] journal
  | cons h rest ih =>
    have hhead := (h.accounts_evaluate journal).frame [] (rest.flatMap Hypothesis.clauses)
    rcases heval : h.evaluate journal with ⟨e | passed, after, left⟩
    · rw [heval] at hhead
      simp only [passActs, heval, pass_cons_of_error heval, List.append_nil, List.flatMap_cons]
      exact hhead
    · -- the clauses of the hypothesis that had its turn stay as they are in the rest of the pass
      rw [heval] at hhead
      have htail := (ih (passed && verdict)
        ((ledger.count (.verdict passed)).note (.hypothesisEvaluated h.label passed)) left).frame
          after.clauses []
      simp only [List.append_nil] at htail
      simp only [passActs, heval, pass_cons_of_ok heval, List.flatMap_cons]
      exact hhead.append htail

lemma accounts_report (t : Theory) (journal : Journal) :
    Accounts t.clauses journal (passActs t.hypotheses journal) (t.report journal).2.1.clauses
      (t.report journal).2.2 := by
  have hpass := accounts_pass t.label t.hypotheses true t.begun journal
  simp only [report]
  split <;> exact hpass

/-- A list with an item and its surroundings, and what replacing the item does. -/
lemma exists_split_of_getElem? {α : Type} {l : List α} {i : Nat} {a : α} (h : l[i]? = some a) :
    ∃ before behind, l = before ++ a :: behind ∧ ∀ b, l.set i b = before ++ b :: behind := by
  induction l generalizing i with
  | nil => simp at h
  | cons c l ih =>
    cases i with
    | zero =>
      obtain rfl : c = a := by simpa using h
      exact ⟨[], l, rfl, fun b => rfl⟩
    | succ i =>
      obtain ⟨before, behind, hl, hset⟩ := ih (i := i) (by simpa using h)
      exact ⟨c :: before, behind, by rw [hl, List.cons_append],
        fun b => by rw [List.set_cons_succ, hset, List.cons_append]⟩

lemma accounts_direct (t : Theory) (index : Nat) (work : HypothesisCommand) (journal : Journal) :
    Accounts t.clauses journal ((t.hypotheses[index]?).elim [] fun h => h.acts work journal)
      (t.direct index work journal).2.1.clauses (t.direct index work journal).2.2 := by
  cases hat : t.hypotheses[index]? with
  | none =>
    simp only [direct, hat, Option.elim_none]
    exact .nil t.clauses journal
  | some h =>
    obtain ⟨before, behind, hsplit, hset⟩ := exists_split_of_getElem? hat
    have hwork := (Hypothesis.accounts_of_performs (h.performs work journal)).frame
      (before.flatMap Hypothesis.clauses) (behind.flatMap Hypothesis.clauses)
    simp only [direct, hat, Option.elim_some, clauses, hset]
    rw [hsplit]
    simpa only [List.flatMap_append, List.flatMap_cons, List.append_assoc] using hwork

end Theory

/-- The acts by which a command is carried out. -/
def Turn.acts (turn : Turn) : List Act :=
  match turn.command with
  | .add _ => []
  | .suppose name builder =>
    match turn.before.insert name with
    | (.error _, _) => []
    | (.ok h, _) => h.acts (.suppose builder) turn.journal
  | .direct index work =>
    (turn.before.hypotheses[index]?).elim [] fun h => h.acts work turn.journal
  | .named name work =>
    (turn.before.locate name).elim [] fun place =>
      (turn.before.hypotheses[place.1]?).elim [] fun h => h.acts work turn.journal
  | .evaluate | .report => Theory.passActs turn.before.hypotheses turn.journal

namespace Theory

lemma clauses_register (t : Theory) (h : Hypothesis) :
    (t.register h).clauses = t.clauses ++ h.clauses := by
  simp [clauses, register, enter, confirm]

lemma accounts_suppose (t : Theory) (name : Option String) (builder : Builder)
    (journal : Journal) :
    Accounts t.clauses journal (Turn.acts ⟨t, .suppose name builder, journal⟩)
      (t.suppose name builder journal).2.1.clauses (t.suppose name builder journal).2.2 := by
  rcases t.isFree_or_taken (properName name) with free | ⟨n, proper, taken⟩
  · -- the builder is asked, and starts from nothing
    have hacts : Turn.acts ⟨t, .suppose name builder, journal⟩ = builder.acts journal := by
      simp [Turn.acts, insert_of_isFree free, Hypothesis.acts, Hypothesis.isSupposed, fresh]
    rw [hacts]
    rcases hbuild : builder.build journal with ⟨e | chain, journal'⟩
    · have hframe := (Builder.accounts_of_error hbuild).frame t.clauses []
      rw [suppose_of_fails free hbuild]
      simpa only [List.append_nil] using hframe
    · have hframe := (Builder.accounts_of_ok hbuild).frame t.clauses []
      simp only [List.append_nil] at hframe
      rw [suppose_of_builds free hbuild, clauses_register]
      exact hframe
  · rw [suppose_of_taken proper taken]
    simp only [Turn.acts, insert_of_taken proper taken]
    exact .nil t.clauses journal

end Theory

lemma Turn.accounts (turn : Turn) :
    Accounts turn.before.clauses turn.journal turn.acts turn.after.clauses turn.left := by
  obtain ⟨t, command, journal⟩ := turn
  cases command with
  | add name =>
    have hclauses : (t.add name).2.clauses = t.clauses := by
      rcases t.isFree_or_taken (Theory.properName name) with free | ⟨n, proper, taken⟩
      · rw [Theory.add_of_isFree free, Theory.clauses_register]
        exact List.append_nil t.clauses
      · rw [Theory.add_of_taken proper taken]
        rfl
    have hnil := Accounts.nil t.clauses journal
    simp only [after, left, acts, Theory.perform, hclauses]
    exact hnil
  | suppose name builder => exact t.accounts_suppose name builder journal
  | direct index work => exact t.accounts_direct index work journal
  | named name work =>
    simp only [after, left, acts, Theory.perform]
    cases t.locate name with
    | none => exact .nil t.clauses journal
    | some place => exact t.accounts_direct place.1 work journal
  | evaluate => exact t.accounts_report journal
  | report => exact t.accounts_report journal

namespace Theory

/-- The acts of a whole run. -/
def runActs (commands : List Command) (t : Theory) (journal : Journal) : List Act :=
  (turns commands t journal).flatMap Turn.acts

lemma accounts_run (commands : List Command) (t : Theory) (journal : Journal) :
    Accounts t.clauses journal (runActs commands t journal) (run commands t journal).2.1.clauses
      (run commands t journal).2.2 := by
  induction commands generalizing t journal with
  | nil => exact .nil t.clauses journal
  | cons command commands ih =>
    exact (Turn.accounts ⟨t, command, journal⟩).append (ih _ _)

end Theory

/-! ## The law -/

/-- In the acts that lead from one journal to another, every check is asked at most once. -/
structure AsksOnce (stock : List Clause) (journal : Journal) (acts : List Act)
    (journal' : Journal) : Prop where
  /-- All calls are made by the acts. -/
  inOrder : InOrder journal acts journal'
  /-- A check is asked only in an evaluation, only while the clause that carries it gets its mark,
  and then once. No mark is lost. -/
  orderly : ∀ a ∈ acts, a.Orderly
  /-- A label is asked no more often than there are checks to ask under it: those of the clauses
  that had no mark at first, and those that were linked later. If every check has a label of its
  own, it is asked at most once in all. -/
  checks_le : ∀ label, Journal.checks (acts.flatMap Act.calls) label ≤
    unasked label stock + acts.countP (Act.links label)

lemma Accounts.asksOnce {before after : List Clause} {journal journal' : Journal}
    {acts : List Act} (h : Accounts before journal acts after journal') :
    AsksOnce before journal acts journal' where
  inOrder := h.inOrder
  orderly a _ := a.orderly
  checks_le label := Nat.le_trans (Nat.le_add_right _ _) (h.balance label)

/-- No check is asked twice, and no clause loses its mark: neither in any work on a chain, from any
of its clauses and in any order, nor in any run of commands on a theory. -/
theorem checks_asked_at_most_once :
    (∀ (c d : Chain) (journal journal' : Journal) (acts : List Act),
      c.Undergoes journal acts d journal' → AsksOnce c.clauses journal acts journal' ∧
        c.Becomes d) ∧
    ∀ (t : Theory) (commands : List Command) (journal : Journal),
      AsksOnce t.clauses journal (Theory.runActs commands t journal)
          (Theory.run commands t journal).2.2 ∧
        t.Becomes (Theory.run commands t journal).2.1 :=
  ⟨fun _ _ _ _ _ h => ⟨h.accounts.asksOnce, h.becomes⟩,
    fun t commands journal =>
      ⟨(Theory.accounts_run commands t journal).asksOnce, Theory.becomes_run commands t journal⟩⟩

/-- A clause is linked and evaluated by itself, and then the whole chain is evaluated, which ends at
that clause: its check has been asked once. -/
theorem checks_asked_once_from_the_middle :
    let c : Chain := { entry := { type := .int, source := .constant 1 } }
    let link : Act := ⟨.start c, .refine (t := .int) (.predicate "p" fun _ _ => true), []⟩
    let inner : Act := ⟨link.after, .evaluate, link.left⟩
    let outer : Act := ⟨.start inner.after.chain, .evaluate, inner.left⟩
    c.Undergoes [] [link, inner, outer] outer.after.chain outer.left ∧
      AsksOnce c.clauses [] [link, inner, outer] outer.left ∧ c.Becomes outer.after.chain ∧
        outer.answer = .error .alreadyEvaluated ∧ outer.left.checks "p" = 1 := by
  intro c link inner outer
  have hacts : c.Undergoes [] [link, inner, outer] outer.after.chain outer.left :=
    .cons rfl rfl (.cons rfl rfl (.cons rfl rfl .nil))
  obtain ⟨honce, hbecomes⟩ := checks_asked_at_most_once.1 _ _ _ _ _ hacts
  exact ⟨hacts, honce, hbecomes, rfl, by decide⟩

end Postulate
