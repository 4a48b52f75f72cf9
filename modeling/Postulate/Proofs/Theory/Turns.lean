import Postulate.Proofs.Chain.Acts
import Postulate.Proofs.Theory.Atomicity
import Postulate.Proofs.Theory.Pass

/-!
# Turns

A turn is a command carried out on a theory at some moment, and a run is a list of turns. Whatever
the command, one of four things happens (`Theory.Performs`): a hypothesis is registered or not, work
is done on one hypothesis, there is no such hypothesis, or the theory is evaluated. In every case
the theory keeps its hypotheses, in their places, and no clause of theirs loses its mark
(`Theory.becomes_run`).
-/

namespace Postulate

/-! ## What a command can do -/

/-- Does the command evaluate the theory? -/
def Command.isEvaluation : Command → Bool
  | .evaluate | .report => true
  | _ => false

/-- Is the command work on a single hypothesis? -/
def Command.isWork : Command → Bool
  | .direct .. | .named .. => true
  | _ => false

/-- What is answered to an evaluation that came to a report. -/
def Command.reply (command : Command) (r : Report) : Reply :=
  match command with
  | .evaluate => .verdict r.verdict
  | _ => .report r

namespace Hypothesis

/-- What can come of work on a hypothesis: the answer, the hypothesis, and the journal. -/
inductive Performs (h : Hypothesis) (journal : Journal) :
    HypothesisCommand → Except TheoryError Reply → Hypothesis → Journal → Prop
  | evaluates {result : Except TheoryError Bool} {after : Hypothesis} {journal' : Journal}
      (evaluates : h.evaluate journal = (result, after, journal')) :
      h.Performs journal .evaluate (result.map .verdict) after journal'
  | taken {builder : Builder} (supposed : h.isSupposed = true) :
      h.Performs journal (.suppose builder) (.error (.suppositionAlreadySet h.label)) h journal
  | failed {builder : Builder} {e : ClauseError} {journal' : Journal} (bare : h.chain = none)
      (fails : builder.build journal = (.error e, journal')) :
      h.Performs journal (.suppose builder) (.error (.clause e)) h journal'
  | supposed {builder : Builder} {chain : Chain} {journal' : Journal} (bare : h.chain = none)
      (builds : builder.build journal = (.ok chain, journal')) :
      h.Performs journal (.suppose builder) (.ok .supposed) { h with chain := some chain } journal'

lemma performs (h : Hypothesis) (work : HypothesisCommand) (journal : Journal) :
    h.Performs journal work (h.perform work journal).1 (h.perform work journal).2.1
      (h.perform work journal).2.2 := by
  cases work with
  | evaluate => exact .evaluates rfl
  | suppose builder =>
    by_cases supposed : h.isSupposed = true
    · simp only [perform, suppose_of_isSupposed supposed]
      exact .taken supposed
    · have bare : h.chain = none := by simpa [isSupposed] using supposed
      rcases hbuild : builder.build journal with ⟨e | chain, after⟩
      · simp only [perform, suppose, if_neg supposed, hbuild]
        exact .failed bare hbuild
      · simp only [perform, suppose, if_neg supposed, hbuild]
        exact .supposed bare hbuild

end Hypothesis

namespace Theory

/-- What can come of a command: the answer, the theory, and the journal. -/
inductive Performs (t : Theory) (journal : Journal) :
    Command → Except TheoryError Reply → Theory → Journal → Prop
  | registers {name : Option String} {builder : Option Builder} {result : Except TheoryError Nat}
      {u : Theory} {journal' : Journal}
      (rules : t.Registers name builder journal result u journal') :
      t.Performs journal (.registering name builder) (result.map .registered) u journal'
  | works {command : Command} {index : Nat} {work : HypothesisCommand} {h after : Hypothesis}
      {result : Except TheoryError Reply} {journal' : Journal} (isWork : command.isWork = true)
      (found : t.hypotheses[index]? = some h)
      (done : h.Performs journal work result after journal') :
      t.Performs journal command result { t with hypotheses := t.hypotheses.set index after } journal'
  | absent {command : Command} (isWork : command.isWork = true) :
      t.Performs journal command (.ok .absent) t journal
  | evaluates {command : Command} {result : Except TheoryError Report} {u : Theory}
      {calls : List Call} (isEvaluation : command.isEvaluation = true)
      (rules : t.Reports journal result u calls) :
      t.Performs journal command (result.map command.reply) u (journal ++ calls)

lemma performs_direct (t : Theory) (index : Nat) (work : HypothesisCommand) (journal : Journal)
    {command : Command} (isWork : command.isWork = true) :
    t.Performs journal command (t.direct index work journal).1 (t.direct index work journal).2.1
      (t.direct index work journal).2.2 := by
  cases hat : t.hypotheses[index]? with
  | none =>
    simp only [direct, hat]
    exact .absent isWork
  | some h =>
    simp only [direct, hat]
    exact .works isWork hat (h.performs work journal)

lemma performs (t : Theory) (command : Command) (journal : Journal) :
    t.Performs journal command (t.perform command journal).1 (t.perform command journal).2.1
      (t.perform command journal).2.2 := by
  cases command with
  | add name => exact .registers (t.registers_add name journal)
  | suppose name builder => exact .registers (t.registers_suppose name builder journal)
  | direct index work => exact t.performs_direct index work journal rfl
  | named name work =>
    simp only [perform]
    cases t.locate name with
    | none => exact .absent rfl
    | some place => exact t.performs_direct place.1 work journal rfl
  | evaluate =>
    obtain ⟨result, after, calls, hrules⟩ := t.exists_reports journal
    have hperforms : t.Performs journal .evaluate (result.map (Command.reply .evaluate)) after
        (journal ++ calls) := .evaluates rfl hrules
    simp only [perform, evaluate, report_of_reports hrules]
    cases result <;> exact hperforms
  | report =>
    obtain ⟨result, after, calls, hrules⟩ := t.exists_reports journal
    have hperforms : t.Performs journal .report (result.map (Command.reply .report)) after
        (journal ++ calls) := .evaluates rfl hrules
    simp only [perform, report_of_reports hrules]
    cases result <;> exact hperforms

/-- Only an evaluation makes reports. -/
lemma Performs.reports {t u : Theory} {journal journal' : Journal} {command : Command}
    {result : Except TheoryError Reply} (h : t.Performs journal command result u journal')
    (isEvaluation : command.isEvaluation = true) :
    ∃ report calls, t.Reports journal report u calls ∧ result = report.map command.reply := by
  cases h with
  | @registers name builder =>
    cases builder <;> simp [Command.registering, Command.isEvaluation] at isEvaluation
  | works isWork | absent isWork =>
    cases command <;> simp [Command.isWork, Command.isEvaluation] at isWork isEvaluation
  | evaluates _ rules => exact ⟨_, _, rules, rfl⟩

end Theory

/-! ## Later moments -/

namespace Hypothesis

/-- The second hypothesis is the first at a later time: the same place and name, and the same chain
if there was one, with no mark lost. -/
structure Becomes (h k : Hypothesis) : Prop where
  index_eq : k.index = h.index
  name_eq : k.name = h.name
  chain : ∀ c, h.chain = some c → ∃ d, k.chain = some d ∧ c.Becomes d

variable {h k g : Hypothesis}

lemma Becomes.refl (h : Hypothesis) : h.Becomes h := ⟨rfl, rfl, fun c hc => ⟨c, hc, .refl c⟩⟩

lemma Becomes.trans (hk : h.Becomes k) (kg : k.Becomes g) : h.Becomes g := by
  refine ⟨kg.index_eq.trans hk.index_eq, kg.name_eq.trans hk.name_eq, fun c hc => ?_⟩
  obtain ⟨d, hd, hcd⟩ := hk.chain c hc
  obtain ⟨e, he, hde⟩ := kg.chain d hd
  exact ⟨e, he, hcd.trans hde⟩

lemma Becomes.isEvaluated (hk : h.Becomes k) (heval : h.isEvaluated = true) :
    k.isEvaluated = true := by
  cases hchain : h.chain with
  | none => simp [Hypothesis.isEvaluated, hchain] at heval
  | some c =>
    obtain ⟨d, hd, hcd⟩ := hk.chain c hchain
    have hc : c.isEvaluated = true := by simpa [Hypothesis.isEvaluated, hchain] using heval
    simpa [Hypothesis.isEvaluated, hd] using hcd.isEvaluated hc

lemma becomes_evaluate (h : Hypothesis) (journal : Journal) :
    h.Becomes (h.evaluate journal).2.1 := by
  refine ⟨h.index_evaluate journal, h.name_evaluate journal, fun c hc => ?_⟩
  exact ⟨(c.evaluate journal).chain, by simp only [evaluate, hc], c.becomes_evaluate journal⟩

lemma becomes_of_performs {work : HypothesisCommand} {result : Except TheoryError Reply}
    {journal journal' : Journal} (done : h.Performs journal work result k journal') :
    h.Becomes k := by
  cases done with
  | evaluates heval =>
    have hafter := h.becomes_evaluate journal
    rw [heval] at hafter
    exact hafter
  | taken | failed => exact .refl h
  | supposed bare =>
    -- a hypothesis that gets its chain had none
    exact ⟨rfl, rfl, by simp [bare]⟩

end Hypothesis

namespace Theory

/-- The second theory is the first at a later time: no hypothesis has gone or moved, and no mark is
lost. Hypotheses may have been added behind them. -/
def Becomes (t u : Theory) : Prop := Persist Hypothesis.Becomes t.hypotheses u.hypotheses

variable {t u v : Theory}

lemma Becomes.refl (t : Theory) : t.Becomes t := Persist.refl Hypothesis.Becomes.refl t.hypotheses

lemma Becomes.trans (h : t.Becomes u) (k : u.Becomes v) : t.Becomes v :=
  Persist.trans (fun _ _ _ => Hypothesis.Becomes.trans) h k

lemma persist_of_tried {journal : Journal} {trials : List Trial} (tried : Tried journal trials)
    {rest others : List Hypothesis} (h : Persist Hypothesis.Becomes rest others) :
    Persist Hypothesis.Becomes (trials.map Trial.before ++ rest)
      (trials.map Trial.after ++ others) := by
  induction tried with
  | nil => exact h
  | @cons journal trial trials verdict _ ih =>
    have hhead := trial.before.becomes_evaluate journal
    rw [verdict] at hhead
    exact .cons hhead ih

lemma becomes_of_reports {journal : Journal} {result : Except TheoryError Report}
    {calls : List Call} (h : t.Reports journal result u calls) : t.Becomes u := by
  cases h with
  | @complete trials all tried =>
    have hkept : Persist Hypothesis.Becomes (trials.map Trial.before ++ [])
        (trials.map Trial.after ++ []) := persist_of_tried tried .nil
    rw [List.append_nil, List.append_nil] at hkept
    rw [Becomes, all]
    exact hkept
  | @aborted trials h failed rest e last split tried fails =>
    have hfailed := h.becomes_evaluate (journal ++ trials.flatMap Trial.calls)
    rw [fails] at hfailed
    rw [Becomes, split]
    exact persist_of_tried tried (.cons hfailed (Persist.refl Hypothesis.Becomes.refl rest))

/-- Whatever a command does, hypotheses and marks stay. -/
lemma becomes_of_performs {command : Command} {journal journal' : Journal}
    {result : Except TheoryError Reply} (h : t.Performs journal command result u journal') :
    t.Becomes u := by
  cases h with
  | registers rules =>
    cases rules with
    | refused | failed => exact .refl t
    | added => exact Persist.of_append Hypothesis.Becomes.refl t.hypotheses _
    | supposed => exact Persist.of_append Hypothesis.Becomes.refl t.hypotheses _
  | works isWork found done =>
    exact Persist.set Hypothesis.Becomes.refl found (Hypothesis.becomes_of_performs done)
  | absent => exact .refl t
  | evaluates isEvaluation rules => exact becomes_of_reports rules

lemma becomes_run (commands : List Command) (t : Theory) (journal : Journal) :
    t.Becomes (run commands t journal).2.1 := by
  induction commands generalizing t journal with
  | nil => exact .refl t
  | cons command commands ih =>
    exact (becomes_of_performs (t.performs command journal)).trans (ih _ _)

end Theory

/-! ## The turns of a run -/

/-- A command, the theory it is carried out on, and the calls made before. -/
structure Turn where
  before : Theory
  command : Command
  journal : Journal

namespace Turn

/-- The answer to the command. -/
def result (turn : Turn) : Except TheoryError Reply :=
  (turn.before.perform turn.command turn.journal).1

/-- The theory after the command. -/
def after (turn : Turn) : Theory := (turn.before.perform turn.command turn.journal).2.1

/-- The journal after the command. -/
def left (turn : Turn) : Journal := (turn.before.perform turn.command turn.journal).2.2

lemma performs (turn : Turn) :
    turn.before.Performs turn.journal turn.command turn.result turn.after turn.left :=
  turn.before.performs turn.command turn.journal

end Turn

namespace Theory

/-- The turns of a run. -/
def turns : List Command → Theory → Journal → List Turn
  | [], _, _ => []
  | command :: commands, t, journal =>
    let turn : Turn := ⟨t, command, journal⟩
    turn :: turns commands turn.after turn.left

/-- The induction on a run: what holds of no turns, and of a turn and the turns after it once it
holds of these, holds of every run. -/
lemma run_induction {R : Theory → List Turn → Theory → Prop} (nil : ∀ t, R t [] t)
    (cons : ∀ (turn : Turn) (later : List Turn) (u : Theory),
      R turn.after later u → R turn.before (turn :: later) u)
    (commands : List Command) (t : Theory) (journal : Journal) :
    R t (turns commands t journal) (run commands t journal).2.1 := by
  induction commands generalizing t journal with
  | nil => exact nil t
  | cons command commands ih => exact cons ⟨t, command, journal⟩ _ _ (ih _ _)

lemma turns_append (commands more : List Command) (t : Theory) (journal : Journal) :
    turns (commands ++ more) t journal =
      turns commands t journal ++
        turns more (run commands t journal).2.1 (run commands t journal).2.2 := by
  induction commands generalizing t journal with
  | nil => rfl
  | cons command commands ih => exact congrArg (List.cons _) (ih _ _)

@[simp] lemma length_turns (commands : List Command) (t : Theory) (journal : Journal) :
    (turns commands t journal).length = commands.length := by
  induction commands generalizing t journal with
  | nil => rfl
  | cons command commands ih => exact congrArg (· + 1) (ih _ _)

/-- What a turn leaves, the turns after it start from. -/
lemma exists_turns_of_split {commands : List Command} {t : Theory} {journal : Journal}
    {passed later : List Turn} {turn : Turn}
    (split : turns commands t journal = passed ++ turn :: later) :
    ∃ rest, later = turns rest turn.after turn.left := by
  induction commands generalizing t journal passed with
  | nil => simp [turns] at split
  | cons command commands ih =>
    cases passed with
    | nil =>
      obtain ⟨rfl, rfl⟩ := List.cons.inj split
      exact ⟨commands, rfl⟩
    | cons first passed => exact ih (List.cons.inj split).2

/-- What time does not change holds at every turn of a run, if it holds at first. -/
lemma before_of_mem_turns {P : Theory → Prop} (lasts : ∀ t u : Theory, t.Becomes u → P t → P u)
    {commands : List Command} {t : Theory} {journal : Journal} (ht : P t) :
    ∀ turn ∈ turns commands t journal, P turn.before := by
  induction commands generalizing t journal with
  | nil => simp [turns]
  | cons command commands ih =>
    intro turn hturn
    rcases List.mem_cons.mp hturn with rfl | hlater
    · exact ht
    · exact ih (lasts _ _ (becomes_of_performs (t.performs command journal)) ht) turn hlater

/-- A run answers what its turns answer. -/
lemma results_run (commands : List Command) (t : Theory) (journal : Journal) :
    (run commands t journal).1 = (turns commands t journal).map Turn.result := by
  induction commands generalizing t journal with
  | nil => rfl
  | cons command commands ih => exact congrArg (List.cons _) (ih _ _)

end Theory

end Postulate
