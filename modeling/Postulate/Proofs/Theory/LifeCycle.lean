import Postulate.Proofs.Theory.Verdict

/-!
# The life of a hypothesis

Nowhere is it written down how far a hypothesis has come. Whether it has a chain, and whether the
entry of the chain is marked, tells it all the same. Without a chain, every command leaves the
hypothesis as it is, but for the first supposition whose builder succeeds. With a chain, it refuses
every other supposition, and the chain keeps its clauses. The first evaluation then marks the entry,
whatever comes of it, even if the builder had marked it before; and from then on no command changes
anything or calls anything. The main result, `Hypothesis.lifeCycle_works`, says this of any list of
commands, each of which may find other calls in the journal than the one before it has left.
-/

namespace Postulate

namespace Hypothesis

variable {h : Hypothesis} {builder : Builder} {c : Chain} {e : ClauseError}
  {journal left : Journal}

/-! ## One command -/

lemma perform_suppose_of_isSupposed (supposed : h.isSupposed = true) :
    h.perform (.suppose builder) journal =
      (.error (.suppositionAlreadySet h.label), h, journal) := by
  simp only [perform, suppose_of_isSupposed supposed]

lemma perform_suppose_of_builds (bare : h.isSupposed = false)
    (builds : builder.build journal = (.ok c, left)) :
    h.perform (.suppose builder) journal = (.ok .supposed, { h with chain := some c }, left) := by
  simp only [perform, suppose, bare, Bool.false_eq_true, if_false, builds]

lemma perform_suppose_of_fails (bare : h.isSupposed = false)
    (fails : builder.build journal = (.error e, left)) :
    h.perform (.suppose builder) journal = (.error (.clause e), h, left) := by
  simp only [perform, suppose, bare, Bool.false_eq_true, if_false, fails]

lemma perform_evaluate_of_bare (bare : h.isSupposed = false) :
    h.perform .evaluate journal = (.error (.missingSupposition h.label), h, journal) := by
  have hchain : h.chain = none := by simpa [isSupposed] using bare
  simp only [perform, evaluate_of_chain_eq_none hchain, Except.map]

lemma perform_evaluate_of_isEvaluated (evaluated : h.isEvaluated = true) :
    h.perform .evaluate journal = (.error (.clause .alreadyEvaluated), h, journal) := by
  simp only [perform, evaluate_of_isEvaluated evaluated, Except.map]

lemma isEvaluated_perform_evaluate (supposed : h.isSupposed = true) :
    (h.perform .evaluate journal).2.1.isEvaluated = true := by
  rw [← supposed]
  exact h.isEvaluated_evaluate journal

lemma isSupposed_of_isEvaluated (evaluated : h.isEvaluated = true) : h.isSupposed = true := by
  cases hchain : h.chain with
  | none => simp [isEvaluated, hchain] at evaluated
  | some c => simp [isSupposed, hchain]

/-- Without a chain, a hypothesis gets one from a builder that succeeds, or stays as it is. -/
lemma perform_of_bare (bare : h.isSupposed = false) (command : HypothesisCommand)
    (journal : Journal) :
    (∃ e left, h.perform command journal = (.error e, h, left)) ∨
      ∃ c left, h.perform command journal = (.ok .supposed, { h with chain := some c }, left) := by
  cases command with
  | evaluate => exact Or.inl ⟨_, _, perform_evaluate_of_bare bare⟩
  | suppose builder =>
    rcases hbuild : builder.build journal with ⟨e | c, left⟩
    · exact Or.inl ⟨_, _, perform_suppose_of_fails bare hbuild⟩
    · exact Or.inr ⟨_, _, perform_suppose_of_builds bare hbuild⟩

/-- Nothing comes of any command once the hypothesis is evaluated. -/
lemma exists_perform_of_isEvaluated (evaluated : h.isEvaluated = true)
    (command : HypothesisCommand) (journal : Journal) :
    ∃ e, h.perform command journal = (.error e, h, journal) := by
  cases command with
  | suppose builder =>
    exact ⟨_, perform_suppose_of_isSupposed (isSupposed_of_isEvaluated evaluated)⟩
  | evaluate => exact ⟨_, perform_evaluate_of_isEvaluated evaluated⟩

/-- A chain keeps its clauses, and no clause is linked behind them. -/
lemma exists_chain_perform (hchain : h.chain = some c) (command : HypothesisCommand)
    (journal : Journal) :
    ∃ d, (h.perform command journal).2.1.chain = some d ∧ c.Becomes d ∧ d.length = c.length := by
  cases command with
  | suppose builder =>
    have supposed : h.isSupposed = true := by simp [isSupposed, hchain]
    rw [perform_suppose_of_isSupposed supposed]
    exact ⟨c, hchain, .refl c, rfl⟩
  | evaluate =>
    refine ⟨(c.evaluate journal).chain, ?_, c.becomes_evaluate journal, c.length_evaluate journal⟩
    simp only [perform, evaluate, hchain]

end Hypothesis

/-! ## Work -/

/-- A command, the hypothesis it is carried out on, and the calls made before. -/
structure Work where
  before : Hypothesis
  command : HypothesisCommand
  journal : Journal

namespace Work

/-- The answer to the command. -/
def result (w : Work) : Except TheoryError Reply := (w.before.perform w.command w.journal).1

/-- The hypothesis after the command. -/
def after (w : Work) : Hypothesis := (w.before.perform w.command w.journal).2.1

/-- The journal after the command. -/
def left (w : Work) : Journal := (w.before.perform w.command w.journal).2.2

/-- Does the hypothesis get its chain? -/
def founds (w : Work) : Bool :=
  match w.result with
  | .ok .supposed => true
  | _ => false

/-- Does the work come to a verdict? -/
def concludes (w : Work) : Bool :=
  match w.result with
  | .ok (.verdict _) => true
  | _ => false

variable {w : Work} {result : Except TheoryError Reply} {after : Hypothesis} {left : Journal}

lemma eq_of_perform (h : w.before.perform w.command w.journal = (result, after, left)) :
    w.result = result ∧ w.after = after ∧ w.left = left := by
  rw [Work.result, Work.after, Work.left, h]
  exact ⟨rfl, rfl, rfl⟩

lemma performs (w : Work) : w.before.Performs w.journal w.command w.result w.after w.left :=
  w.before.performs w.command w.journal

lemma becomes (w : Work) : w.before.Becomes w.after := Hypothesis.becomes_of_performs w.performs

lemma label_after (w : Work) : w.after.label = w.before.label := by
  rw [Hypothesis.label, Hypothesis.label, w.becomes.index_eq, w.becomes.name_eq]

/-- Only a supposition that succeeds gives a hypothesis its chain. -/
lemma isSupposed_after (w : Work) :
    w.after.isSupposed = true ↔ w.before.isSupposed = true ∨ w.founds = true := by
  cases supposed : w.before.isSupposed with
  | true =>
    obtain ⟨c, hchain⟩ := Option.isSome_iff_exists.mp supposed
    obtain ⟨d, hd, -⟩ := w.becomes.chain c hchain
    simp [Hypothesis.isSupposed, hd]
  | false =>
    rcases Hypothesis.perform_of_bare supposed w.command w.journal with ⟨e, left, hperform⟩ |
      ⟨c, left, hperform⟩
    · obtain ⟨hresult, hafter, -⟩ := eq_of_perform hperform
      simp [founds, hresult, hafter, supposed]
    · obtain ⟨hresult, hafter, -⟩ := eq_of_perform hperform
      simp [founds, hresult, hafter, Hypothesis.isSupposed]

/-- A hypothesis that has no chain afterwards is as it was. -/
lemma after_eq_of_bare (bare : w.after.isSupposed = false) : w.after = w.before := by
  have hbefore : w.before.isSupposed = false := by
    by_contra supposed
    have hafter := w.isSupposed_after.mpr (Or.inl (by simpa using supposed))
    simp [hafter] at bare
  rcases Hypothesis.perform_of_bare hbefore w.command w.journal with ⟨e, left, hperform⟩ |
    ⟨c, left, hperform⟩
  · exact (eq_of_perform hperform).2.1
  · rw [(eq_of_perform hperform).2.1] at bare
    simp [Hypothesis.isSupposed] at bare

/-- A verdict leaves the hypothesis evaluated. -/
lemma isEvaluated_of_concludes (concludes : w.concludes = true) : w.after.isEvaluated = true := by
  obtain ⟨before, command, journal⟩ := w
  cases command with
  | suppose builder =>
    -- a supposition never comes to a verdict
    simp only [Work.concludes, result, Hypothesis.perform] at concludes
    rcases hsuppose : before.suppose builder journal with ⟨e | k, left⟩ <;>
      simp [hsuppose] at concludes
  | evaluate =>
    cases supposed : before.isSupposed with
    | true => exact Hypothesis.isEvaluated_perform_evaluate supposed
    | false =>
      simp [Work.concludes, result, Hypothesis.perform_evaluate_of_bare supposed] at concludes

end Work

/-! ## A life -/

namespace Hypothesis

/-- The work of a list of commands on a hypothesis, one after the other. What else is called in the
meantime is free: each command comes with the journal that it finds. -/
def works : List (HypothesisCommand × Journal) → Hypothesis → List Work
  | [], _ => []
  | (command, journal) :: commands, h =>
    let work : Work := ⟨h, command, journal⟩
    work :: works commands work.after

variable {h : Hypothesis} {commands : List (HypothesisCommand × Journal)} {w : Work}
  {earlier later : List Work}

/-- What one piece of work leaves, the work after it starts from. -/
lemma exists_works_of_split (split : works commands h = earlier ++ w :: later) :
    ∃ more, later = works more w.after := by
  induction commands generalizing h earlier with
  | nil => simp [works] at split
  | cons first commands ih =>
    cases earlier with
    | nil =>
      obtain ⟨rfl, rfl⟩ := List.cons.inj split
      exact ⟨commands, rfl⟩
    | cons k earlier => exact ih (List.cons.inj split).2

/-- What every piece of work keeps of a hypothesis holds all its life. -/
lemma of_mem_works {P : Hypothesis → Prop} (keeps : ∀ w : Work, P w.before → P w.after) (hP : P h) :
    ∀ w ∈ works commands h, P w.before ∧ P w.after := by
  induction commands generalizing h with
  | nil => simp [works]
  | cons first commands ih =>
    have head := keeps ⟨h, first.1, first.2⟩ hP
    intro w hw
    rcases List.mem_cons.mp hw with rfl | hw
    · exact ⟨hP, head⟩
    · exact ih head w hw

lemma label_of_mem_works (hw : w ∈ works commands h) : w.before.label = h.label :=
  (of_mem_works (P := fun k => k.label = h.label) (fun w hlabel => w.label_after.trans hlabel) rfl
    w hw).1

/-- A chain is there at first, or some supposition has succeeded in the meantime. -/
lemma isSupposed_iff_of_split (split : works commands h = earlier ++ w :: later) :
    w.before.isSupposed = true ↔
      h.isSupposed = true ∨ ∃ first ∈ earlier, first.founds = true := by
  induction commands generalizing h earlier with
  | nil => simp [works] at split
  | cons first commands ih =>
    cases earlier with
    | nil =>
      obtain ⟨rfl, rfl⟩ := List.cons.inj split
      simp
    | cons k earlier =>
      obtain ⟨rfl, hrest⟩ := List.cons.inj split
      rw [ih hrest, Work.isSupposed_after]
      simp only [List.mem_cons, exists_eq_or_imp, or_assoc]

/-- As long as a hypothesis has no chain it is what it was at first. -/
lemma before_eq_of_bare (hw : w ∈ works commands h) (bare : w.before.isSupposed = false) :
    w.before = h := by
  induction commands generalizing h with
  | nil => simp [works] at hw
  | cons first commands ih =>
    rcases List.mem_cons.mp hw with rfl | hw
    · rfl
    · have hbefore := ih hw
      rw [hbefore] at bare
      rw [hbefore, Work.after_eq_of_bare bare]

lemma chain_of_mem_works {c : Chain} (hchain : h.chain = some c) (hw : w ∈ works commands h) :
    ∃ d, w.after.chain = some d ∧ c.Becomes d ∧ d.length = c.length := by
  have keeps : ∀ w : Work,
      (∃ d, w.before.chain = some d ∧ c.Becomes d ∧ d.length = c.length) →
        ∃ d, w.after.chain = some d ∧ c.Becomes d ∧ d.length = c.length := by
    rintro w ⟨d, hd, hcd, hlength⟩
    obtain ⟨k, hk, hdk, hlength'⟩ := exists_chain_perform hd w.command w.journal
    exact ⟨k, hk, hcd.trans hdk, hlength'.trans hlength⟩
  exact (of_mem_works (P := fun k => ∃ d, k.chain = some d ∧ c.Becomes d ∧ d.length = c.length)
    keeps ⟨c, hchain, .refl c, rfl⟩ w hw).2

/-- An evaluated hypothesis stays as it is. -/
lemma eq_of_mem_works (evaluated : h.isEvaluated = true) (hw : w ∈ works commands h) :
    w.before = h ∧ w.after = h := by
  refine of_mem_works (P := fun k => k = h) (fun w hbefore => ?_) rfl w hw
  obtain ⟨e, hperform⟩ := exists_perform_of_isEvaluated (hbefore ▸ evaluated) w.command w.journal
  rw [(Work.eq_of_perform hperform).2.1, hbefore]

/-- At most one piece of work comes to a verdict. -/
lemma countP_concludes_le_one (commands : List (HypothesisCommand × Journal)) (h : Hypothesis) :
    (works commands h).countP Work.concludes ≤ 1 := by
  induction commands generalizing h with
  | nil => simp [works]
  | cons first commands ih =>
    let w : Work := ⟨h, first.1, first.2⟩
    have hworks : works (first :: commands) h = w :: works commands w.after := rfl
    rw [hworks, List.countP_cons]
    by_cases concludes : w.concludes = true
    · -- the hypothesis is evaluated from then on, and every command is answered by an error
      have evaluated := Work.isEvaluated_of_concludes concludes
      have hnone : (works commands w.after).countP Work.concludes = 0 := by
        refine List.countP_eq_zero.mpr fun k hk => ?_
        have hbefore := (eq_of_mem_works evaluated hk).1
        obtain ⟨e, hperform⟩ :=
          exists_perform_of_isEvaluated (hbefore ▸ evaluated) k.command k.journal
        simp [Work.concludes, (Work.eq_of_perform hperform).1]
      simp [hnone, concludes]
    · rw [if_neg concludes]
      exact ih w.after

/-! ## The law -/

/-- What holds of all work on a hypothesis that is `h` at first. -/
structure LifeCycle (h : Hypothesis) (works : List Work) : Prop where
  label_eq : ∀ w ∈ works, w.before.label = h.label
  /-- The hypothesis has a chain from the first supposition on that succeeds. -/
  supposed_iff : ∀ earlier w later, works = earlier ++ w :: later →
    (w.before.isSupposed = true ↔
      h.isSupposed = true ∨ ∃ first ∈ earlier, first.founds = true)
  /-- Before, nothing has changed it. -/
  bare : ∀ w ∈ works, w.before.isSupposed = false → w.before = h
  /-- A builder that succeeds gives it its chain. -/
  builds : ∀ w ∈ works, ∀ builder c left, w.before.isSupposed = false →
    w.command = .suppose builder → builder.build w.journal = (.ok c, left) →
      w.result = .ok .supposed ∧ w.after = { h with chain := some c } ∧ w.left = left
  /-- A builder that fails gives its error and leaves it without a chain. -/
  fails : ∀ w ∈ works, ∀ builder e left, w.before.isSupposed = false →
    w.command = .suppose builder → builder.build w.journal = (.error e, left) →
      w.result = .error (.clause e) ∧ w.after = w.before ∧ w.left = left
  /-- Without a chain there is nothing to evaluate. -/
  missing : ∀ w ∈ works, w.before.isSupposed = false → w.command = .evaluate →
    w.result = .error (.missingSupposition h.label) ∧ w.after = w.before ∧ w.left = w.journal
  /-- A chain stays: no clause goes or is linked, and nothing of a clause changes but its mark. -/
  keeps : ∀ earlier w later c, works = earlier ++ w :: later → w.after.chain = some c →
    ∀ next ∈ later, ∃ d, next.after.chain = some d ∧ c.Becomes d ∧ d.length = c.length
  /-- With a chain, a supposition is refused, and its builder is not asked. -/
  refused : ∀ w ∈ works, ∀ builder, w.before.isSupposed = true → w.command = .suppose builder →
    w.result = .error (.suppositionAlreadySet h.label) ∧ w.after = w.before ∧ w.left = w.journal
  /-- An evaluation comes to what the evaluation of the chain comes to. -/
  evaluates : ∀ w ∈ works, ∀ c, w.before.chain = some c → w.command = .evaluate →
    w.result = ((c.evaluate w.journal).verdict.mapError .clause).map .verdict
  /-- Whatever that is, it leaves the hypothesis evaluated. Nothing that is done later changes
  anything or calls anything, and every other evaluation is refused. -/
  evaluated : ∀ earlier w later, works = earlier ++ w :: later → w.before.isSupposed = true →
    w.command = .evaluate → w.after.isEvaluated = true ∧ ∀ next ∈ later,
      next.before = w.after ∧ next.after = w.after ∧ next.left = next.journal ∧
        (next.command = .evaluate → next.result = .error (.clause .alreadyEvaluated))
  concludes_le_one : works.countP Work.concludes ≤ 1

/-- Whatever is done with a hypothesis, in whatever order and with whatever calls in between, is the
life of a hypothesis: without a chain, with a chain, and evaluated. -/
theorem lifeCycle_works (commands : List (HypothesisCommand × Journal)) (h : Hypothesis) :
    h.LifeCycle (works commands h) where
  label_eq w hw := label_of_mem_works hw
  supposed_iff earlier w later split := isSupposed_iff_of_split split
  bare w hw := before_eq_of_bare hw
  builds w hw builder c left bare command builds := by
    have hperform := perform_suppose_of_builds bare builds
    rw [← command] at hperform
    rw [← before_eq_of_bare hw bare]
    exact Work.eq_of_perform hperform
  fails w hw builder e left bare command fails := by
    have hperform := perform_suppose_of_fails bare fails
    rw [← command] at hperform
    exact Work.eq_of_perform hperform
  missing w hw bare command := by
    have hperform : w.before.perform .evaluate w.journal = _ := perform_evaluate_of_bare bare
    rw [← command, label_of_mem_works hw] at hperform
    exact Work.eq_of_perform hperform
  keeps earlier w later c split hchain next hnext := by
    obtain ⟨more, rfl⟩ := exists_works_of_split split
    exact chain_of_mem_works hchain hnext
  refused w hw builder supposed command := by
    have hperform : w.before.perform (.suppose builder) w.journal = _ :=
      perform_suppose_of_isSupposed supposed
    rw [← command, label_of_mem_works hw] at hperform
    exact Work.eq_of_perform hperform
  evaluates w hw c hchain command := by
    simp only [Work.result, command, perform, evaluate, hchain]
  evaluated earlier w later split supposed command := by
    have evaluated : w.after.isEvaluated = true := by
      rw [Work.after, command]
      exact isEvaluated_perform_evaluate supposed
    obtain ⟨more, rfl⟩ := exists_works_of_split split
    refine ⟨evaluated, fun next hnext => ?_⟩
    obtain ⟨hbefore, hafter⟩ := eq_of_mem_works evaluated hnext
    rw [← hbefore] at evaluated
    obtain ⟨e, hperform⟩ := exists_perform_of_isEvaluated evaluated next.command next.journal
    refine ⟨hbefore, hafter, (Work.eq_of_perform hperform).2.2, fun command => ?_⟩
    rw [Work.result, command, perform_evaluate_of_isEvaluated evaluated]
  concludes_le_one := countP_concludes_le_one commands h

end Hypothesis

end Postulate
