import Mathlib.Data.List.Forall2
import Postulate.Chain.Step
import Postulate.Proofs.Chain.FirstStop

/-!
# Marks

A clause never loses its mark, a chain never loses a clause, and nothing else of a clause ever
changes: from one moment to a later one, the clauses of a chain are the same, some of them marked
in the meantime, and new ones may have been linked behind them (`Chain.Becomes`). An evaluation asks
questions only of the clauses that it marks, each of them once at most and in the order of linking
(`Focus.asked_evaluate`), and every other step leaves the marks as they are and asks nothing
(`Focus.extends_perform`). So the clauses under a label that have no mark yet are a store of
questions that only linking can fill and that every question takes from
(`countP_turned_add_unasked`).
-/

namespace Postulate

/-- The items of the first list are the first items of the second, each changed in no other way
than the relation allows. -/
inductive Persist {α : Type} (r : α → α → Prop) : List α → List α → Prop
  | nil {later : List α} : Persist r [] later
  | cons {a b : α} {l m : List α} (head : r a b) (tail : Persist r l m) : Persist r (a :: l) (b :: m)

namespace Persist

variable {α : Type} {r : α → α → Prop} {l m n : List α}

lemma of_append (hr : ∀ a, r a a) (l later : List α) : Persist r l (l ++ later) := by
  induction l with
  | nil => exact .nil
  | cons a l ih => exact .cons (hr a) ih

lemma refl (hr : ∀ a, r a a) (l : List α) : Persist r l l := by
  simpa using of_append hr l []

lemma trans (hr : ∀ a b c, r a b → r b c → r a c) (h : Persist r l m) (k : Persist r m n) :
    Persist r l n := by
  induction h generalizing n with
  | nil => exact .nil
  | cons head tail ih =>
    cases k with
    | cons head' tail' => exact .cons (hr _ _ _ head head') (ih tail')

/-- What stays in front does not matter. -/
lemma append_left (hr : ∀ a, r a a) (before : List α) (h : Persist r l m) :
    Persist r (before ++ l) (before ++ m) := by
  induction before with
  | nil => exact h
  | cons a before ih => exact .cons (hr a) ih

lemma map_append {f : α → α} (hf : ∀ a, r a (f a)) (before : List α) (h : Persist r l m) :
    Persist r (before ++ l) (before.map f ++ m) := by
  induction before with
  | nil => exact h
  | cons a before ih => exact .cons (hf a) ih

lemma set {i : Nat} {a b : α} (hr : ∀ a, r a a) (hi : l[i]? = some a) (h : r a b) :
    Persist r l (l.set i b) := by
  induction l generalizing i with
  | nil => simp at hi
  | cons c l ih =>
    cases i with
    | zero =>
      obtain rfl : c = a := by simpa using hi
      exact .cons h (refl hr l)
    | succ i => exact .cons (hr c) (ih (by simpa using hi))

/-- An item is found at its place again. -/
lemma getElem? {i : Nat} {a : α} (h : Persist r l m) (hi : l[i]? = some a) :
    ∃ b, m[i]? = some b ∧ r a b := by
  induction h generalizing i with
  | nil => simp at hi
  | @cons c d l m head tail ih =>
    cases i with
    | zero =>
      obtain rfl : c = a := by simpa using hi
      exact ⟨d, by simp, head⟩
    | succ i => simpa using ih (by simpa using hi)

/-- What the relation preserves does not become rarer. -/
lemma countP_le {p : α → Bool} (hp : ∀ a b, r a b → p a = true → p b = true) (h : Persist r l m) :
    l.countP p ≤ m.countP p := by
  induction h with
  | nil => simp
  | @cons a b l m head tail ih =>
    rw [List.countP_cons, List.countP_cons]
    by_cases ha : p a = true
    · rw [if_pos ha, if_pos (hp a b head ha)]
      omega
    · rw [if_neg ha]
      omega

end Persist

namespace Clause

/-- The second clause is the first at a later time: the same, or the same with the mark. -/
def Becomes (c d : Clause) : Prop := d = c ∨ d = c.marked

variable {c d e : Clause}

lemma Becomes.refl (c : Clause) : c.Becomes c := Or.inl rfl

lemma becomes_marked (c : Clause) : c.Becomes c.marked := Or.inr rfl

lemma Becomes.trans (h : c.Becomes d) (k : d.Becomes e) : c.Becomes e := by
  rcases h with rfl | rfl
  · exact k
  · rcases k with rfl | rfl
    · exact becomes_marked c
    · exact becomes_marked c

lemma Becomes.evaluated (h : c.Becomes d) (hc : c.evaluated = true) : d.evaluated = true := by
  rcases h with rfl | rfl
  · exact hc
  · exact evaluated_marked c

end Clause

namespace Chain

/-- The second chain is the first at a later time: no clause has gone, none has lost its mark, and
none has changed otherwise. Clauses may have been linked behind them. -/
def Becomes (c d : Chain) : Prop := Persist Clause.Becomes c.clauses d.clauses

variable {c d e : Chain}

lemma Becomes.refl (c : Chain) : c.Becomes c := Persist.refl Clause.Becomes.refl c.clauses

lemma Becomes.trans (h : c.Becomes d) (k : d.Becomes e) : c.Becomes e :=
  Persist.trans (fun _ _ _ => Clause.Becomes.trans) h k

lemma Becomes.isEvaluated (h : c.Becomes d) (hc : c.isEvaluated = true) : d.isEvaluated = true := by
  obtain ⟨entry, later⟩ := c
  obtain ⟨entry', later'⟩ := d
  cases h with
  | cons head tail => exact head.evaluated hc

/-- An evaluation marks clauses and does nothing else to the chain. -/
lemma becomes_evaluate (c : Chain) (journal : Journal) :
    c.Becomes (c.evaluate journal).chain := by
  rcases allPass_or_stops c.clauses journal with ⟨calls, all⟩ |
    ⟨passed, k, rest, calls, result, last, split, before, stop⟩
  · obtain ⟨d, hd, heval⟩ := evaluate_of_allPass all
    have hkept : Persist Clause.Becomes (c.clauses ++ []) (c.clauses.map Clause.marked ++ []) :=
      Persist.map_append Clause.becomes_marked c.clauses .nil
    rw [heval, Becomes, hd]
    simpa using hkept
  · obtain ⟨d, hd, heval⟩ := evaluate_of_stops split before stop
    rw [heval, Becomes, hd, split]
    exact Persist.map_append Clause.becomes_marked passed
      (.cons (Clause.becomes_marked k) (Persist.refl Clause.Becomes.refl rest))

end Chain

/-! ## Clauses that get their mark -/

/-- The clauses of the first list that have no mark there, and have it in the second. -/
def turned : List Clause → List Clause → List Clause
  | c :: before, d :: after =>
    if !c.evaluated && d.evaluated then c :: turned before after else turned before after
  | _, _ => []

@[simp] lemma turned_nil_left (after : List Clause) : turned [] after = [] := by
  cases after <;> rfl

lemma turned_append_left (l before after : List Clause) :
    turned (l ++ before) (l ++ after) = turned before after := by
  induction l with
  | nil => rfl
  | cons c l ih => simp [turned, ih]

lemma turned_append_self (l later : List Clause) : turned l (l ++ later) = [] := by
  simpa using turned_append_left l [] later

lemma turned_map_marked_append {passed : List Clause} (before after : List Clause)
    (fresh : ∀ c ∈ passed, c.evaluated = false) :
    turned (passed ++ before) (passed.map Clause.marked ++ after) = passed ++ turned before after := by
  induction passed with
  | nil => rfl
  | cons c passed ih =>
    have hc : c.evaluated = false := fresh c List.mem_cons_self
    simp [turned, hc, ih fun k hk => fresh k (List.mem_cons_of_mem c hk)]

lemma turned_cons_marked (k : Clause) (rest : List Clause) :
    turned (k :: rest) (k.marked :: rest) = if k.evaluated then [] else [k] := by
  have hrest : turned rest rest = [] := by simpa using turned_append_self rest []
  cases hk : k.evaluated <;> simp [turned, hk, hrest]

/-! ## Questions -/

/-- Is it a call of a check? -/
def Call.isQuestion : Call → Bool
  | .checked .. | .supposed .. => true
  | _ => false

lemma Call.isQuestion_of_isCheck {label : String} {call : Call} (h : call.isCheck label = true) :
    call.isQuestion = true := by
  cases call <;> simp_all [isCheck, isQuestion]

/-- The calls of checks, in order. -/
def Journal.questions (journal : Journal) : List Call := journal.filter Call.isQuestion

@[simp] lemma Journal.questions_append (a b : Journal) :
    Journal.questions (a ++ b) = a.questions ++ b.questions := List.filter_append ..

/-- Among the calls, those of a check are among the questions. -/
lemma Journal.checks_eq (journal : Journal) (label : String) :
    journal.checks label = journal.questions.countP (Call.isCheck label) := by
  simp only [checks, questions, List.countP_filter]
  refine List.countP_congr fun call _ => ?_
  simpa using Call.isQuestion_of_isCheck

lemma Source.questions_calls {t : ValueType} (s : Source t) (journal : Journal) :
    Journal.questions (s.calls journal) = [] := by
  induction s with
  | constant value => rfl
  | provider label answer =>
    simp only [calls]
    cases answer journal <;> rfl
  | converted conversion origin ih => exact ih

lemma Check.questions_call {t : ValueType} (check : Check t) (value : t.Carrier) (passed : Bool) :
    Journal.questions [check.call value passed] = [check.call value passed] := by
  cases check <;> rfl

namespace Clause

/-- The call puts the question of the check that the clause carries. -/
def Puts (c : Clause) (call : Call) : Prop :=
  ∃ check value passed, c.check = some check ∧ call = check.call value passed

/-- Does the clause carry a check with this label? -/
def asks (label : String) (c : Clause) : Bool := c.check.any fun check => check.label == label

@[simp] lemma asks_marked (label : String) (c : Clause) : c.marked.asks label = c.asks label := rfl

variable {c : Clause} {journal : Journal} {calls : List Call}

lemma isCheck_of_puts {call : Call} (h : c.Puts call) (label : String) :
    call.isCheck label = c.asks label := by
  obtain ⟨check, value, passed, hcheck, rfl⟩ := h
  cases check <;> simp [Check.call, Call.isCheck, asks, hcheck, Check.label]

/-- A clause that is passed has asked its question, if it has one. -/
lemma questions_of_passes (h : c.Passes journal calls) :
    List.Forall₂ Puts ([c].filter hasCheck) (Journal.questions calls) := by
  cases h with
  | unchecked _ noCheck =>
    simp only [hasCheck, noCheck, Option.isSome_none, List.filter_cons, Bool.false_eq_true, if_false,
      List.filter_nil]
    exact .nil
  | @checked check value _ hasCheck _ _ =>
    simp only [Clause.hasCheck, hasCheck, Option.isSome_some, List.filter_cons, if_true,
      List.filter_nil, Journal.questions_append, Source.questions_calls, Check.questions_call,
      List.nil_append]
    exact .cons ⟨check, value, true, hasCheck, rfl⟩ .nil

/-- A clause that ends an evaluation has asked nothing, or it had no mark and has asked its
question. -/
lemma questions_of_stops {result : Except ClauseError Bool} (h : c.Stops journal result calls) :
    Journal.questions calls = [] ∨
      c.evaluated = false ∧ List.Forall₂ Puts [c] (Journal.questions calls) := by
  cases h with
  | marked => exact Or.inl rfl
  | unreadable => exact Or.inl (c.source.questions_calls journal)
  | @refused check value fresh hasCheck _ _ =>
    refine Or.inr ⟨fresh, ?_⟩
    simp only [Journal.questions_append, Source.questions_calls, Check.questions_call,
      List.nil_append]
    exact .cons ⟨check, value, false, hasCheck, rfl⟩ .nil

end Clause

lemma questions_of_allPass {clauses : List Clause} {journal : Journal} {calls : List Call}
    (h : AllPass clauses journal calls) :
    List.Forall₂ Clause.Puts (clauses.filter Clause.hasCheck) (Journal.questions calls) := by
  induction h with
  | nil => exact .nil
  | @cons c rest journal calls more head tail ih =>
    rw [← List.singleton_append, List.filter_append, Journal.questions_append]
    exact List.rel_append (Clause.questions_of_passes head) ih

lemma fresh_of_allPass {clauses : List Clause} {journal : Journal} {calls : List Call}
    (h : AllPass clauses journal calls) : ∀ c ∈ clauses, c.evaluated = false := by
  induction h with
  | nil => simp
  | cons head tail ih => simpa using ⟨Clause.evaluated_of_passes head, ih⟩

/-- The questions are those of some of the clauses, one of each, in the order of the clauses. -/
def Asked (clauses : List Clause) (questions : List Call) : Prop :=
  ∃ asked : List Clause, asked.Sublist clauses ∧ List.Forall₂ Clause.Puts asked questions

lemma asked_nil (clauses : List Clause) : Asked clauses [] := ⟨[], List.nil_sublist clauses, .nil⟩

/-- Under a label there are no more questions than clauses to ask them. -/
lemma countP_isCheck_le_of_asked {clauses : List Clause} {questions : List Call}
    (h : Asked clauses questions) (label : String) :
    questions.countP (Call.isCheck label) ≤ clauses.countP (Clause.asks label) := by
  obtain ⟨asked, sublist, puts⟩ := h
  have hcount : questions.countP (Call.isCheck label) = asked.countP (Clause.asks label) := by
    clear sublist
    induction puts with
    | nil => rfl
    | cons head _ ih => rw [List.countP_cons, List.countP_cons, ih, Clause.isCheck_of_puts head]
  rw [hcount]
  exact sublist.countP_le

/-! ## What a step does -/

namespace Focus

/-- An evaluation asks the questions of clauses that it marks, of each clause once at most. -/
lemma asked_evaluate (f : Focus) (journal : Journal) :
    ∃ calls, (f.evaluate journal).2.2 = journal ++ calls ∧
      Asked (turned f.chain.clauses (f.evaluate journal).2.1.chain.clauses)
        (Journal.questions calls) := by
  obtain ⟨result, after, calls, hrules⟩ := f.exists_evaluates journal
  refine ⟨calls, by rw [evaluate_of_evaluates hrules], ?_⟩
  rw [evaluate_of_evaluates hrules]
  simp only [clauses_chain]
  cases hrules with
  | @stopped passed rest k calls last result after split before stop untouched marked =>
    rw [untouched, split, marked, turned_append_left,
      turned_map_marked_append _ _ (fresh_of_allPass before), turned_cons_marked,
      Journal.questions_append]
    have hpassed := questions_of_allPass before
    rcases Clause.questions_of_stops stop with hlast | ⟨fresh, hlast⟩
    · refine ⟨passed.filter Clause.hasCheck, ?_, by rwa [hlast, List.append_nil]⟩
      exact List.filter_sublist.trans (List.sublist_append_left passed _)
    · refine ⟨passed.filter Clause.hasCheck ++ [k], ?_, List.rel_append hpassed hlast⟩
      rw [fresh]
      exact List.filter_sublist.append (List.Sublist.refl [k])
  | completed all untouched marked =>
    have hturned := turned_map_marked_append [] [] (fresh_of_allPass all)
    rw [List.append_nil, List.append_nil, turned_nil_left, List.append_nil] at hturned
    rw [untouched, marked, turned_append_left, hturned]
    exact ⟨f.onward.clauses.filter Clause.hasCheck, List.filter_sublist, questions_of_allPass all⟩

/-- An evaluation changes nothing but marks of the chain. -/
lemma becomes_evaluate (f : Focus) (journal : Journal) :
    f.chain.Becomes (f.evaluate journal).2.1.chain := by
  rw [Chain.Becomes, clauses_chain, clauses_chain]
  exact Persist.append_left Clause.Becomes.refl f.before.reverse (f.onward.becomes_evaluate journal)

/-- What a step that is no evaluation leaves behind: the clauses as they were, with perhaps a new
one at the end, and nothing asked. -/
structure Extends (f after : Focus) (linked : List Clause) (calls : List Call) : Prop where
  clauses_eq : after.chain.clauses = f.chain.clauses ++ linked
  silent : Journal.questions calls = []

/-- After an attempt to link a clause, that clause stands at the end, or the chain is as before. -/
lemma exists_linked_settle (f : Focus) (c : Clause) :
    ∃ linked, (f.settle (f.link c)).2.chain.clauses = f.chain.clauses ++ linked ∧
      (linked = [] ∨ linked = [c] ∧ (f.settle (f.link c)).1.isOk = true) := by
  cases hlink : f.link c with
  | error e => exact ⟨[], by simp [settle], Or.inl rfl⟩
  | ok g => exact ⟨[c], (clauses_link hlink).2.2, Or.inr ⟨rfl, rfl⟩⟩

lemma extends_transform {u : ValueType} (f : Focus) (mapping : Mapping f.type u)
    (journal : Journal) :
    ∃ linked calls, (f.transform mapping journal).2 = journal ++ calls ∧
      Extends f (f.settle (f.transform mapping journal).1).2 linked calls ∧
        ∀ k ∈ linked, k.check = none := by
  by_cases hnext : f.hasNext = true
  · exact ⟨[], [], by simp [transform, hnext], ⟨by simp [transform, hnext, settle], rfl⟩, by simp⟩
  · have hread := f.here.source.journal_read journal
    have hsilent := f.here.source.questions_calls journal
    rcases hanswer : f.here.source.read journal with ⟨e | value, after⟩
    · obtain rfl : after = journal ++ f.here.source.calls journal := by simpa [hanswer] using hread
      simp only [transform, hnext, hanswer, Bool.false_eq_true, if_false]
      exact ⟨[], _, rfl, ⟨by simp [settle], hsilent⟩, by simp⟩
    · obtain rfl : after = journal ++ f.here.source.calls journal := by simpa [hanswer] using hread
      simp only [transform, hnext, hanswer, Bool.false_eq_true, if_false, List.append_assoc]
      obtain ⟨linked, hclauses, hlinked⟩ := f.exists_linked_settle
        { type := u
          source := .constant (mapping.apply (journal ++ f.here.source.calls journal) value) }
      refine ⟨linked, _, rfl, ⟨hclauses, ?_⟩, ?_⟩
      · rw [Journal.questions_append, hsilent]
        rfl
      · rcases hlinked with rfl | ⟨rfl, -⟩ <;> simp

end Focus

/-- Does the step bring along a check with this label? -/
def Step.offers (label : String) : Step → Bool
  | .refine check => check.label == label
  | _ => false

namespace Focus

/-- A step that is no evaluation links at most one clause. It carries a check only if the step was
to refine, and succeeded. -/
lemma extends_perform (f : Focus) {step : Step} (other : step ≠ .evaluate) (journal : Journal) :
    ∃ linked calls, (f.perform step journal).2.2 = journal ++ calls ∧
      Extends f (f.perform step journal).2.1 linked calls ∧
        ∀ label, linked.countP (Clause.asks label) ≤
          if step.offers label && (f.perform step journal).1.isOk then 1 else 0 := by
  cases step with
  | evaluate => exact absurd rfl other
  | back =>
    cases hback : f.back? with
    | none => exact ⟨[], [], by simp [perform, hback], ⟨by simp [perform, hback], rfl⟩, by simp⟩
    | some previous =>
      refine ⟨[], [], by simp [perform, hback], ⟨?_, rfl⟩, by simp⟩
      simp [perform, hback, chain_back hback]
  | read =>
    refine ⟨[], f.here.source.calls journal, ?_, ⟨by simp [perform],
      f.here.source.questions_calls journal⟩, by simp⟩
    rw [← f.here.source.journal_read journal]
    simp only [perform, value, Clause.value]
    rcases f.here.source.read journal with ⟨e | v, after⟩ <;> rfl
  | @refine t check =>
    by_cases fits : t = f.type
    · subst fits
      obtain ⟨linked, hclauses, hlinked⟩ := f.exists_linked_settle
        { type := f.type, source := f.here.source, check := some check }
      refine ⟨linked, [], by simp [perform], ⟨by simpa [perform, refine] using hclauses, rfl⟩, ?_⟩
      intro label
      rcases hlinked with rfl | ⟨rfl, hok⟩
      · simp
      · have hanswer : (f.perform (.refine check) journal).1.isOk = true := by
          simpa [perform, refine] using hok
        rw [hanswer]
        simp [Clause.asks, Step.offers]
    · exact ⟨[], [], by simp [perform, fits], ⟨by simp [perform, fits], rfl⟩, by simp⟩
  | @transform t u mapping =>
    by_cases fits : t = f.type
    · subst fits
      obtain ⟨linked, calls, hcalls, hextends, hcheck⟩ := f.extends_transform mapping journal
      refine ⟨linked, calls, by simpa [perform] using hcalls, by simpa [perform] using hextends, ?_⟩
      intro label
      have hnone : linked.countP (Clause.asks label) = 0 := by
        simpa [Clause.asks] using fun k hk => by simp [hcheck k hk]
      omega
    · exact ⟨[], [], by simp [perform, fits], ⟨by simp [perform, fits], rfl⟩, by simp⟩
  | convert conversion =>
    by_cases isText : f.type = .text
    · obtain ⟨linked, hclauses, hlinked⟩ := f.exists_linked_settle
        { type := _, source := .converted conversion (isText ▸ f.here.source) }
      refine ⟨linked, [], by simp [perform, isText], ⟨?_, rfl⟩, ?_⟩
      · simpa [perform, isText, convert] using hclauses
      · rcases hlinked with rfl | ⟨rfl, -⟩ <;> simp [Clause.asks]
    · exact ⟨[], [], by simp [perform, isText], ⟨by simp [perform, isText], rfl⟩, by simp⟩

/-- Whatever the step, the chain only grows and gets marks. -/
lemma becomes_perform (f : Focus) (step : Step) (journal : Journal) :
    f.chain.Becomes (f.perform step journal).2.1.chain := by
  by_cases heval : step = .evaluate
  · subst heval
    exact f.becomes_evaluate journal
  · obtain ⟨linked, calls, -, hextends, -⟩ := f.extends_perform heval journal
    rw [Chain.Becomes, hextends.clauses_eq]
    exact Persist.of_append Clause.Becomes.refl f.chain.clauses linked

end Focus

/-! ## Clauses that have still to ask -/

/-- How many of the clauses carry a check with this label, and no mark. -/
def unasked (label : String) (clauses : List Clause) : Nat :=
  clauses.countP fun c => c.asks label && !c.evaluated

lemma unasked_cons (label : String) (c : Clause) (clauses : List Clause) :
    unasked label (c :: clauses) =
      unasked label clauses + if c.asks label && !c.evaluated then 1 else 0 :=
  List.countP_cons ..

/-- What was there to ask, and what has come in addition, has been marked or is still there. -/
lemma countP_turned_add_unasked {before after : List Clause}
    (h : Persist Clause.Becomes before after) (label : String) :
    (turned before after).countP (Clause.asks label) + unasked label after =
      unasked label before + unasked label (after.drop before.length) := by
  induction h with
  | nil => simp [unasked]
  | @cons c d before after head tail ih =>
    rw [List.length_cons, List.drop_succ_cons, unasked_cons, unasked_cons]
    rcases head with rfl | rfl
    · -- the clause has not changed
      have hturned : turned (d :: before) (d :: after) = turned before after := by simp [turned]
      rw [hturned]
      omega
    · cases fresh : c.evaluated with
      | true =>
        have hturned : turned (c :: before) (c.marked :: after) = turned before after := by
          simp [turned, fresh]
        simp [hturned, ih]
      | false =>
        have hturned : turned (c :: before) (c.marked :: after) = c :: turned before after := by
          simp [turned, fresh]
        rw [hturned, List.countP_cons]
        simp only [Clause.evaluated_marked, Bool.not_true, Bool.and_false, Bool.not_false,
          Bool.and_true, Bool.false_eq_true, if_false]
        omega

end Postulate
