import Mathlib.Tactic.Lemma
import Postulate.Theory.Command

/-!
# What a registration does

A registration enters the hypothesis and its name before the builder runs, and takes both out again
when the builder fails. This file sums up what comes of it, in four cases: the name is taken, the
builder fails, or the hypothesis is registered, without a chain or with the one that was built
(`Theory.Registers`). That a failing builder leaves the theory as it was is the content of
`Theory.discardLast_enter`: striking out the last hypothesis and its name undoes entering them.
-/

namespace Postulate

namespace NameTable

lemma lookup_insert (table : NameTable) (name : Option String) (index : Nat) (n : String) :
    (table.insert name index).lookup n = if name = some n then some index else table.lookup n := by
  cases name with
  | none => simp [insert]
  | some m =>
    by_cases h : m = n
    · subst h
      simp [insert]
    · have hne : (n == m) = false := by simpa using Ne.symm h
      simp [insert, List.lookup_cons, hne, h]

/-- Striking out a name that was entered last, and was not in the table before, gives the table
before. -/
lemma erase_insert {table : NameTable} {name : Option String} {index : Nat}
    (h : ∀ n, name = some n → table.lookup n = none) :
    (table.insert name index).erase name = table := by
  cases name with
  | none => rfl
  | some n =>
    -- no entry of the table before has the name, so only the new one is struck out
    have hfree : ∀ entry ∈ table, (entry.1 != n) = true := by
      intro entry hentry
      have hne := List.lookup_eq_none_iff.mp (h n rfl) entry hentry
      simpa [bne_iff_ne, ne_comm] using hne
    simp only [insert, erase, Option.elim_some, List.filter_cons, bne_self_eq_false,
      Bool.false_eq_true, if_false]
    exact List.filter_eq_self.mpr hfree

end NameTable

namespace Theory

/-- No hypothesis is registered under the name. -/
def IsFree (t : Theory) (name : Option String) : Prop := ∀ n, name = some n → t.position? n = none

/-- The hypothesis that a registration under the name enters. -/
def fresh (t : Theory) (name : Option String) (chain : Option Chain) : Hypothesis where
  index := t.length
  name := properName name
  chain := chain

/-- The theory with a hypothesis and its name entered, the ledger as it is. -/
def enter (t : Theory) (h : Hypothesis) : Theory :=
  { t with hypotheses := t.hypotheses ++ [h], names := t.names.insert h.name h.index }

/-- The theory with a hypothesis entered and registered. -/
def register (t : Theory) (h : Hypothesis) : Theory := (t.enter h).confirm h

/-- The theory after a taken name was refused: only the ledger has changed. -/
def refuse (t : Theory) (name : String) : Theory :=
  { t with ledger := (t.ledger.count .rejected).note (.nameRejected name) }

lemma insert_of_taken {t : Theory} {name : Option String} {n : String}
    (hname : properName name = some n) (taken : (t.position? n).isSome = true) :
    t.insert name = (.error (.duplicateName n), t.refuse n) := by
  simp only [insert, hname, Option.filter_some, taken, if_true, refuse]

lemma insert_of_isFree {t : Theory} {name : Option String} (free : t.IsFree (properName name)) :
    t.insert name = (.ok (t.fresh name none), t.enter (t.fresh name none)) := by
  have hnone : (properName name).filter (fun n => (t.position? n).isSome) = none := by
    rw [Option.filter_eq_none_iff]
    intro n hn
    simp [free n hn]
  simp only [insert, hnone, enter, fresh]

/-- Taking the last hypothesis out again undoes entering it, when its name was free. -/
lemma discardLast_enter {t : Theory} {h : Hypothesis} (free : t.IsFree h.name) :
    (t.enter h).discardLast = t := by
  have hnames : (t.names.insert h.name h.index).erase h.name = t.names :=
    NameTable.erase_insert free
  simp only [discardLast, enter, List.getLast?_concat, List.dropLast_concat, hnames]

/-- Putting a hypothesis in the place of the one entered last is entering it instead. -/
lemma put_enter (t : Theory) {h h' : Hypothesis} (hlast : h.index = t.length)
    (hindex : h'.index = h.index) (hname : h'.name = h.name) : (t.enter h).put h' = t.enter h' := by
  have hset : (t.hypotheses ++ [h]).set h.index h' = t.hypotheses ++ [h'] := by
    rw [hlast, length, List.set_append_right _ _ (Nat.le_refl _), Nat.sub_self]
    rfl
  simp only [put, enter, hindex, hname, hset]

lemma isFree_or_taken (t : Theory) (name : Option String) :
    t.IsFree name ∨ ∃ n, name = some n ∧ (t.position? n).isSome = true := by
  cases name with
  | none => exact Or.inl fun n hn => absurd hn (by simp)
  | some n =>
    cases hpos : t.position? n with
    | none =>
      refine Or.inl fun m hm => ?_
      obtain rfl : n = m := by simpa using hm
      exact hpos
    | some index => exact Or.inr ⟨n, rfl, by rw [hpos]; rfl⟩

/-! ## The outcomes of a registration -/

section Outcomes

variable {t : Theory} {name : Option String} {n : String} {builder : Builder}
  {journal journal' : Journal}

lemma add_of_taken (proper : properName name = some n) (taken : (t.position? n).isSome = true) :
    t.add name = (.error (.duplicateName n), t.refuse n) := by
  simp only [add, insert_of_taken proper taken]

lemma add_of_isFree (free : t.IsFree (properName name)) :
    t.add name = (.ok t.length, t.register (t.fresh name none)) := by
  simp only [add, insert_of_isFree free]
  rfl

lemma suppose_of_taken (proper : properName name = some n)
    (taken : (t.position? n).isSome = true) :
    t.suppose name builder journal = (.error (.duplicateName n), t.refuse n, journal) := by
  simp only [suppose, insert_of_taken proper taken]

lemma suppose_of_fails {e : ClauseError} (free : t.IsFree (properName name))
    (fails : builder.build journal = (.error e, journal')) :
    t.suppose name builder journal = (.error (.clause e), t, journal') := by
  have hsuppose : (t.fresh name none).suppose builder journal = (.error (.clause e), journal') := by
    simp [Hypothesis.suppose, Hypothesis.isSupposed, fresh, fails]
  have hdiscard : (t.enter (t.fresh name none)).discardLast = t := discardLast_enter free
  simp only [suppose, insert_of_isFree free, hsuppose, hdiscard]

lemma suppose_of_builds {chain : Chain} (free : t.IsFree (properName name))
    (builds : builder.build journal = (.ok chain, journal')) :
    t.suppose name builder journal =
      (.ok t.length, t.register (t.fresh name (some chain)), journal') := by
  have hsuppose : (t.fresh name none).suppose builder journal =
      (.ok (t.fresh name (some chain)), journal') := by
    simp [Hypothesis.suppose, Hypothesis.isSupposed, fresh, builds]
  have hput : (t.enter (t.fresh name none)).put (t.fresh name (some chain)) =
      t.enter (t.fresh name (some chain)) := t.put_enter rfl rfl rfl
  simp only [suppose, insert_of_isFree free, hsuppose, hput]
  rfl

end Outcomes

/-- What comes of a registration, of a hypothesis without a chain or with the chain of a builder:
the position or the error, the theory, and the journal. -/
inductive Registers (t : Theory) (name : Option String) (builder : Option Builder)
    (journal : Journal) : Except TheoryError Nat → Theory → Journal → Prop
  | refused {n : String} (proper : properName name = some n)
      (taken : (t.position? n).isSome = true) :
      t.Registers name builder journal (.error (.duplicateName n)) (t.refuse n) journal
  | failed {b : Builder} {e : ClauseError} {journal' : Journal} (free : t.IsFree (properName name))
      (hbuilder : builder = some b) (fails : b.build journal = (.error e, journal')) :
      t.Registers name builder journal (.error (.clause e)) t journal'
  | added (free : t.IsFree (properName name)) (hbuilder : builder = none) :
      t.Registers name builder journal (.ok t.length) (t.register (t.fresh name none)) journal
  | supposed {b : Builder} {chain : Chain} {journal' : Journal}
      (free : t.IsFree (properName name)) (hbuilder : builder = some b)
      (builds : b.build journal = (.ok chain, journal')) :
      t.Registers name builder journal (.ok t.length) (t.register (t.fresh name (some chain)))
        journal'

lemma registers_add (t : Theory) (name : Option String) (journal : Journal) :
    t.Registers name none journal (t.add name).1 (t.add name).2 journal := by
  rcases t.isFree_or_taken (properName name) with free | ⟨n, proper, taken⟩
  · rw [add_of_isFree free]
    exact .added free rfl
  · rw [add_of_taken proper taken]
    exact .refused proper taken

lemma registers_suppose (t : Theory) (name : Option String) (builder : Builder)
    (journal : Journal) :
    t.Registers name (some builder) journal (t.suppose name builder journal).1
      (t.suppose name builder journal).2.1 (t.suppose name builder journal).2.2 := by
  rcases t.isFree_or_taken (properName name) with free | ⟨n, proper, taken⟩
  · rcases hbuild : builder.build journal with ⟨e | chain, journal'⟩
    · rw [suppose_of_fails free hbuild]
      exact .failed free rfl hbuild
    · rw [suppose_of_builds free hbuild]
      exact .supposed free rfl hbuild
  · rw [suppose_of_taken proper taken]
    exact .refused proper taken

end Theory

end Postulate
