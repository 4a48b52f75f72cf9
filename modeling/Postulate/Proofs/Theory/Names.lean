import Mathlib.Tactic.Lemma
import Postulate.Proofs.Theory.Pass
import Postulate.Proofs.Theory.Registration

/-!
# Names and positions

The names of the hypotheses are kept twice, in the hypotheses and in the table that finds them.
The two agree in every theory that can come about (`Theory.WellNamed`), because a command either
leaves names and positions alone or registers one hypothesis under a free name, at the end
(`Theory.keepsNames_or_enters_perform`). The main result, `Theory.names_of_reachable`, says what a
caller sees of it: every hypothesis is where it was registered and is found under its name, now
and after whatever is done later.
-/

namespace Postulate

open Log (Ledger)

namespace Theory

/-- The theories that come about: from an empty theory, with a name or without, or with a
configuration, by commands that may succeed or fail. -/
inductive Reachable : Theory → Prop
  | empty (name : Option String) : Reachable { name }
  | ofConfig {c : Config} {t : Theory} (h : Theory.ofConfig c = .ok t) : Reachable t
  | perform {t : Theory} (h : Reachable t) (command : Command) (journal : Journal) :
      Reachable (t.perform command journal).2.1

lemma Reachable.run {t : Theory} (h : t.Reachable) (commands : List Command) (journal : Journal) :
    (run commands t journal).2.1.Reachable := by
  induction commands generalizing t journal with
  | nil => exact h
  | cons command commands ih => exact ih (h.perform command journal) _

/-! ## What a command does to names and positions -/

/-- Two theories have the same table, and the same positions and names of their hypotheses. -/
structure KeepsNames (t u : Theory) : Prop where
  table : u.names = t.names
  indices : u.hypotheses.map Hypothesis.index = t.hypotheses.map Hypothesis.index
  titles : u.hypotheses.map Hypothesis.name = t.hypotheses.map Hypothesis.name

lemma KeepsNames.refl (t : Theory) : t.KeepsNames t := ⟨rfl, rfl, rfl⟩

lemma tag_of_tried {journal : Journal} {trials : List Trial} (tried : Tried journal trials) :
    ∀ trial ∈ trials, trial.after.index = trial.before.index ∧
      trial.after.name = trial.before.name := by
  induction tried with
  | nil => simp
  | @cons journal trial trials hverdict _ ih =>
    intro other hother
    rcases List.mem_cons.mp hother with rfl | hother
    · exact Hypothesis.tag_of_evaluate hverdict
    · exact ih other hother

lemma keepsNames_of_reports {t u : Theory} {journal : Journal}
    {result : Except TheoryError Report} {calls : List Call}
    (h : t.Reports journal result u calls) : t.KeepsNames u := by
  cases h with
  | @complete trials all tried =>
    refine ⟨rfl, ?_, ?_⟩
    · simpa [all] using fun trial htrial => (tag_of_tried tried trial htrial).1
    · simpa [all] using fun trial htrial => (tag_of_tried tried trial htrial).2
  | @aborted trials h failed rest e last split tried fails =>
    obtain ⟨hindex, hname⟩ := Hypothesis.tag_of_evaluate fails
    refine ⟨rfl, ?_, ?_⟩
    · simpa [split, hindex] using fun trial htrial => (tag_of_tried tried trial htrial).1
    · simpa [split, hname] using fun trial htrial => (tag_of_tried tried trial htrial).2

lemma tag_perform (h : Hypothesis) (command : HypothesisCommand) (journal : Journal) :
    (h.perform command journal).2.1.index = h.index ∧
      (h.perform command journal).2.1.name = h.name := by
  cases command with
  | suppose builder =>
    simp only [Hypothesis.perform, Hypothesis.suppose]
    by_cases hs : h.isSupposed = true
    · simp [hs]
    · rcases hb : builder.build journal with ⟨e | chain, journal'⟩ <;> simp [hs]
  | evaluate => exact ⟨h.index_evaluate journal, h.name_evaluate journal⟩

/-- Replacing an item by one with the same image keeps the images. -/
lemma map_set_of_eq {α β : Type} {l : List α} {i : Nat} {a b : α} {f : α → β}
    (hi : l[i]? = some a) (hf : f b = f a) : (l.set i b).map f = l.map f := by
  obtain ⟨hlt, rfl⟩ := List.getElem?_eq_some_iff.mp hi
  have hlt' : i < (l.map f).length := by simpa using hlt
  have hget : f l[i] = (l.map f)[i] := (List.getElem_map f).symm
  rw [List.map_set, hf, hget, List.set_getElem_self hlt']

lemma keepsNames_direct (t : Theory) (index : Nat) (command : HypothesisCommand)
    (journal : Journal) : t.KeepsNames (t.direct index command journal).2.1 := by
  cases hat : t.hypotheses[index]? with
  | none =>
    simp only [direct, hat]
    exact .refl t
  | some h =>
    obtain ⟨hindex, hname⟩ := tag_perform h command journal
    simp only [direct, hat]
    exact ⟨rfl, map_set_of_eq hat hindex, map_set_of_eq hat hname⟩

lemma keepsNames_report (t : Theory) (journal : Journal) :
    t.KeepsNames (t.report journal).2.1 := by
  obtain ⟨result, after, calls, hrules⟩ := t.exists_reports journal
  rw [report_of_reports hrules]
  exact keepsNames_of_reports hrules

/-- A registration leaves names and positions alone, or adds one hypothesis at the end under a
proper name that was free. -/
lemma keepsNames_or_enters {t u : Theory} {name : Option String} {builder : Option Builder}
    {journal journal' : Journal} {result : Except TheoryError Nat}
    (hreg : t.Registers name builder journal result u journal') :
    t.KeepsNames u ∨ ∃ h : Hypothesis, t.IsFree h.name ∧ h.name ≠ some "" ∧ h.index = t.length ∧
      (t.enter h).KeepsNames u := by
  have hproper : properName name ≠ some "" := by
    intro h
    have := (Option.filter_eq_some_iff.mp h).2
    simp at this
  cases hreg with
  | refused => exact Or.inl ⟨rfl, rfl, rfl⟩
  | failed => exact Or.inl (.refl t)
  | added free => exact Or.inr ⟨t.fresh name none, free, hproper, rfl, rfl, rfl, rfl⟩
  | @supposed _ chain _ free =>
    exact Or.inr ⟨t.fresh name (some chain), free, hproper, rfl, rfl, rfl, rfl⟩

/-- A command leaves names and positions alone, or adds one hypothesis at the end under a proper
name that was free. -/
lemma keepsNames_or_enters_perform (t : Theory) (command : Command) (journal : Journal) :
    t.KeepsNames (t.perform command journal).2.1 ∨
      ∃ h : Hypothesis, t.IsFree h.name ∧ h.name ≠ some "" ∧ h.index = t.length ∧
        (t.enter h).KeepsNames (t.perform command journal).2.1 := by
  cases command with
  | add name => exact keepsNames_or_enters (t.registers_add name journal)
  | suppose name builder => exact keepsNames_or_enters (t.registers_suppose name builder journal)
  | direct index command => exact Or.inl (t.keepsNames_direct index command journal)
  | named name command =>
    simp only [perform]
    cases t.locate name with
    | none => exact Or.inl (.refl t)
    | some place => exact Or.inl (t.keepsNames_direct place.1 command journal)
  | evaluate => exact Or.inl (t.keepsNames_report journal)
  | report => exact Or.inl (t.keepsNames_report journal)

/-! ## The invariant -/

/-- The hypotheses stand in the order of their positions, none has the empty name, and the table
finds under a name the position of the hypothesis that has it. -/
structure WellNamed (t : Theory) : Prop where
  indices : t.hypotheses.map Hypothesis.index = List.range t.length
  proper : some "" ∉ t.hypotheses.map Hypothesis.name
  position_iff : ∀ n i, t.position? n = some i ↔ (t.hypotheses.map Hypothesis.name)[i]? = some (some n)

lemma wellNamed_empty (name : Option String) : WellNamed { name } :=
  ⟨rfl, by simp, by simp [position?]⟩

lemma wellNamed_ofConfig {c : Config} {t : Theory} (h : Theory.ofConfig c = .ok t) :
    t.WellNamed := by
  simp only [ofConfig] at h
  split at h
  · simp at h
  · obtain rfl := Except.ok.inj h
    exact ⟨rfl, by simp, by simp [position?]⟩

lemma WellNamed.of_keepsNames {t u : Theory} (h : t.WellNamed) (k : t.KeepsNames u) :
    u.WellNamed := by
  have hlength : u.length = t.length := by
    simpa [length] using congrArg List.length k.indices
  refine ⟨?_, ?_, ?_⟩
  · rw [k.indices, h.indices, hlength]
  · rw [k.titles]
    exact h.proper
  · intro n i
    rw [k.titles, position?, k.table]
    exact h.position_iff n i

lemma position?_enter (t : Theory) (h : Hypothesis) (n : String) :
    (t.enter h).position? n = if h.name = some n then some h.index else t.position? n :=
  t.names.lookup_insert h.name h.index n

lemma WellNamed.enter {t : Theory} {h : Hypothesis} (ht : t.WellNamed) (free : t.IsFree h.name)
    (proper : h.name ≠ some "") (last : h.index = t.length) : (t.enter h).WellNamed := by
  have hlength : (t.enter h).length = t.length + 1 := by simp [length, Theory.enter]
  have htitles : (t.enter h).hypotheses.map Hypothesis.name =
      t.hypotheses.map Hypothesis.name ++ [h.name] := by
    simp [Theory.enter]
  refine ⟨?_, ?_, ?_⟩
  · rw [hlength, List.range_succ, ← ht.indices, ← last]
    simp [Theory.enter]
  · rw [htitles, List.mem_append, List.mem_singleton]
    rintro (hmem | heq)
    · exact ht.proper hmem
    · exact proper heq.symm
  · intro n i
    have hcount : (t.hypotheses.map Hypothesis.name).length = t.length := by simp [length]
    rw [htitles, position?_enter, List.getElem?_append, hcount]
    by_cases hi : i < t.length
    · -- an old position: a free name is not found there
      rw [if_pos hi, ← ht.position_iff]
      by_cases hn : h.name = some n
      · have hfree := free n hn
        rw [if_pos hn, hfree, last]
        simp only [Option.some.injEq, reduceCtorEq, iff_false]
        omega
      · rw [if_neg hn]
    · -- the new position, or none at all
      rw [if_neg hi]
      have hnone : t.position? n ≠ some i := by
        intro hpos
        have hget := (ht.position_iff n i).mp hpos
        obtain ⟨hlt, -⟩ := List.getElem?_eq_some_iff.mp hget
        omega
      by_cases hn : h.name = some n
      · rw [if_pos hn, hn, last]
        by_cases heq : i = t.length
        · simp [heq]
        · have : i - t.length ≠ 0 := by omega
          simp [this, Ne.symm heq]
      · rw [if_neg hn]
        simp only [hnone, false_iff]
        intro hget
        have hmem := List.mem_of_getElem? hget
        exact hn (List.mem_singleton.mp hmem).symm

lemma WellNamed.perform {t : Theory} (ht : t.WellNamed) (command : Command) (journal : Journal) :
    (t.perform command journal).2.1.WellNamed := by
  rcases t.keepsNames_or_enters_perform command journal with keeps |
    ⟨h, free, proper, last, keeps⟩
  · exact ht.of_keepsNames keeps
  · exact (ht.enter free proper last).of_keepsNames keeps

lemma wellNamed_of_reachable {t : Theory} (h : t.Reachable) : t.WellNamed := by
  induction h with
  | empty name => exact wellNamed_empty name
  | ofConfig h => exact wellNamed_ofConfig h
  | perform _ command journal ih => exact ih.perform command journal

/-! ## Names stay -/

/-- A name that stands for a position stands for it after any command. -/
lemma position?_perform {t : Theory} {n : String} {i : Nat} (h : t.position? n = some i)
    (command : Command) (journal : Journal) :
    (t.perform command journal).2.1.position? n = some i := by
  rcases t.keepsNames_or_enters_perform command journal with keeps |
    ⟨k, free, -, -, keeps⟩
  · rw [position?, keeps.table]
    exact h
  · -- the new hypothesis has another name, since `n` was not free
    have hk : k.name ≠ some n := by
      intro hk
      rw [free n hk] at h
      simp at h
    rw [position?, keeps.table, ← position?, position?_enter, if_neg hk]
    exact h

lemma position?_run {t : Theory} {n : String} {i : Nat} (h : t.position? n = some i)
    (commands : List Command) (journal : Journal) :
    (run commands t journal).2.1.position? n = some i := by
  induction commands generalizing t journal with
  | nil => exact h
  | cons command commands ih => exact ih (position?_perform h command journal) _

/-! ## What a caller sees -/

/-- Everything that the names of a theory promise: each hypothesis is at its position, names are
proper and not shared, what is found under a name is the hypothesis that has it, and a name, once
registered, stands for the same position after whatever is done later. -/
structure NamesAgree (t : Theory) : Prop where
  index_eq : ∀ (i : Nat) (h : Hypothesis), t.hypotheses[i]? = some h → h.index = i
  name_ne_empty : ∀ h ∈ t.hypotheses, h.name ≠ some ""
  name_unique : ∀ (i k : Nat) (h g : Hypothesis) (n : String), t.hypotheses[i]? = some h →
    t.hypotheses[k]? = some g → h.name = some n → g.name = some n → i = k
  position_iff : ∀ (n : String) (i : Nat), t.position? n = some i ↔
    ∃ h : Hypothesis, t.hypotheses[i]? = some h ∧ h.name = some n
  lookup_iff : ∀ (n : String) (i : Nat) (h : Hypothesis), t.hypotheses[i]? = some h →
    (t.lookup n = some h ↔ h.name = some n)
  locate_iff : ∀ (n : String) (i : Nat) (h : Hypothesis), t.hypotheses[i]? = some h →
    (t.locate n = some (i, h) ↔ h.name = some n)
  lookup_none_iff : ∀ n : String, t.lookup n = none ↔ ∀ h ∈ t.hypotheses, h.name ≠ some n
  locate_none_iff : ∀ n : String, t.locate n = none ↔ ∀ h ∈ t.hypotheses, h.name ≠ some n
  stays : ∀ (n : String) (i : Nat) (h : Hypothesis), t.hypotheses[i]? = some h →
    t.lookup n = some h → ∀ (commands : List Command) (journal : Journal),
      let u := (run commands t journal).2.1
      ∃ h' : Hypothesis, u.hypotheses[i]? = some h' ∧ u.lookup n = some h' ∧
        u.locate n = some (i, h')

namespace WellNamed

variable {t : Theory} {n : String} {i : Nat} {h : Hypothesis}

lemma index_eq (ht : t.WellNamed) (hi : t.hypotheses[i]? = some h) : h.index = i := by
  have hget : (t.hypotheses.map Hypothesis.index)[i]? = some h.index := by
    rw [List.getElem?_map, hi, Option.map_some]
  rw [ht.indices] at hget
  obtain ⟨hlt, hrange⟩ := List.getElem?_eq_some_iff.mp hget
  rw [← hrange, List.getElem_range]

lemma position_iff_exists (ht : t.WellNamed) : t.position? n = some i ↔
    ∃ h : Hypothesis, t.hypotheses[i]? = some h ∧ h.name = some n := by
  rw [ht.position_iff, List.getElem?_map, Option.map_eq_some_iff]

/-- The position found under the name of a hypothesis is its own. -/
lemma position_of_name (ht : t.WellNamed) (hi : t.hypotheses[i]? = some h)
    (hn : h.name = some n) : t.position? n = some i :=
  ht.position_iff_exists.mpr ⟨h, hi, hn⟩

lemma lookup_of_name (ht : t.WellNamed) (hi : t.hypotheses[i]? = some h) (hn : h.name = some n) :
    t.lookup n = some h := by
  rw [lookup, ht.position_of_name hi hn, Option.bind_some, hi]

lemma locate_of_name (ht : t.WellNamed) (hi : t.hypotheses[i]? = some h) (hn : h.name = some n) :
    t.locate n = some (i, h) := by
  rw [locate, ht.position_of_name hi hn, Option.bind_some, hi, Option.map_some]

/-- What is found under a name is a hypothesis with that name. -/
lemma name_of_lookup (ht : t.WellNamed) (hl : t.lookup n = some h) : h.name = some n := by
  obtain ⟨k, hk, hget⟩ := Option.bind_eq_some_iff.mp hl
  obtain ⟨g, hg, hname⟩ := ht.position_iff_exists.mp hk
  obtain rfl : g = h := Option.some.inj (hg.symm.trans hget)
  exact hname

lemma locate_eq (t : Theory) (n : String) :
    t.locate n = (t.lookup n).bind fun h => (t.position? n).map fun i => (i, h) := by
  simp only [locate, lookup]
  cases t.position? n with
  | none => rfl
  | some k => cases hk : t.hypotheses[k]? <;> simp [hk]

lemma lookup_none_iff (ht : t.WellNamed) :
    t.lookup n = none ↔ ∀ h ∈ t.hypotheses, h.name ≠ some n := by
  constructor
  · intro hnone h hmem hn
    obtain ⟨k, hk⟩ := List.mem_iff_getElem?.mp hmem
    rw [ht.lookup_of_name hk hn] at hnone
    simp at hnone
  · intro hall
    cases hl : t.lookup n with
    | none => rfl
    | some h =>
      obtain ⟨k, -, hget⟩ := Option.bind_eq_some_iff.mp hl
      exact absurd (ht.name_of_lookup hl) (hall h (List.mem_of_getElem? hget))

lemma locate_none_iff (ht : t.WellNamed) :
    t.locate n = none ↔ ∀ h ∈ t.hypotheses, h.name ≠ some n := by
  rw [← ht.lookup_none_iff, locate_eq]
  cases hl : t.lookup n with
  | none => simp
  | some h =>
    obtain ⟨k, hk, -⟩ := Option.bind_eq_some_iff.mp hl
    simp [hk]

end WellNamed

/-- In every theory that comes about, names and positions agree. -/
theorem names_of_reachable {t : Theory} (ht : t.Reachable) : t.NamesAgree := by
  have hw := wellNamed_of_reachable ht
  refine
    { index_eq := fun i h hi => hw.index_eq hi
      name_ne_empty := fun h hmem hn => hw.proper (hn ▸ List.mem_map_of_mem hmem)
      name_unique := ?_
      position_iff := fun n i => hw.position_iff_exists
      lookup_iff := fun n i h hi => ⟨hw.name_of_lookup, hw.lookup_of_name hi⟩
      locate_iff := ?_
      lookup_none_iff := fun n => hw.lookup_none_iff
      locate_none_iff := fun n => hw.locate_none_iff
      stays := ?_ }
  · intro i k h g n hi hk hn hg
    have hpos := hw.position_of_name hi hn
    rw [hw.position_of_name hk hg] at hpos
    exact (Option.some.inj hpos).symm
  · intro n i h hi
    refine ⟨fun hl => ?_, hw.locate_of_name hi⟩
    rw [WellNamed.locate_eq] at hl
    obtain ⟨g, hg, hpos⟩ := Option.bind_eq_some_iff.mp hl
    obtain ⟨k, -, hpair⟩ := Option.map_eq_some_iff.mp hpos
    obtain rfl : g = h := (Prod.mk.inj hpair).2
    exact hw.name_of_lookup hg
  · intro n i h hi hl commands journal
    have hpos := position?_run (hw.position_of_name hi (hw.name_of_lookup hl)) commands journal
    have hu := wellNamed_of_reachable (ht.run commands journal)
    obtain ⟨h', hget, hname⟩ := hu.position_iff_exists.mp hpos
    exact ⟨h', hget, hu.lookup_of_name hget hname, hu.locate_of_name hget hname⟩

/-- Refused and empty names, and work on a hypothesis found by name, in one run. -/
theorem namesAgree_after_refusal :
    let t := (run [.add (some "a"), .add (some ""), .add (some "a"), .named "a" .evaluate,
      .add (some "b")] {} []).2.1
    t.Reachable ∧ t.NamesAgree ∧ t.length = 3 ∧ t.position? "b" = some 2 :=
  have h := (Reachable.empty none).run [.add (some "a"), .add (some ""), .add (some "a"),
    .named "a" .evaluate, .add (some "b")] []
  ⟨h, names_of_reachable h, by decide, by decide⟩

end Theory

end Postulate
