import Postulate.Chain.Evaluation

/-!
# Building a chain

A chain grows at its end, while a caller may hold on to any of its clauses. A focus is a chain
seen from one of its clauses: the clauses before it, and the chain from it onward. New clauses are
linked after the clause in focus, which must be the last one, and come into focus themselves.
-/

namespace Postulate

/-- A chain seen from one of its clauses. -/
structure Focus where
  /-- The clauses before the one in focus, the nearest first. -/
  before : List Clause
  /-- The chain from the clause in focus onward. -/
  onward : Chain

/-- A mapping that the caller gives for the values of a clause. -/
structure Mapping (t u : ValueType) where
  label : String
  apply : Journal → t.Carrier → u.Carrier

namespace Focus

/-- A chain seen from its entry. -/
def start (c : Chain) : Focus := ⟨[], c⟩

/-- The clause in focus. -/
def here (f : Focus) : Clause := f.onward.entry

/-- The type of the value of the clause in focus. -/
def type (f : Focus) : ValueType := f.here.type

/-- Is a clause linked after the one in focus? -/
def hasNext (f : Focus) : Bool := !f.onward.later.isEmpty

/-- Adds clauses, the nearest first, in front of a chain. -/
def prepend : List Clause → Chain → Chain
  | [], c => c
  | nearest :: others, c => prepend others ⟨nearest, c.clauses⟩

/-- The whole chain. -/
def chain (f : Focus) : Chain := prepend f.before f.onward

theorem clauses_prepend (before : List Clause) (c : Chain) :
    (prepend before c).clauses = before.reverse ++ c.clauses := by
  induction before generalizing c with
  | nil => rfl
  | cons nearest others ih => simp [prepend, ih]

/-- The clauses of the whole chain are those before the focus and those from it onward. -/
theorem clauses_chain (f : Focus) : f.chain.clauses = f.before.reverse ++ f.onward.clauses :=
  clauses_prepend f.before f.onward

@[simp] theorem chain_start (c : Chain) : (start c).chain = c := rfl

/-- Moves to the clause before, if there is one. -/
def back? (f : Focus) : Option Focus :=
  match f.before with
  | [] => none
  | nearest :: others => some ⟨others, nearest, f.onward.clauses⟩

/-- Moving does not change the chain. -/
theorem chain_back {f g : Focus} (h : f.back? = some g) : g.chain = f.chain := by
  obtain ⟨before, onward⟩ := f
  cases before with
  | nil => simp [back?] at h
  | cons nearest others =>
    obtain rfl : _ = g := by simpa [back?] using h
    rfl

/-- Links a clause after the one in focus and moves to it. -/
def link (f : Focus) (c : Clause) : Except ClauseError Focus :=
  if f.hasNext then .error .linkAlreadySet else .ok ⟨f.here :: f.before, ⟨c, []⟩⟩

/-- A link can be made exactly at the end of the chain, and adds one clause there. -/
theorem clauses_link {f g : Focus} {c : Clause} (h : f.link c = .ok g) :
    f.hasNext = false ∧ g.here = c ∧ g.chain.clauses = f.chain.clauses ++ [c] := by
  obtain ⟨before, entry, later⟩ := f
  cases later with
  | nil =>
    obtain rfl : _ = g := by simpa [link, hasNext] using h
    refine ⟨rfl, rfl, ?_⟩
    simp [clauses_chain, here]
  | cons next others => simp [link, hasNext] at h

/-- Reads the value of the clause in focus. -/
def value (f : Focus) (journal : Journal) : Except ClauseError Value × Journal :=
  f.here.value journal

/-- Evaluates the chain from the clause in focus onward. -/
def evaluate (f : Focus) (journal : Journal) : Except ClauseError Bool × Focus × Journal :=
  let e := f.onward.evaluate journal
  (e.verdict, ⟨f.before, e.chain⟩, e.journal)

/-- Links a clause that checks the value of the clause in focus, read afresh. -/
def refine (f : Focus) (check : Check f.type) : Except ClauseError Focus :=
  f.link { type := f.type, source := f.here.source, check := some check }

/-- Links a clause whose value is converted from the text of the clause in focus, read afresh. -/
def convert {t : ValueType} (f : Focus) (isText : f.type = .text) (conversion : Conversion t) :
    Except ClauseError Focus :=
  f.link { type := t, source := .converted conversion (isText ▸ f.here.source) }

/-- Reads the value of the clause in focus, now and only once, and links a clause that holds the
mapped value as a constant. -/
def transform {u : ValueType} (f : Focus) (mapping : Mapping f.type u) (journal : Journal) :
    Except ClauseError Focus × Journal :=
  if f.hasNext then (.error .linkAlreadySet, journal)
  else
    match f.here.source.read journal with
    | (.error e, journal) => (.error (.conversion e), journal)
    | (.ok before, journal) =>
      let after := mapping.apply journal before
      let journal := journal ++ [.mapped mapping.label ⟨f.type, before⟩ ⟨u, after⟩]
      (f.link { type := u, source := .constant after }, journal)

end Focus

end Postulate
