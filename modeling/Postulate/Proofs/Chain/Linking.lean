import Postulate.Chain.Transformation
import Postulate.Proofs.Chain.Acts

/-!
# Linking

A chain grows at its end, by one clause at a time, and in no other way. A step that links a clause
looks first whether another one is linked already, and then it fails before anything is called. To
refine or to convert calls nothing at all; to transform reads the value once, and maps it once if it
could be read. This file says so in rules (`Focus.Links`), which hold for a clause anywhere in a
chain: whatever a step is refused for, the chain stays as it is, and a step that succeeds adds one
clause behind all others, which it leaves alone. It follows that after any sequence of acts the
length of a chain tells how often a clause was linked. The main result is
`Chain.grown_of_undergoes`.
-/

namespace Postulate

namespace Step

/-- Is the step to link a clause? -/
def isLink : Step → Bool
  | .refine _ | .transform _ | .convert _ => true
  | .back | .read | .evaluate => false

/-- Is the step made for a clause with values of the type? -/
def Fits (type : ValueType) : Step → Prop
  | .refine (t := t) _ | .transform (t := t) _ => t = type
  | .convert _ => type = .text
  | .back | .read | .evaluate => True

end Step

namespace Focus

variable {f : Focus} {c : Clause}

/-- The focus on a clause that is linked after the one in focus. -/
def linked (f : Focus) (c : Clause) : Focus := ⟨f.here :: f.before, ⟨c, []⟩⟩

lemma link_of_last (last : f.hasNext = false) (c : Clause) : f.link c = .ok (f.linked c) := by
  simp [link, last, linked]

lemma link_of_hasNext (next : f.hasNext = true) (c : Clause) :
    f.link c = .error .linkAlreadySet := by
  simp [link, next]

/-- The linked clause stands behind all others. -/
lemma clauses_linked (last : f.hasNext = false) (c : Clause) :
    (f.linked c).chain.clauses = f.chain.clauses ++ [c] :=
  (clauses_link (f.link_of_last last c)).2.2

/-! ## The rules -/

/-- What comes of a step that is to link a clause: the answer, the focus, and the calls that are
made. -/
inductive Links (f : Focus) (journal : Journal) :
    Step → Except ClauseError Answer → Focus → List Call → Prop
  /-- Where a clause is linked already, nothing is called and nothing changes. -/
  | taken {step : Step} (isLink : step.isLink = true) (fits : step.Fits f.type)
      (next : f.hasNext = true) : f.Links journal step (.error .linkAlreadySet) f []
  /-- The new clause reads what the clause before it reads, and checks it. -/
  | refined {check : Check f.type} (last : f.hasNext = false) :
      f.Links journal (.refine check) (.ok (.linked f.type))
        (f.linked { type := f.type, source := f.here.source, check := some check }) []
  /-- The new clause reads what the clause before it reads, and converts it. -/
  | converted {t : ValueType} {conversion : Conversion t} (last : f.hasNext = false)
      (isText : f.type = .text) :
      f.Links journal (.convert conversion) (.ok (.linked t))
        (f.linked { type := t, source := .converted conversion (isText ▸ f.here.source) }) []
  /-- A value that is to be mapped is read once. If it cannot be read, that is all. -/
  | unreadable {u : ValueType} {mapping : Mapping f.type u} {e : ConversionError}
      (last : f.hasNext = false) (unreadable : (f.here.source.read journal).1 = .error e) :
      f.Links journal (.transform mapping) (.error (.conversion e)) f (f.here.source.calls journal)
  /-- The value that was read is mapped once, and the new clause holds what it was mapped to. -/
  | transformed {u : ValueType} {mapping : Mapping f.type u} {before : f.type.Carrier}
      {after : u.Carrier} (last : f.hasNext = false)
      (readable : (f.here.source.read journal).1 = .ok before)
      (mapped : mapping.apply (journal ++ f.here.source.calls journal) before = after) :
      f.Links journal (.transform mapping) (.ok (.linked u))
        (f.linked { type := u, source := .constant after })
        (f.here.source.calls journal ++ [.mapped mapping.label ⟨f.type, before⟩ ⟨u, after⟩])

variable {journal : Journal} {step : Step} {answer : Except ClauseError Answer} {after : Focus}
  {calls : List Call}

lemma perform_of_links (h : f.Links journal step answer after calls) :
    f.perform step journal = (answer, after, journal ++ calls) := by
  cases h with
  | taken isLink fits next =>
    rw [List.append_nil]
    cases step with
    | back | read | evaluate => simp [Step.isLink] at isLink
    | refine check =>
      obtain rfl : _ = f.type := fits
      simp only [perform, dif_pos, refine, link_of_hasNext next, settle]
    | transform mapping =>
      obtain rfl : _ = f.type := fits
      simp only [perform, dif_pos, transform, next, if_true, settle]
    | convert conversion =>
      have isText : f.type = .text := fits
      simp only [perform, dif_pos isText, convert, link_of_hasNext next, settle]
  | refined last =>
    simp only [perform, dif_pos, refine, link_of_last last, settle, List.append_nil]
    rfl
  | converted last isText =>
    simp only [perform, dif_pos isText, convert, link_of_last last, settle, List.append_nil]
    rfl
  | unreadable last unreadable =>
    simp only [perform, dif_pos, transform, last, Bool.false_eq_true, if_false,
      Clause.read_eq unreadable, settle]
  | transformed last readable mapped =>
    simp only [perform, dif_pos, transform, last, Bool.false_eq_true, if_false,
      Clause.read_eq readable, mapped, link_of_last last, settle, List.append_assoc]
    rfl

/-- The rules leave no case out. -/
lemma exists_links (isLink : step.isLink = true) (fits : step.Fits f.type) (journal : Journal) :
    ∃ answer after calls, f.Links journal step answer after calls := by
  cases hnext : f.hasNext with
  | true => exact ⟨_, _, _, .taken isLink fits hnext⟩
  | false =>
    cases step with
    | back | read | evaluate => simp [Step.isLink] at isLink
    | refine check =>
      obtain rfl : _ = f.type := fits
      exact ⟨_, _, _, .refined hnext⟩
    | transform mapping =>
      obtain rfl : _ = f.type := fits
      cases hread : (f.here.source.read journal).1 with
      | error e => exact ⟨_, _, _, .unreadable hnext hread⟩
      | ok before => exact ⟨_, _, _, .transformed hnext hread rfl⟩
    | convert conversion => exact ⟨_, _, _, .converted hnext fits⟩

/-- A step to link a clause does exactly what the rules say. -/
lemma perform_eq_iff_links (isLink : step.isLink = true) (fits : step.Fits f.type) :
    f.perform step journal = (answer, after, journal ++ calls) ↔
      f.Links journal step answer after calls := by
  constructor
  · intro h
    obtain ⟨answer₀, after₀, calls₀, rules⟩ := exists_links isLink fits journal
    have hperform := perform_of_links rules
    rw [h] at hperform
    simp only [Prod.mk.injEq, List.append_cancel_left_eq] at hperform
    obtain ⟨rfl, rfl, rfl⟩ := hperform
    exact rules
  · exact perform_of_links

/-- A step that is made for another type is refused, and nothing happens. -/
lemma perform_of_not_fits (unfit : ¬ step.Fits f.type) (journal : Journal) :
    f.perform step journal = (.error .wrongType, f, journal) := by
  cases step with
  | back | read | evaluate => exact absurd trivial unfit
  | refine check | transform mapping | convert conversion => exact dif_neg unfit

/-- Either the step fails and the focus stays, or a clause is linked behind the last one. -/
lemma unmoved_or_linked (h : f.Links journal step answer after calls) :
    (∃ e, answer = .error e ∧ after = f) ∨
      ∃ t c, answer = .ok (.linked t) ∧ f.hasNext = false ∧ after = f.linked c := by
  cases h with
  | taken | unreadable => exact Or.inl ⟨_, rfl, rfl⟩
  | refined last | converted last | transformed last => exact Or.inr ⟨_, _, rfl, last, rfl⟩

lemma length_perform (f : Focus) (step : Step) (journal : Journal) :
    (f.perform step journal).2.1.chain.length =
      f.chain.length + if step.isLink && (f.perform step journal).1.isOk then 1 else 0 := by
  cases isLink : step.isLink with
  | true =>
    by_cases fits : step.Fits f.type
    · obtain ⟨answer, after, calls, rules⟩ := exists_links isLink fits journal
      rw [perform_of_links rules]
      rcases unmoved_or_linked rules with ⟨e, rfl, rfl⟩ | ⟨t, c, rfl, last, rfl⟩
      · simp [Except.isOk, Except.toBool]
      · simp [Chain.length, clauses_linked last, Except.isOk, Except.toBool]
    · rw [perform_of_not_fits fits]
      simp [Except.isOk, Except.toBool]
  | false =>
    simp only [Bool.false_and, Bool.false_eq_true, if_false, Nat.add_zero]
    cases step with
    | refine | transform | convert => simp [Step.isLink] at isLink
    | read => rfl
    | evaluate =>
      have hlength := f.onward.length_evaluate journal
      simp only [Chain.length] at hlength
      simp [perform, evaluate, Chain.length, clauses_chain, hlength]
    | back =>
      cases hback : f.back? with
      | none => simp [perform, hback]
      | some previous => simp [perform, hback, chain_back hback]

/-! ## A clause and its chain -/

/-- A chain can be seen from each of its clauses. -/
lemma exists_focus {d : Chain} {k : Nat} (hk : k < d.length) :
    ∃ f : Focus, f.chain = d ∧ f.before.length = k := by
  have hk' : k < d.clauses.length := hk
  have hsplit : d.clauses.take k ++ d.clauses[k] :: d.clauses.drop (k + 1) = d.clauses := by
    rw [List.getElem_cons_drop, List.take_append_drop]
  refine ⟨⟨(d.clauses.take k).reverse, ⟨d.clauses[k], d.clauses.drop (k + 1)⟩⟩, ?_, ?_⟩
  · apply Chain.eq_of_clauses
    rw [clauses_chain, List.reverse_reverse]
    exact hsplit
  · rw [List.length_reverse, List.length_take]
    omega

/-- Seen from a clause, the chain goes on with the clauses from its place. -/
lemma clauses_onward (f : Focus) : f.onward.clauses = f.chain.clauses.drop f.before.length := by
  rw [clauses_chain, ← List.length_reverse, List.drop_left]

/-- No clause follows exactly the last one. -/
lemma hasNext_eq_false_iff (f : Focus) :
    f.hasNext = false ↔ f.before.length + 1 = f.chain.length := by
  obtain ⟨before, entry, later⟩ := f
  rw [Chain.length, clauses_chain, List.length_append, List.length_reverse]
  cases later with
  | nil => simp [hasNext]
  | cons next others => simp [hasNext]

end Focus

/-! ## Acts that link -/

/-- Is a clause linked by the act? -/
def Act.isLink (a : Act) : Bool := a.step.isLink && a.answer.isOk

namespace Chain

variable {c d : Chain} {journal journal' : Journal} {acts : List Act}

lemma Undergoes.length_eq (h : c.Undergoes journal acts d journal') :
    d.length = c.length + acts.countP Act.isLink := by
  induction h with
  | nil => rfl
  | @cons c d journal journal' a acts here _ _ ih =>
    subst here
    have hlength : a.after.chain.length = a.before.chain.length + if a.isLink then 1 else 0 :=
      a.before.length_perform a.step a.journal
    rw [ih, hlength, List.countP_cons]
    omega

/-- What holds of links in a chain that has come of its entry by the acts. -/
structure Grown (d : Chain) (acts : List Act) : Prop where
  /-- Besides the entry there are the clauses that were linked. -/
  length_eq : d.length = 1 + acts.countP Act.isLink
  /-- The clauses have places, and from every place the chain goes on to its end. -/
  onward : ∀ k < d.length, ∃ f : Focus, f.chain = d ∧ f.before.length = k ∧
    f.onward.clauses = d.clauses.drop k
  /-- A link can be made from the last clause only. -/
  last : ∀ f : Focus, f.chain = d → (f.hasNext = false ↔ f.before.length + 1 = d.length)
  /-- From every clause, the steps to link another one follow the rules. -/
  links : ∀ f : Focus, f.chain = d → ∀ step journal answer after calls, step.isLink = true →
    step.Fits f.type → (f.perform step journal = (answer, after, journal ++ calls) ↔
      f.Links journal step answer after calls)
  /-- What is linked comes behind all clauses, and these are left as they are. -/
  appends : ∀ f : Focus, f.chain = d → f.hasNext = false → ∀ c,
    (f.linked c).chain.clauses = d.clauses ++ [c]
  /-- Whatever is done later, no clause goes or moves, and nothing of it changes but the mark. -/
  keeps : ∀ journal more e journal', d.Undergoes journal more e journal' →
    d.Becomes e ∧ e.length = d.length + more.countP Act.isLink

/-- Chains grow by links at their end, one clause by each. After any acts on any of the clauses, the
chain is as long as links were made, each from the clause that was last then; every further link
follows the rules, and the clauses that are there stay in their places. -/
theorem grown_of_undergoes {t : ValueType} {source : Source t}
    (run : (Chain.mk { type := t, source } []).Undergoes journal acts d journal') :
    d.Grown acts where
  length_eq := run.length_eq
  onward k hk := by
    obtain ⟨f, rfl, rfl⟩ := Focus.exists_focus hk
    exact ⟨f, rfl, rfl, f.clauses_onward⟩
  last f hf := by
    subst hf
    exact f.hasNext_eq_false_iff
  links f _ step journal answer after calls isLink fits :=
    Focus.perform_eq_iff_links isLink fits
  appends f hf last c := by
    subst hf
    exact f.clauses_linked last c
  keeps journal more e journal' h := ⟨h.becomes, h.length_eq⟩

/-- A check is linked, then another one from the entry, which fails, and then a mapped value from
the check: there are three clauses. -/
theorem grown_of_refused_link :
    let entry : Clause := { type := .int, source := .provider "p" fun _ => .ok 7 }
    let check : Step := .refine (t := .int) (.predicate "q" fun _ _ => true)
    let first : Act := ⟨.start ⟨entry, []⟩, check, []⟩
    let second : Act := ⟨.start first.after.chain, check, first.left⟩
    let third : Act := ⟨first.after, .transform (Transformation.widen.mapping "w"), second.left⟩
    (Chain.mk entry []).Undergoes [] [first, second, third] third.after.chain third.left ∧
      second.answer = .error .linkAlreadySet ∧ third.after.chain.length = 3 ∧
        third.after.chain.Grown [first, second, third] := by
  intro entry check first second third
  have run : (Chain.mk entry []).Undergoes [] [first, second, third] third.after.chain third.left :=
    .cons rfl rfl (.cons rfl rfl (.cons rfl rfl .nil))
  exact ⟨run, rfl, rfl, grown_of_undergoes run⟩

end Chain

end Postulate
