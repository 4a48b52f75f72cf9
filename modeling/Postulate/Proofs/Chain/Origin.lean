import Mathlib.Data.List.Induction
import Postulate.Proofs.Chain.Linking

/-!
# Where values come from

Every clause but the entry was linked in one of three ways: with a check, and then it reads what the
clause before it reads; with a conversion, and then it converts what the clause before it reads; or
with a mapping, and then it holds the value that the mapping gave. So what a clause reads is told by
the links up to it (`Readable.along`). If none of them is a mapping, every read is one call of the
provider of the entry, and its answer of that moment is converted by all the conversions on the way.
Otherwise only the conversions behind the last mapping matter, they are applied to its value, and
nothing is called. This does not depend on what else was read or evaluated, and it holds of values
that are read for themselves and of those that are read for a check: `Chain.reads_of_undergoes`.
-/

namespace Postulate

/-! ## Links -/

/-- How a clause was linked to the one before it. -/
inductive Link where
  | refined
  | converted {t : ValueType} (conversion : Conversion t)
  /-- By a mapping, which gave the value when the link was made. -/
  | transformed (value : Value)

namespace Link

/-- Was the clause linked by a mapping? -/
def isTransformed : Link → Bool
  | transformed _ => true
  | refined | converted _ => false

/-- The conversion of the link, if there is one. -/
def conversion? : Link → Option (Σ t, Conversion t)
  | converted (t := t) conversion => some ⟨t, conversion⟩
  | refined | transformed _ => none

end Link

/-- The act has linked a clause in this way. What was converted is a text, and a mapping was called
then and gave the value. -/
inductive Act.Makes (a : Act) : Link → Prop
  | refined {t : ValueType} {check : Check t} (step_eq : a.step = .refine check) : a.Makes .refined
  | converted {t : ValueType} {conversion : Conversion t} (step_eq : a.step = .convert conversion)
      (isText : a.before.type = .text) : a.Makes (.converted conversion)
  | transformed {t u : ValueType} {mapping : Mapping t u} {reads : List Call}
      {before : t.Carrier} {after : u.Carrier} (step_eq : a.step = .transform mapping)
      (mapped : mapping.apply (a.journal ++ reads) before = after)
      (calls_eq : a.calls = reads ++ [.mapped mapping.label ⟨t, before⟩ ⟨u, after⟩]) :
      a.Makes (.transformed ⟨u, after⟩)

/-- Converts a text. A value that is no text stays as it is. -/
def Value.convert {t : ValueType} (conversion : Conversion t) (v : Value) :
    Except ConversionError Value :=
  match v with
  | ⟨.text, text⟩ => (conversion.convert text).map (Value.mk t)
  | v => .ok v

/-- Applies the conversions of the links one after the other. The first that fails ends it. -/
def Value.convertAlong (links : List Link) (v : Value) : Except ConversionError Value :=
  (links.filterMap Link.conversion?).foldlM (fun v c => v.convert c.2) v

namespace Value

lemma convertAlong_refined (links : List Link) (v : Value) :
    convertAlong (links ++ [.refined]) v = convertAlong links v := by
  have hnone : [Link.refined].filterMap Link.conversion? = [] := rfl
  rw [convertAlong, List.filterMap_append, hnone, List.append_nil]
  rfl

lemma convertAlong_converted (links : List Link) {t : ValueType} (conversion : Conversion t)
    (v : Value) : convertAlong (links ++ [.converted conversion]) v =
      (convertAlong links v).bind (convert conversion) := by
  simp only [convertAlong, List.filterMap_append, List.filterMap_cons, Link.conversion?,
    List.filterMap_nil, List.foldlM_append, List.foldlM_cons, List.foldlM_nil]
  cases List.foldlM (fun v c => convert c.2 v) v (links.filterMap Link.conversion?) with
  | error e => rfl
  | ok v => exact bind_pure (convert conversion v)

end Value

/-- Something that can be read at any moment: what it gives, and the journal after it. -/
abbrev Readable := Journal → Except ConversionError Value × Journal

/-- What a clause reads that is linked to one that reads as given. -/
def Link.readable (prior : Readable) : Link → Readable
  | refined => prior
  | converted conversion => fun journal =>
    ((prior journal).1.bind (Value.convert conversion), (prior journal).2)
  | transformed value => fun journal => (.ok value, journal)

/-- What is read behind a sequence of links. -/
def Readable.along (first : Readable) (links : List Link) : Readable :=
  links.foldl Link.readable first

namespace Readable

variable {first : Readable} {links : List Link}

lemma along_concat (first : Readable) (links : List Link) (link : Link) :
    first.along (links ++ [link]) = link.readable (first.along links) := by
  simp [along]

/-- Without a mapping on the way, it is the first value that is read, and converted. -/
lemma along_of_untransformed (none : ∀ link ∈ links, link.isTransformed = false)
    (journal : Journal) : first.along links journal =
      ((first journal).1.bind (Value.convertAlong links), (first journal).2) := by
  induction links using List.reverseRecOn with
  | nil =>
    change first journal = _
    rcases hfirst : first journal with ⟨e | v, after⟩ <;> rfl
  | append_singleton links link ih =>
    have hlinks := ih fun l hl => none l (List.mem_append_left _ hl)
    have hlink : link.isTransformed = false := none link (by simp)
    rw [along_concat]
    cases link with
    | refined =>
      simp only [Link.readable, hlinks, funext (Value.convertAlong_refined links)]
    | converted conversion =>
      simp only [Link.readable, hlinks, funext (Value.convertAlong_converted links conversion)]
      cases (first journal).1 <;> rfl
    | transformed value => simp [Link.isTransformed] at hlink

/-- Behind a mapping, nothing before it matters. -/
lemma along_transformed (before after : List Link) (value : Value) :
    first.along (before ++ .transformed value :: after) =
      Readable.along (fun journal => (.ok value, journal)) after := by
  rw [along, along, List.foldl_append, List.foldl_cons]
  rfl

end Readable

/-! ## What a clause reads -/

namespace Clause

/-- Reads the value of the clause, together with its type. -/
def read (c : Clause) : Readable := fun journal =>
  ((c.source.read journal).1.map (Value.mk c.type), (c.source.read journal).2)

variable {c d : Clause} {journal : Journal}

lemma value_eq (c : Clause) (journal : Journal) :
    c.value journal = ((c.read journal).1.mapError .conversion, (c.read journal).2) := by
  rw [value, read]
  rcases c.source.read journal with ⟨e | v, after⟩ <;> rfl

lemma read_of_error {e : ConversionError} (h : (c.source.read journal).1 = .error e) :
    c.read journal = (.error e, journal ++ c.source.calls journal) := by
  rw [read, read_eq h]
  rfl

lemma read_of_ok {value : c.type.Carrier} (h : (c.source.read journal).1 = .ok value) :
    c.read journal = (.ok ⟨c.type, value⟩, journal ++ c.source.calls journal) := by
  rw [read, read_eq h]
  rfl

/-- The mark of a clause does not matter to those that read it. -/
lemma Becomes.read_eq (h : c.Becomes d) : d.read = c.read := by
  rcases h with rfl | rfl <;> rfl

/-- A clause that converts reads the clause before it. -/
lemma read_converted {t : ValueType} (c : Clause) (isText : c.type = .text)
    (conversion : Conversion t) :
    Clause.read { type := t, source := .converted conversion (isText ▸ c.source) } =
      (Link.converted conversion).readable c.read := by
  obtain ⟨type, source, check, evaluated⟩ := c
  obtain rfl : type = .text := isText
  funext journal
  simp only [read, Link.readable, Source.read]
  rcases source.read journal with ⟨e | text, after⟩ <;> rfl

end Clause

namespace Act

/-- An act that links a clause has made one of the links, from the last clause of the chain. -/
lemma exists_link {a : Act} (linking : a.isLink = true) :
    ∃ link c, a.Makes link ∧ a.before.hasNext = false ∧ a.after = a.before.linked c ∧
      c.read = link.readable a.before.here.read := by
  obtain ⟨f, step, journal⟩ := a
  rw [isLink, Bool.and_eq_true] at linking
  obtain ⟨isLink, succeeds⟩ := linking
  have fits : step.Fits f.type := by
    by_contra unfit
    rw [answer, Focus.perform_of_not_fits unfit] at succeeds
    exact absurd succeeds (by simp [Except.isOk, Except.toBool])
  obtain ⟨result, after, calls, rules⟩ := Focus.exists_links isLink fits journal
  have hperform := Focus.perform_of_links rules
  have hafter : Act.after ⟨f, step, journal⟩ = after := by rw [Act.after, hperform]
  have hcalls : Act.calls ⟨f, step, journal⟩ = calls := calls_eq (by rw [left, hperform])
  rw [answer, hperform] at succeeds
  cases rules with
  | taken | unreadable => exact absurd succeeds (by simp [Except.isOk, Except.toBool])
  | refined last => exact ⟨.refined, _, .refined rfl, last, hafter, rfl⟩
  | converted last isText =>
    exact ⟨.converted _, _, .converted rfl isText, last, hafter,
      f.here.read_converted isText _⟩
  | transformed last readable mapped =>
    exact ⟨.transformed _, _, .transformed rfl mapped hcalls, last, hafter, rfl⟩

end Act

/-! ## The clauses of a chain -/

/-- The place of the clause in focus is behind the clauses before it. -/
lemma Focus.getElem?_before_length (f : Focus) :
    f.chain.clauses[f.before.length]? = some f.here := by
  rw [clauses_chain, ← List.length_reverse, List.getElem?_append_right (Nat.le_refl _),
    Nat.sub_self]
  rfl

namespace Chain

/-- Behind an entry that reads as given, the clauses of the chain were linked in these ways. -/
structure Linked (first : Readable) (links : List Link) (c : Chain) : Prop where
  length_eq : c.length = links.length + 1
  read_eq : ∀ k clause, c.clauses[k]? = some clause → clause.read = first.along (links.take k)

variable {c d : Chain} {first : Readable} {links : List Link} {journal journal' : Journal}
  {acts : List Act}

lemma linked_entry (entry : Clause) : (Chain.mk entry []).Linked entry.read [] where
  length_eq := rfl
  read_eq k clause hk := by
    cases k with
    | zero =>
      obtain rfl : entry = clause := by simpa using hk
      rfl
    | succ k => simp at hk

lemma Linked.of_becomes (h : c.Linked first links) (later : c.Becomes d)
    (length_eq : d.length = c.length) : d.Linked first links where
  length_eq := length_eq.trans h.length_eq
  read_eq k clause hk := by
    have hlt : k < c.clauses.length := by
      have hd : k < d.length := (List.getElem?_eq_some_iff.1 hk).1
      rwa [length_eq] at hd
    obtain ⟨clause', hclause', becomes⟩ := later.getElem? (List.getElem?_eq_getElem hlt)
    obtain rfl : clause' = clause := Option.some.inj (hclause'.symm.trans hk)
    rw [becomes.read_eq]
    exact h.read_eq k _ (List.getElem?_eq_getElem hlt)

lemma Linked.link {f : Focus} {clause : Clause} {link : Link} (h : f.chain.Linked first links)
    (last : f.hasNext = false) (reads : clause.read = link.readable f.here.read) :
    (f.linked clause).chain.Linked first (links ++ [link]) where
  length_eq := by
    have hlength := h.length_eq
    rw [length] at hlength ⊢
    rw [Focus.clauses_linked last, List.length_append, List.length_append, hlength]
    rfl
  read_eq k clause' hk := by
    have hlength : f.chain.clauses.length = links.length + 1 := h.length_eq
    rw [Focus.clauses_linked last] at hk
    rcases Nat.lt_or_ge k f.chain.clauses.length with hlt | hge
    · rw [List.getElem?_append_left hlt] at hk
      rw [List.take_append_of_le_length (by omega)]
      exact h.read_eq k clause' hk
    · rw [List.getElem?_append_right hge] at hk
      obtain rfl : k = links.length + 1 := by
        have hk' := (List.getElem?_eq_some_iff.1 hk).1
        rw [List.length_singleton] at hk'
        omega
      obtain rfl : clause = clause' := by simpa [hlength] using hk
      -- the clause in focus is the last of the old ones, and reads behind all the old links
      have hplace : f.before.length = links.length := by
        have hlast := f.hasNext_eq_false_iff.1 last
        have hsame : f.chain.length = links.length + 1 := h.length_eq
        omega
      have hhere : f.here.read = first.along links := by
        have hread := h.read_eq f.before.length f.here f.getElem?_before_length
        rwa [hplace, List.take_length] at hread
      rw [reads, hhere, List.take_of_length_le (by simp), Readable.along_concat]

/-- Every sequence of acts makes links, and the clauses of the chain are told by them. -/
lemma Undergoes.exists_links (run : c.Undergoes journal acts d journal')
    (linked : c.Linked first links) : ∃ more, List.Forall₂ Act.Makes (acts.filter Act.isLink) more ∧
      d.Linked first (links ++ more) := by
  induction run generalizing links with
  | nil => exact ⟨[], .nil, by rwa [List.append_nil]⟩
  | @cons c d journal journal' a acts here _ _ ih =>
    subst here
    cases linking : a.isLink with
    | true =>
      obtain ⟨link, clause, makes, last, hafter, reads⟩ := Act.exists_link linking
      have hlinked := linked.link last reads
      rw [← hafter] at hlinked
      obtain ⟨more, hmore, htold⟩ := ih hlinked
      refine ⟨link :: more, ?_, by rwa [List.append_assoc] at htold⟩
      rw [List.filter_cons_of_pos linking]
      exact .cons makes hmore
    | false =>
      have hlength : a.after.chain.length = a.before.chain.length + if a.isLink then 1 else 0 :=
        a.before.length_perform a.step a.journal
      rw [linking] at hlength
      obtain ⟨more, hmore, htold⟩ := ih (linked.of_becomes a.orderly.becomes hlength)
      refine ⟨more, ?_, htold⟩
      rwa [List.filter_cons_of_neg (by simp [linking])]

end Chain

/-! ## Reads of a provider -/

/-- The call of a provider that gives this answer. -/
def Call.ofAnswer {t : ValueType} (label : String) : Except ConversionError t.Carrier → Call
  | .ok value => .read label ⟨t, value⟩
  | .error e => .failedRead label e

/-- What is read behind links that start from a provider, and the calls that are made for it. -/
inductive Reads {t : ValueType} (label : String)
    (answer : Journal → Except ConversionError t.Carrier) :
    List Link → Journal → Except ConversionError Value → List Call → Prop
  /-- Without a mapping on the way, the provider is called, once, and what it answers now is
  converted by all the conversions. The first failure is the result. -/
  | afresh {links : List Link} {journal : Journal}
      (unmapped : ∀ link ∈ links, link.isTransformed = false) :
      Reads label answer links journal
        (((answer journal).map (Value.mk t)).bind (Value.convertAlong links))
        [.ofAnswer label (answer journal)]
  /-- Behind the last mapping, what it gave is converted, and nothing is called. -/
  | fixed {before after : List Link} {value : Value} {journal : Journal}
      (last : ∀ link ∈ after, link.isTransformed = false) :
      Reads label answer (before ++ .transformed value :: after) journal
        (Value.convertAlong after value) []

namespace Link

/-- Either no link is a mapping, or there is a last one that is. -/
lemma unmapped_or_last (links : List Link) : (∀ link ∈ links, link.isTransformed = false) ∨
    ∃ before value after, links = before ++ .transformed value :: after ∧
      ∀ link ∈ after, link.isTransformed = false := by
  induction links using List.reverseRecOn with
  | nil => exact Or.inl (by simp)
  | append_singleton links link ih =>
    cases hlink : link.isTransformed with
    | true =>
      cases link with
      | refined | converted => simp [isTransformed] at hlink
      | transformed value => exact Or.inr ⟨links, value, [], rfl, by simp⟩
    | false =>
      rcases ih with none | ⟨before, value, after, rfl, last⟩
      · refine Or.inl fun l hl => ?_
        rcases List.mem_append.1 hl with hl | hl
        · exact none l hl
        · rwa [List.mem_singleton.1 hl]
      · refine Or.inr ⟨before, value, after ++ [link], by simp, fun l hl => ?_⟩
        rcases List.mem_append.1 hl with hl | hl
        · exact last l hl
        · rwa [List.mem_singleton.1 hl]

end Link

section Provider

variable {t : ValueType} {label : String} {answer : Journal → Except ConversionError t.Carrier}

lemma read_provider (journal : Journal) :
    Clause.read { type := t, source := .provider label answer } journal =
      ((answer journal).map (Value.mk t), journal ++ [.ofAnswer label (answer journal)]) := by
  simp only [Clause.read, Source.read]
  rcases answer journal with e | value <;> rfl

/-- Whatever reads behind links of a provider does it by the rules. -/
lemma exists_reads {first : Readable}
    (provided : ∀ journal, first journal =
      ((answer journal).map (Value.mk t), journal ++ [.ofAnswer label (answer journal)]))
    (links : List Link) (journal : Journal) : ∃ result calls,
      Reads label answer links journal result calls ∧
        first.along links journal = (result, journal ++ calls) := by
  rcases Link.unmapped_or_last links with unmapped | ⟨before, value, after, rfl, last⟩
  · refine ⟨_, _, .afresh unmapped, ?_⟩
    rw [Readable.along_of_untransformed unmapped, provided]
  · refine ⟨_, _, .fixed last, ?_⟩
    rw [Readable.along_transformed, Readable.along_of_untransformed last, List.append_nil]
    rfl

end Provider

/-! ## Reads for checks -/

/-- A read that an evaluation makes for the check of a clause. -/
structure Reading where
  /-- The place of the clause in the chain. -/
  place : Nat
  /-- The calls before the read. -/
  journal : Journal
  result : Except ConversionError Value
  /-- The calls that the read makes. -/
  reads : List Call
  /-- The calls of the check after it. -/
  asked : List Call

namespace Reading

/-- The calls for the read and for the check. -/
def calls (r : Reading) : List Call := r.reads ++ r.asked

/-- The read is made for the clause, which has a check. The check is asked about what was read, if
there is something. -/
inductive Serves (c : Clause) : Reading → Prop
  | unreadable {place : Nat} {journal : Journal} {e : ConversionError} {reads : List Call}
      (hasCheck : c.hasCheck = true) : Serves c ⟨place, journal, .error e, reads, []⟩
  | asked {place : Nat} {journal : Journal} {check : Check c.type} {value : c.type.Carrier}
      {reads : List Call} (hasCheck : c.check = some check) (passed : Bool) :
      Serves c ⟨place, journal, .ok ⟨c.type, value⟩, reads, [check.call value passed]⟩

/-- The reads are made one after the other, from a place of the chain onward, and no calls are made
but for them. -/
inductive InTurn : Nat → Journal → List Reading → Prop
  | nil {place : Nat} {journal : Journal} : InTurn place journal []
  | cons {place : Nat} {journal : Journal} {r : Reading} {readings : List Reading}
      (onward : place ≤ r.place) (now : r.journal = journal)
      (rest : InTurn (r.place + 1) (journal ++ r.calls) readings) :
      InTurn place journal (r :: readings)

lemma InTurn.of_le {place next : Nat} {journal : Journal} {readings : List Reading}
    (h : InTurn next journal readings) (le : place ≤ next) : InTurn place journal readings := by
  cases h with
  | nil => exact .nil
  | cons onward now rest => exact .cons (Nat.le_trans le onward) now rest

/-- The calls are those of reads for the clauses of the chain from a place onward. -/
def Account (c : Chain) (place : Nat) (journal : Journal) (calls : List Call) : Prop :=
  ∃ readings : List Reading, calls = readings.flatMap Reading.calls ∧
    InTurn place journal readings ∧ ∀ r ∈ readings, ∃ clause, c.clauses[r.place]? = some clause ∧
      r.Serves clause ∧ clause.read r.journal = (r.result, r.journal ++ r.reads)

namespace Account

variable {c : Chain} {place : Nat} {journal : Journal} {calls more : List Call} {clause : Clause}

lemma nil : Account c place journal [] := ⟨[], rfl, .nil, by simp⟩

/-- A clause that is not read does not count. -/
lemma skip (h : Account c (place + 1) journal calls) : Account c place journal calls := by
  obtain ⟨readings, hcalls, inTurn, hreadings⟩ := h
  exact ⟨readings, hcalls, inTurn.of_le (Nat.le_succ place), hreadings⟩

lemma cons {result : Except ConversionError Value} {reads asked : List Call}
    (there : c.clauses[place]? = some clause)
    (serves : Serves clause ⟨place, journal, result, reads, asked⟩)
    (read_eq : clause.read journal = (result, journal ++ reads))
    (rest : Account c (place + 1) (journal ++ (reads ++ asked)) more) :
    Account c place journal (reads ++ asked ++ more) := by
  obtain ⟨readings, rfl, inTurn, hreadings⟩ := rest
  refine ⟨⟨place, journal, result, reads, asked⟩ :: readings, rfl,
    .cons (Nat.le_refl place) rfl inTurn, fun r hr => ?_⟩
  rcases List.mem_cons.1 hr with rfl | hr
  · exact ⟨clause, there, serves, read_eq⟩
  · exact hreadings r hr

lemma of_passes (there : c.clauses[place]? = some clause) (passes : clause.Passes journal calls)
    (rest : Account c (place + 1) (journal ++ calls) more) :
    Account c place journal (calls ++ more) := by
  cases passes with
  | unchecked fresh noCheck =>
    rw [List.append_nil] at rest
    exact rest.skip
  | checked fresh hasCheck readable holds =>
    exact cons there (.asked hasCheck true) (Clause.read_of_ok readable) rest

lemma of_stops {result : Except ClauseError Bool} (there : c.clauses[place]? = some clause)
    (stop : clause.Stops journal result calls) : Account c place journal calls := by
  cases stop with
  | marked => exact nil
  | unreadable fresh hasCheck unreadable =>
    have hserves : clause.hasCheck = true := by rw [Clause.hasCheck, hasCheck, Option.isSome_some]
    have hcons := cons there (.unreadable hserves) (Clause.read_of_error unreadable) nil
    rwa [List.append_nil, List.append_nil] at hcons
  | refused fresh hasCheck readable fails =>
    have hcons := cons there (.asked hasCheck false) (Clause.read_of_ok readable) nil
    rwa [List.append_nil] at hcons

/-- Clauses that are passed are read one after the other, before those behind them. -/
lemma of_allPass {passed : List Clause} (all : AllPass passed journal calls)
    (there : ∀ i clause, passed[i]? = some clause → c.clauses[place + i]? = some clause)
    (rest : Account c (place + passed.length) (journal ++ calls) more) :
    Account c place journal (calls ++ more) := by
  induction all generalizing place with
  | nil => rwa [List.append_nil] at rest
  | @cons clause passed journal calls others head tail ih =>
    have hhead : c.clauses[place]? = some clause := there 0 clause rfl
    have htail : ∀ i clause, passed[i]? = some clause →
        c.clauses[place + 1 + i]? = some clause := by
      intro i clause hi
      rw [Nat.add_right_comm]
      exact there (i + 1) clause hi
    rw [List.length_cons, ← List.append_assoc, Nat.add_comm passed.length, ← Nat.add_assoc] at rest
    rw [List.append_assoc]
    exact of_passes hhead head (ih htail rest)

end Account

/-- An evaluation calls nothing but for the reads of checked clauses and for their checks. -/
lemma exists_account (f : Focus) (journal : Journal) : ∃ calls,
    (f.evaluate journal).2.2 = journal ++ calls ∧
      Account f.chain f.before.length journal calls := by
  -- the clauses from the one in focus have their places behind those before it
  have there : ∀ i clause, f.onward.clauses[i]? = some clause →
      f.chain.clauses[f.before.length + i]? = some clause := by
    intro i clause hi
    rwa [f.clauses_onward, List.getElem?_drop] at hi
  obtain ⟨result, after, calls, rules⟩ := f.exists_evaluates journal
  refine ⟨calls, by rw [Focus.evaluate_of_evaluates rules], ?_⟩
  cases rules with
  | @stopped passed rest k calls last result after split before stop untouched marked =>
    rw [split] at there
    have hk : f.chain.clauses[f.before.length + passed.length]? = some k :=
      there passed.length k (by rw [List.getElem?_append_right (Nat.le_refl _), Nat.sub_self]; rfl)
    refine Account.of_allPass before (fun i clause hi => there i clause ?_) (.of_stops hk stop)
    rwa [List.getElem?_append_left (List.getElem?_eq_some_iff.1 hi).1]
  | completed all untouched marked =>
    have hall := Account.of_allPass all there .nil
    rwa [List.append_nil] at hall

end Reading

namespace Chain

/-- Every read of a clause of the chain, at whatever moment, is told by the links up to it. -/
structure Sourced {t : ValueType} (label : String)
    (answer : Journal → Except ConversionError t.Carrier) (links : List Link) (d : Chain) :
    Prop where
  /-- There is a link for every clause but the entry. -/
  length_eq : d.length = links.length + 1
  /-- A value that is read for itself. -/
  value : ∀ f : Focus, f.chain = d → ∀ journal, ∃ result calls,
    Reads label answer (links.take f.before.length) journal result calls ∧
      f.value journal = (result.mapError .conversion, journal ++ calls)
  /-- The values that are read for the checks of an evaluation. -/
  evaluate : ∀ f : Focus, f.chain = d → ∀ journal, ∃ readings : List Reading,
    (f.evaluate journal).2.2 = journal ++ readings.flatMap Reading.calls ∧
      Reading.InTurn f.before.length journal readings ∧
        ∀ r ∈ readings, (∃ c, d.clauses[r.place]? = some c ∧ r.Serves c) ∧
          Reads label answer (links.take r.place) r.journal r.result r.reads

/-- Where the values of a chain come from. Whatever was done with a chain since it was an entry with
a provider, its clauses were linked by the acts that link, in their order, and every read of each of
them goes back to the last mapping on the way to it, or to the provider if there is none. -/
theorem reads_of_undergoes {t : ValueType} {label : String}
    {answer : Journal → Except ConversionError t.Carrier} {journal journal' : Journal}
    {acts : List Act} {d : Chain}
    (run : (Chain.mk { type := t, source := .provider label answer } []).Undergoes
      journal acts d journal') :
    ∃ links, List.Forall₂ Act.Makes (acts.filter Act.isLink) links ∧
      d.Sourced label answer links := by
  obtain ⟨links, makes, linked⟩ := run.exists_links (linked_entry _)
  rw [List.nil_append] at linked
  refine ⟨links, makes, linked.length_eq, ?_, ?_⟩
  · intro f hf later
    have hread := linked.read_eq f.before.length f.here (by rw [← hf, f.getElem?_before_length])
    obtain ⟨result, calls, reads, halong⟩ :=
      exists_reads read_provider (links.take f.before.length) later
    refine ⟨result, calls, reads, ?_⟩
    rw [Focus.value, Clause.value_eq, hread, halong]
  · intro f hf later
    obtain ⟨calls, hjournal, readings, rfl, inTurn, hreadings⟩ := Reading.exists_account f later
    refine ⟨readings, hjournal, inTurn, fun r hr => ?_⟩
    obtain ⟨c, there, serves, hread⟩ := hreadings r hr
    rw [hf] at there
    rw [linked.read_eq r.place c there] at hread
    obtain ⟨result, calls, reads, halong⟩ :=
      exists_reads read_provider (links.take r.place) r.journal
    obtain ⟨rfl, heq⟩ := Prod.mk.inj (halong.symm.trans hread)
    obtain rfl := List.append_cancel_left heq
    exact ⟨⟨c, there, serves⟩, reads⟩

/-- A provider that fails at first and then gives a text: the text is converted, read again, and
mapped, and at last the mapped value is checked. -/
theorem sourced_after_failed_read :
    let answer : Journal → Except ConversionError String := fun journal =>
      if journal.isEmpty then .error ⟨"", "text"⟩ else .ok "12"
    let entry : Clause := { type := .text, source := .provider "p" answer }
    let first : Act := ⟨.start ⟨entry, []⟩, .read, []⟩
    let second : Act := ⟨first.after, .convert .int, first.left⟩
    let third : Act := ⟨second.after, .transform (Transformation.widen.mapping "w"), second.left⟩
    let check : Step := .refine (t := .long) (.predicate "q" fun _ _ => true)
    let fourth : Act := ⟨third.after, check, third.left⟩
    (Chain.mk entry []).Undergoes [] [first, second, third, fourth] fourth.after.chain fourth.left ∧
      fourth.after.chain.length = 4 ∧
      ∃ links, List.Forall₂ Act.Makes ([first, second, third, fourth].filter Act.isLink) links ∧
        fourth.after.chain.Sourced (t := .text) "p" answer links := by
  intro answer entry first second third check fourth
  have run : (Chain.mk entry []).Undergoes [] [first, second, third, fourth] fourth.after.chain
      fourth.left :=
    .cons rfl rfl (.cons rfl rfl (.cons rfl rfl (.cons rfl rfl .nil)))
  exact ⟨run, rfl, reads_of_undergoes run⟩

end Chain

end Postulate
