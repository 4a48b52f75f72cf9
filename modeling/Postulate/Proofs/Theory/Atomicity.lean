import Postulate.Chain.Transformation
import Postulate.Proofs.Theory.Blind

/-!
# Failed registrations leave no trace

A registration that fails leaves a theory as it was, down to the last hypothesis and name: it is
counted and logged only when a taken name is refused, and then only as that. The error is the
refusal, and the builder is not asked, or it is the error of the builder. What is done later goes
as if the registration had not been tried, but for the refusal counted before. All this is
`Theory.failed_registration_leaves_no_trace`.

A builder that fails may have called functions of the caller on its way, and these calls stay in
the journal. The theory knows nothing of them; but a function of the caller may. So the future of
the theory after such a failure is compared twice with the future before it: from the same
journal, with nothing asked of the functions, and from the two journals with and without the calls
of the failed builder, for functions that do not tell these apart (`Journal.Inserted`).
-/

namespace Postulate

open Log (Event Ledger Metrics Tally)

/-- The command that registers a hypothesis, without a chain or with the chain of a builder. -/
def Command.registering (name : Option String) : Option Builder → Command
  | none => .add name
  | some builder => .suppose name builder

/-- One journal has calls in a place where the other has none; they are the same before and after
that place. -/
def Journal.Inserted (before : Journal) (calls : List Call) (a b : Journal) : Prop :=
  ∃ after, a = before ++ calls ++ after ∧ b = before ++ after

lemma Journal.lasting_inserted (before : Journal) (calls : List Call) :
    Journal.Lasting (Journal.Inserted before calls) := by
  rintro _ _ more ⟨after, rfl, rfl⟩
  exact ⟨after ++ more, by simp, by simp⟩

namespace Log

lemma Metrics.count_foldl (m : Metrics) (extra : List Tally) (tally : Tally) :
    (extra.foldl count m).count tally = extra.foldl count (m.count tally) := by
  induction extra generalizing m with
  | nil => rfl
  | cons first extra ih => rw [List.foldl_cons, List.foldl_cons, ih, m.count_comm]

/-- Two ledgers have grown by the same entries from the ledgers `l₀` and `m₀`, and the first has
counted what the second has, and something extra. -/
structure Ledger.GrownFrom (l₀ m₀ : Ledger) (extra : List Tally) (l m : Ledger) : Prop where
  logger : l.logger = m.logger
  metrics : l.metrics = extra.foldl Metrics.count m.metrics
  written : ∃ entries, l.written = l₀.written ++ entries ∧ m.written = m₀.written ++ entries

lemma Ledger.lasting_grownFrom (l₀ m₀ : Ledger) (extra : List Tally) :
    Ledger.Lasting (Ledger.GrownFrom l₀ m₀ extra) := by
  constructor
  · rintro l m tally ⟨hlogger, hmetrics, hwritten⟩
    refine ⟨hlogger, ?_, hwritten⟩
    rw [metrics_count, metrics_count, hmetrics, Metrics.count_foldl]
  · rintro l m event ⟨hlogger, hmetrics, entries, hl, hm⟩
    refine ⟨hlogger, hmetrics, entries ++ l.logger.admitted [event.entry], ?_, ?_⟩
    · rw [written_note, hl, List.append_assoc]
    · rw [written_note, hm, hlogger, List.append_assoc]

end Log

/-- What a registration that fails with the error is counted as. -/
def TheoryError.tallies : TheoryError → List Tally
  | .duplicateName _ => [.rejected]
  | _ => []

namespace Theory

/-- No caller can tell the future of one theory, under the given commands, from that of the other,
but by what the first has counted in addition: the results, the hypotheses and the name table are
the same, and so are the calls made and the lines logged from now on. -/
structure SameFuture (extra : List Tally) (t u : Theory) (a b : Journal)
    (commands : List Command) : Prop where
  results_eq : (run commands t a).1 = (run commands u b).1
  name_eq : (run commands t a).2.1.name = (run commands u b).2.1.name
  hypotheses_eq : (run commands t a).2.1.hypotheses = (run commands u b).2.1.hypotheses
  names_eq : (run commands t a).2.1.names = (run commands u b).2.1.names
  metrics_eq : (run commands t a).2.1.metrics =
    extra.foldl Metrics.count (run commands u b).2.1.metrics
  log : ∃ lines, (run commands t a).2.1.log = t.log ++ lines ∧
    (run commands u b).2.1.log = u.log ++ lines
  calls : ∃ calls, (run commands t a).2.2 = a ++ calls ∧ (run commands u b).2.2 = b ++ calls

/-- The registration was refused because the name is taken. Which builder came with it, if any,
makes no difference; it is counted and logged as a refusal, and nothing is called. -/
structure Refused (t : Theory) (name : Option String) (journal : Journal) (e : TheoryError)
    (t' : Theory) (journal' : Journal) (n : String) : Prop where
  proper : properName name = some n
  taken : (t.position? n).isSome = true
  error_eq : e = .duplicateName n
  anyBuilder : ∀ builder,
    t.perform (.registering name builder) journal = (.error e, t', journal')
  journal_eq : journal' = journal
  metrics_eq : t'.metrics = { t.metrics with namesRejected := t.metrics.namesRejected + 1 }
  log_eq : t'.log = t.log ++ t.ledger.logger.lines [(Event.nameRejected n).entry]

/-- The name is free, but the builder failed. Nothing is counted and nothing is logged. -/
structure BuilderFailed (t : Theory) (name : Option String) (builder : Builder)
    (journal : Journal) (e : TheoryError) (t' : Theory) (journal' : Journal) : Prop where
  free : t.IsFree (properName name)
  fault : ∃ fault, builder.build journal = (.error fault, journal') ∧ e = .clause fault
  metrics_eq : t'.metrics = t.metrics
  log_eq : t'.log = t.log

/-- A registration has failed and left no trace. -/
structure NoTrace (t : Theory) (name : Option String) (builder : Option Builder)
    (journal : Journal) (e : TheoryError) (t' : Theory) (journal' : Journal) : Prop where
  name_eq : t'.name = t.name
  hypotheses_eq : t'.hypotheses = t.hypotheses
  names_eq : t'.names = t.names
  cause : (∃ n, t.Refused name journal e t' journal' n) ∨
    ∃ b, builder = some b ∧ t.BuilderFailed name b journal e t' journal'
  /-- From one and the same journal, the theories with and without the failure go on alike. -/
  sameFuture : ∀ (later : Journal) (commands : List Command),
    SameFuture e.tallies t' t later later commands
  /-- So they do from the journals with and without the calls of the failed builder, for functions
  of the caller that do not tell these apart. -/
  sameFuture_of_blind : ∃ calls, journal' = journal ++ calls ∧ ∀ commands : List Command,
    t.BlindTo (Journal.Inserted journal calls) →
      (∀ command ∈ commands, command.BlindTo (Journal.Inserted journal calls)) →
        SameFuture e.tallies t' t journal' journal commands

variable {t u : Theory} {a b : Journal}

/-- Theories that differ in their ledgers only, and there only in something extra that was counted
and in what was logged before, have the same future. -/
lemma sameFuture_of_alike {R : Journal → Journal → Prop} (lasting : Journal.Lasting R)
    {extra : List Tally} (alike : t.Alike (Ledger.GrownFrom t.ledger u.ledger extra) u)
    (blind : t.BlindTo R) {commands : List Command}
    (hcommands : ∀ command ∈ commands, command.BlindTo R) (related : R a b) :
    SameFuture extra t u a b commands := by
  obtain ⟨results, t', u', calls, ht, hu, ⟨hname, hhyps, hnames, hledger⟩, -⟩ :=
    run_alike lasting (Ledger.lasting_grownFrom t.ledger u.ledger extra) alike blind hcommands
      related
  obtain ⟨entries, hwrittenT, hwrittenU⟩ := hledger.written
  refine
    { results_eq := by rw [ht, hu]
      name_eq := by rw [ht, hu, hname]
      hypotheses_eq := by rw [ht, hu, hhyps]
      names_eq := by rw [ht, hu, hnames]
      metrics_eq := by rw [ht, hu, metrics, metrics, hledger.metrics]
      log := ⟨entries.map Log.Logger.line, ?_, ?_⟩
      calls := ⟨calls, by rw [ht], by rw [hu]⟩ }
  · rw [ht, log, log, Ledger.lines, Ledger.lines, hwrittenT, List.map_append]
  · rw [hu, log, log, Ledger.lines, Ledger.lines, hwrittenU, List.map_append]

lemma alike_self (t : Theory) : t.Alike (Ledger.GrownFrom t.ledger t.ledger []) t :=
  ⟨rfl, rfl, rfl, rfl, rfl, [], by simp, by simp⟩

lemma alike_refuse (t : Theory) (n : String) :
    (t.refuse n).Alike (Ledger.GrownFrom (t.refuse n).ledger t.ledger [.rejected]) t :=
  ⟨rfl, rfl, rfl, rfl, rfl, [], by simp, by simp⟩

lemma perform_of_taken {name : Option String} {n : String} (proper : properName name = some n)
    (taken : (t.position? n).isSome = true) (builder : Option Builder) (journal : Journal) :
    t.perform (.registering name builder) journal =
      (.error (.duplicateName n), t.refuse n, journal) := by
  cases builder with
  | none =>
    simp only [Command.registering, perform, add_of_taken proper taken]
    rfl
  | some b =>
    simp only [Command.registering, perform, suppose_of_taken proper taken]
    rfl

/-- With a free name, only a builder can fail, and then the theory is what it was. -/
lemma perform_of_isFree {name : Option String} (free : t.IsFree (properName name))
    {builder : Option Builder} {journal journal' : Journal} {e : TheoryError} {t' : Theory}
    (fails : t.perform (.registering name builder) journal = (.error e, t', journal')) :
    t' = t ∧ ∃ b fault, builder = some b ∧ b.build journal = (.error fault, journal') ∧
      e = .clause fault := by
  cases builder with
  | none => simp [Command.registering, perform, add_of_isFree free, Except.map] at fails
  | some b =>
    rcases hbuild : b.build journal with ⟨fault | c, after⟩
    · simp only [Command.registering, perform, suppose_of_fails free hbuild, Except.map,
        Prod.mk.injEq, Except.error.injEq] at fails
      obtain ⟨rfl, rfl, rfl⟩ := fails
      exact ⟨rfl, b, fault, rfl, hbuild, rfl⟩
    · simp [Command.registering, perform, suppose_of_builds free hbuild, Except.map] at fails

section Cases

variable {name : Option String} {journal journal' : Journal}

lemma noTrace_of_taken {n : String} (proper : properName name = some n)
    (taken : (t.position? n).isSome = true) (builder : Option Builder) (journal : Journal) :
    t.NoTrace name builder journal (.duplicateName n) (t.refuse n) journal := by
  have hfuture : ∀ (later : Journal) (commands : List Command),
      SameFuture [.rejected] (t.refuse n) t later later commands := fun later commands =>
    sameFuture_of_alike Journal.lasting_eq (t.alike_refuse n) (t.refuse n).blindTo_eq
      (fun command _ => command.blindTo_eq) rfl
  exact
    { name_eq := rfl
      hypotheses_eq := rfl
      names_eq := rfl
      cause := Or.inl ⟨n, proper, taken, rfl, fun other => perform_of_taken proper taken other _,
        rfl, rfl, by simp [log, refuse]⟩
      sameFuture := hfuture
      sameFuture_of_blind := ⟨[], (List.append_nil journal).symm,
        fun commands _ _ => hfuture journal commands⟩ }

lemma noTrace_of_fails {b : Builder} {fault : ClauseError} (free : t.IsFree (properName name))
    (fails : b.build journal = (.error fault, journal')) :
    t.NoTrace name (some b) journal (.clause fault) t journal' := by
  obtain ⟨calls, hcalls⟩ : ∃ calls, journal' = journal ++ calls := by
    simpa [fails] using b.exists_journal_build journal
  refine
    { name_eq := rfl
      hypotheses_eq := rfl
      names_eq := rfl
      cause := Or.inr ⟨b, rfl, free, ⟨fault, fails, rfl⟩, rfl, rfl⟩
      sameFuture := ?_
      sameFuture_of_blind := ⟨calls, hcalls, ?_⟩ }
  · intro later commands
    exact sameFuture_of_alike Journal.lasting_eq t.alike_self t.blindTo_eq
      (fun command _ => command.blindTo_eq) rfl
  · intro commands blind hcommands
    -- right after the failure, the calls of the builder stand at the end of the journal
    have related : Journal.Inserted journal calls journal' journal :=
      ⟨[], by rw [hcalls, List.append_nil], by rw [List.append_nil]⟩
    exact sameFuture_of_alike (Journal.lasting_inserted journal calls) t.alike_self blind hcommands
      related

end Cases

/-- Whenever a registration fails, it leaves no trace. -/
theorem failed_registration_leaves_no_trace {t t' : Theory} {name : Option String}
    {builder : Option Builder} {journal journal' : Journal} {e : TheoryError}
    (fails : t.perform (.registering name builder) journal = (.error e, t', journal')) :
    t.NoTrace name builder journal e t' journal' := by
  rcases t.isFree_or_taken (properName name) with free | ⟨n, proper, taken⟩
  · obtain ⟨rfl, b, fault, rfl, hbuild, rfl⟩ := perform_of_isFree free fails
    exact noTrace_of_fails free hbuild
  · rw [perform_of_taken proper taken] at fails
    simp only [Prod.mk.injEq, Except.error.injEq] at fails
    obtain ⟨rfl, rfl, rfl⟩ := fails
    exact noTrace_of_taken proper taken builder journal

/-- A builder that reads a failing provider, under a free name: the read stays in the journal, and
the name stays free. -/
theorem noTrace_after_failed_read :
    let missing : ConversionError := ⟨"", "int"⟩
    let builder : Builder :=
      { type := .int
        source := .provider "p" fun _ => .error missing
        plan := .ofSteps [.transform (Transformation.widen.mapping "w")] }
    let t : Theory := (run [.add (some "a")] (Theory.named "t") []).2.1
    t.perform (.registering (some "b") (some builder)) [] =
        (.error (.clause (.conversion missing)), t, [.failedRead "p" missing]) ∧
      t.NoTrace (some "b") (some builder) [] (.clause (.conversion missing)) t
        [.failedRead "p" missing] :=
  ⟨rfl, failed_registration_leaves_no_trace rfl⟩

end Theory

end Postulate
