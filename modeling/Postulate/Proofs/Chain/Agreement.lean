import Postulate.Proofs.Chain.Malformed
import Postulate.TextCheck

/-!
# Asking first and converting first

Whether a text is a written value can be asked of the text itself, by a text check, and it shows
when the text is converted in a chain and the value is checked there. The two agree. Linking never
fails. The evaluation comes to a verdict exactly for the texts that pass the text check, and then
every check that is asked is asked about the value that the text is read as, one check after the
other, up to the first that does not hold (`Check.answers`). For any other text the first check has
the text converted, and the evaluation ends there with the error of the conversion. The main result
is `evaluate_agrees_with_textCheck`.
-/

namespace Postulate

variable {t : ValueType}

/-! ## Checks of one value -/

namespace Check

/-- The answers that checks of a value give, one after the other, up to the first that does not
hold. -/
def answers (value : t.Carrier) : List (Check t) → Journal → List Bool
  | [], _ => []
  | check :: checks, journal =>
    let (passed, journal) := check.ask value journal
    passed :: if passed then answers value checks journal else []

/-- The calls that put the questions of the checks, as far as there are answers. -/
def calls (value : t.Carrier) (checks : List (Check t)) (answers : List Bool) : List Call :=
  List.zipWith (fun check passed => check.call value passed) checks answers

variable {check : Check t} {value : t.Carrier} {journal : Journal}

lemma answers_of_fails (fails : check.holds value journal = false) (checks : List (Check t)) :
    answers value (check :: checks) journal = [false] := by
  rw [answers, ask, fails]
  rfl

/-- After a check that holds the others are asked, with its call in the journal. -/
lemma answers_of_holds (holds : check.holds value journal = true) (checks : List (Check t)) :
    answers value (check :: checks) journal =
      true :: answers value checks (journal ++ [check.call value true]) := by
  rw [answers, ask, holds]
  rfl

end Check

/-- Every read of the source gives the value, and calls nothing. -/
def Source.Gives (s : Source t) (value : t.Carrier) : Prop :=
  ∀ journal : Journal, s.read journal = (.ok value, journal)

namespace Source.Gives

variable {s : Source t} {value : t.Carrier} (gives : s.Gives value)
include gives

lemma calls_eq_nil (journal : Journal) : s.calls journal = [] := by
  have hread := s.journal_read journal
  rw [gives journal] at hread
  exact List.self_eq_append_right.mp hread

lemma passes {check : Check t} {journal : Journal} (holds : check.holds value journal = true) :
    (s.checked check).Passes journal [check.call value true] := by
  have hcalls := gives.calls_eq_nil journal
  have hholds : check.holds value (journal ++ s.calls journal) = true := by
    rwa [hcalls, List.append_nil]
  have rule : (s.checked check).Passes journal (s.calls journal ++ [check.call value true]) :=
    .checked rfl rfl (congrArg Prod.fst (gives journal)) hholds
  rwa [hcalls] at rule

lemma stops {check : Check t} {journal : Journal} (fails : check.holds value journal = false) :
    (s.checked check).Stops journal (.ok false) [check.call value false] := by
  have hcalls := gives.calls_eq_nil journal
  have hfails : check.holds value (journal ++ s.calls journal) = false := by
    rwa [hcalls, List.append_nil]
  have rule : (s.checked check).Stops journal (.ok false)
      (s.calls journal ++ [check.call value false]) :=
    .refused rfl rfl (congrArg Prod.fst (gives journal)) hfails
  rwa [hcalls] at rule

/-- Clauses that check one value are evaluated by asking their checks. -/
lemma evaluateFrom_checked (check : Check t) (checks : List (Check t)) (now : Journal) :
    (Chain.evaluateFrom (s.checked check) (checks.map s.checked) now).verdict =
        .ok ((Check.answers value (check :: checks) now).all id) ∧
      (Chain.evaluateFrom (s.checked check) (checks.map s.checked) now).journal =
        now ++ Check.calls value (check :: checks) (Check.answers value (check :: checks) now) := by
  induction checks generalizing check now with
  | nil =>
    cases holds : check.holds value now with
    | false =>
      rw [Chain.evaluateFrom_of_stops (gives.stops holds), Check.answers_of_fails holds]
      exact ⟨rfl, rfl⟩
    | true =>
      rw [List.map_nil, Chain.evaluateFrom_last_of_passes (gives.passes holds),
        Check.answers_of_holds holds]
      exact ⟨rfl, rfl⟩
  | cons next checks ih =>
    cases holds : check.holds value now with
    | false =>
      rw [Chain.evaluateFrom_of_stops (gives.stops holds), Check.answers_of_fails holds]
      exact ⟨rfl, rfl⟩
    | true =>
      obtain ⟨hverdict, hjournal⟩ := ih next (now ++ [check.call value true])
      rw [List.map_cons, Chain.evaluateFrom_cons_of_passes (gives.passes holds),
        Check.answers_of_holds holds]
      refine ⟨?_, ?_⟩
      · rw [List.all_cons]
        exact hverdict
      · rw [Check.calls, List.zipWith_cons_cons]
        exact hjournal.trans (List.append_assoc ..)

end Source.Gives

/-! ## The chain of a conversion -/

lemma Source.gives_ofConversion {text : String} {conversion : Conversion t} {value : t.Carrier}
    (h : conversion.convert text = .ok value) : (ofConversion text conversion).Gives value := by
  intro journal
  simp only [ofConversion, read, h]

/-- The entry and the clause that converts have no check, and an evaluation goes on behind them. -/
lemma evaluate_ofConversion {text : String} {conversion : Conversion t} {chain : Chain}
    {k : Clause} {rest : List Clause}
    (hclauses : chain.clauses = { type := .text, source := .constant text } ::
      { type := t, source := .ofConversion text conversion } :: k :: rest) (now : Journal) :
    (chain.evaluate now).verdict = (Chain.evaluateFrom k rest now).verdict ∧
      (chain.evaluate now).journal = (Chain.evaluateFrom k rest now).journal := by
  obtain ⟨entry, later⟩ := chain
  obtain ⟨rfl, rfl⟩ := List.cons.inj hclauses
  rw [Chain.evaluate, Chain.evaluateFrom_cons_of_passes (.unchecked rfl rfl),
    Chain.evaluateFrom_cons_of_passes (.unchecked rfl rfl), List.append_nil, List.append_nil]
  exact ⟨rfl, rfl⟩

/-- Asking whether a text can be read and converting it in a chain agree. The chain with the
conversion and at least one check behind it is always built, without a call. Evaluating it comes to
a verdict exactly if the text passes the text check: the checks are asked about the value, in order,
up to the first that does not hold, and the verdict is that all answers were yes. If the text does
not pass, nothing is called, the error is that of the conversion, and the first three clauses are
marked and no other. -/
theorem evaluate_agrees_with_textCheck (text : String) (conversion : Conversion t)
    (check : Check t) (checks : List (Check t)) (journal : Journal) :
    ∃ chain : Chain,
      (Builder.ofConversion text conversion (check :: checks)).build journal =
        (.ok chain, journal) ∧
      ∀ now : Journal,
        ((∃ passed, (chain.evaluate now).verdict = .ok passed) ↔
          conversion.textCheck.passes text = true) ∧
        match conversion.convert text with
        | .ok value =>
          (chain.evaluate now).verdict =
              .ok ((Check.answers value (check :: checks) now).all id) ∧
            (chain.evaluate now).journal =
              now ++ Check.calls value (check :: checks)
                (Check.answers value (check :: checks) now)
        | .error e =>
          e = ⟨text, conversion.target⟩ ∧
            (chain.evaluate now).verdict = .error (.conversion e) ∧
            (chain.evaluate now).journal = now ∧
            (chain.evaluate now).chain.marks =
              [true, true, true] ++ List.replicate checks.length false := by
  obtain ⟨chain, hbuild, hclauses⟩ :=
    Builder.exists_build_ofConversion text conversion (check :: checks) journal
  refine ⟨chain, hbuild, fun now => ?_⟩
  have before := allPass_ofConversion text conversion now
  rw [Conversion.passes_textCheck]
  cases h : conversion.convert text with
  | ok value =>
    -- the entry and the clause that converts are passed, and the checks decide
    obtain ⟨hverdict, hjournal⟩ :=
      (Source.gives_ofConversion h).evaluateFrom_checked check checks now
    obtain ⟨hbehind, hcalls⟩ := evaluate_ofConversion hclauses now
    rw [hbehind, hcalls]
    exact ⟨iff_of_true ⟨_, hverdict⟩ rfl, hverdict, hjournal⟩
  | error e =>
    have stop := stops_checked (now ++ []) h check
    obtain ⟨d, hd, heval⟩ := Chain.evaluate_of_stops hclauses before stop
    have hmarks : d.marks = [true, true, true] ++ List.replicate checks.length false := by
      rw [Chain.marks, hd]
      simp [Source.checked, Function.comp_def]
    rw [heval]
    refine ⟨?_, (Conversion.convert_eq_error_iff.1 h).2, rfl, List.append_nil now, hmarks⟩
    simp [Except.isOk, Except.toBool]

end Postulate
