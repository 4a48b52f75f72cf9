import Postulate.Proofs.Chain.Linking

/-!
# Texts that cannot be read

A text is given to a chain as a constant, converted, and the converted value is checked. Linking all
this reads nothing, so a text that cannot be read is not noticed then. An evaluation reads a value
only where a clause checks it: the entry and the clause that converts have no check and are passed,
and the first check behind them has the text converted. So an unreadable text surfaces from the
evaluation exactly when there is a check (`evaluate_malformed`). With none the chain holds, whatever
the text.
-/

namespace Postulate

variable {t : ValueType}

/-- The clause that a check adds behind a clause with the given source. -/
def Source.checked (s : Source t) (check : Check t) : Clause :=
  { type := t, source := s, check := some check }

/-- The recipe for a constant text with a conversion and checks of the converted value. -/
def Builder.ofConversion (text : String) (conversion : Conversion t) (checks : List (Check t)) :
    Builder where
  type := .text
  source := .constant text
  plan := .ofSteps (.convert conversion :: checks.map .refine)

/-! ## Building the chain -/

/-- Checks are linked one behind the other, all with the source of the clause before them. -/
lemma Plan.carryOut_refine (s : Source t) (checks : List (Check t)) (before : List Clause)
    (check? : Option (Check t)) (journal : Journal) :
    ∃ g : Focus, (ofSteps (checks.map .refine)).carryOut
        ⟨before, ⟨{ type := t, source := s, check := check? }, []⟩⟩ journal = (.ok g, journal) ∧
      g.chain.clauses =
        before.reverse ++ { type := t, source := s, check := check? } :: checks.map s.checked := by
  induction checks generalizing before check? with
  | nil => exact ⟨_, rfl, Focus.clauses_chain _⟩
  | cons check checks ih =>
    let f : Focus := ⟨before, ⟨{ type := t, source := s, check := check? }, []⟩⟩
    have links : f.Links journal (.refine check) (.ok (.linked t))
        (f.linked (s.checked check)) [] := .refined rfl
    obtain ⟨g, hcarry, hclauses⟩ := ih (f.here :: before) (some check)
    refine ⟨g, ?_, ?_⟩
    · rw [← hcarry]
      simp only [List.map_cons, ofSteps, carryOut]
      rw [Focus.perform_of_links links, List.append_nil]
      rfl
    · rw [hclauses, List.reverse_cons, List.append_assoc]
      rfl

/-- The source of the converted value. -/
def Source.ofConversion (text : String) (conversion : Conversion t) : Source t :=
  .converted conversion (.constant text)

variable (text : String) (conversion : Conversion t) (checks : List (Check t)) (journal : Journal)

/-- Building the chain succeeds and calls nothing. -/
lemma Builder.exists_build_ofConversion :
    ∃ chain : Chain, (ofConversion text conversion checks).build journal = (.ok chain, journal) ∧
      chain.clauses = { type := .text, source := .constant text } ::
        { type := t, source := .ofConversion text conversion } ::
          checks.map (Source.ofConversion text conversion).checked := by
  let f : Focus := (ofConversion text conversion checks).entry
  let s := Source.ofConversion text conversion
  have links : f.Links journal (.convert conversion) (.ok (.linked t))
      (f.linked { type := t, source := s }) [] := .converted rfl rfl
  obtain ⟨g, hcarry, hclauses⟩ := Plan.carryOut_refine s checks (f.here :: f.before) none journal
  refine ⟨g.chain, ?_, hclauses⟩
  have hplan : (ofConversion text conversion checks).plan.carryOut f journal =
      (.ok g, journal) := by
    rw [← hcarry]
    simp only [ofConversion, Plan.ofSteps, Plan.carryOut]
    rw [Focus.perform_of_links links, List.append_nil]
    rfl
  rw [build, hplan]

/-! ## Evaluating it -/

/-- The entry and the clause that converts are passed without a read. -/
lemma allPass_ofConversion : AllPass [{ type := .text, source := .constant text },
    { type := t, source := .ofConversion text conversion }] journal [] :=
  .cons (.unchecked rfl rfl) (.cons (.unchecked rfl rfl) .nil)

variable {text conversion} {e : ConversionError}

lemma Source.read_ofConversion (h : conversion.convert text = .error e) :
    (Source.ofConversion text conversion).read journal = (.error e, journal) := by
  simp only [ofConversion, read, h]

/-- A check of a text that cannot be read ends an evaluation with the error of the conversion. -/
lemma stops_checked (h : conversion.convert text = .error e) (check : Check t) :
    ((Source.ofConversion text conversion).checked check).Stops journal
      (.error (.conversion e)) [] :=
  .unreadable rfl rfl (congrArg Prod.fst (Source.read_ofConversion journal h))

/-- A chain for a text that cannot be read is built all the same, without a call. Its evaluation
calls nothing either. It ends with the error of the conversion, which names the text and what it
should have been, when there is a check to ask; without one it is passed. -/
theorem evaluate_malformed (h : conversion.convert text = .error e) :
    e = ⟨text, conversion.target⟩ ∧ ∃ chain : Chain,
      (Builder.ofConversion text conversion checks).build journal = (.ok chain, journal) ∧
      ∀ now : Journal, (chain.evaluate now).journal = now ∧ (chain.evaluate now).verdict =
        if checks.isEmpty then .ok true else .error (.conversion e) := by
  obtain ⟨chain, hbuild, hclauses⟩ :=
    Builder.exists_build_ofConversion text conversion checks journal
  refine ⟨(Conversion.convert_eq_error_iff.1 h).2, chain, hbuild, fun now => ?_⟩
  have before := allPass_ofConversion text conversion now
  cases checks with
  | nil =>
    obtain ⟨d, -, heval⟩ := Chain.evaluate_of_allPass (hclauses ▸ before)
    rw [heval]
    exact ⟨List.append_nil now, rfl⟩
  | cons check checks =>
    have stop := stops_checked (now ++ []) h check
    obtain ⟨d, -, heval⟩ := Chain.evaluate_of_stops hclauses before stop
    rw [heval]
    exact ⟨List.append_nil now, rfl⟩

/-- A text that is no number, asked whether it is positive. -/
theorem evaluate_malformed_forty_two :
    Conversion.int.convert "forty-two" = .error ⟨"forty-two", "i32"⟩ ∧
      ∃ chain : Chain,
        (Builder.ofConversion "forty-two" .int
          [.predicate "positive" fun _ n => decide (0 < n)]).build [] = (.ok chain, []) ∧
        (chain.evaluate []).verdict = .error (.conversion ⟨"forty-two", "i32"⟩) := by
  have h : Conversion.int.convert "forty-two" = .error ⟨"forty-two", "i32"⟩ := by decide
  obtain ⟨-, chain, hbuild, heval⟩ :=
    evaluate_malformed [.predicate "positive" fun _ n => decide (0 < n)] [] h
  exact ⟨h, chain, hbuild, (heval []).2⟩

/-- A text that cannot be read need not surface: without a check the chain is passed. -/
theorem unchecked_malformed_passes :
    ¬ ∀ (t : ValueType) (conversion : Conversion t) (text : String) (checks : List (Check t))
        (e : ConversionError) (chain : Chain), conversion.convert text = .error e →
      (Builder.ofConversion text conversion checks).build [] = (.ok chain, []) →
        (chain.evaluate []).verdict = .error (.conversion e) := by
  intro surfaces
  have h : Conversion.int.convert "forty-two" = .error ⟨"forty-two", "i32"⟩ := by decide
  have passed : (Except.ok true : Except ClauseError Bool) = .error _ :=
    surfaces .int .int "forty-two" [] _ _ h rfl
  cases passed

end Postulate
