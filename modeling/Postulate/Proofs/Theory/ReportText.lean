import Postulate.Proofs.Json.Members
import Postulate.Proofs.Json.Written
import Postulate.Proofs.Text.Digits
import Postulate.Theory.Report

/-!
# The text of a report tells the report

A report can be read off a JSON value: each part stands under its name, which is given once, and
numbers are read from their decimal notation (`Report.ofJson?`). What is read off the value of a
report is the report (`Report.ofJson?_json`), and the value can be written, since all its strings
have a text and all its numbers are numbers of JSON. So nothing is lost in the text, and nothing is
put in its place. The main result is `Report.text_tells`.
-/

namespace Postulate

namespace Json

/-! ## Values of a kind -/

/-- The value of a name that is given once. -/
def member? (j : Json) (name : String) : Option Json :=
  match j with
  | object members =>
    match valuesOf members name with
    | [value] => some value
    | _ => none
  | _ => none

/-- A text, or null for none. -/
def toText? : Json → Option (Option String)
  | null => some none
  | string (some text) => some (some text)
  | _ => none

/-- A truth value. -/
def toBool? : Json → Option Bool
  | bool value => some value
  | _ => none

/-- A natural number in decimal notation. -/
def toNat? : Json → Option Nat
  | number written =>
    if written.all Char.isDigit then some (Postulate.Text.digitsValue written) else none
  | _ => none

/-- The items of an array. -/
def toItems? : Json → Option (List Json)
  | array items => some items
  | _ => none

lemma toText?_ofString? (text : Option String) : (ofString? text).toText? = some text := by
  cases text <;> rfl

lemma toNat?_ofNat (n : Nat) : (ofNat n).toNat? = some n := by
  have hdigits : (Nat.toDigits 10 n).all Char.isDigit = true :=
    List.all_eq_true.mpr fun _ hc => Nat.isDigit_of_mem_toDigits (by decide) (by decide) hc
  rw [ofNat, toNat?, if_pos hdigits, Postulate.Text.digitsValue_toDigits]

end Json

/-! ## Outcomes -/

namespace Outcome

/-- The outcome that a JSON value tells. -/
def ofJson? (j : Json) : Option Outcome := do
  let index ← (← j.member? "index").toNat?
  let name ← (← j.member? "name").toText?
  let passed ← (← j.member? "passed").toBool?
  let clausesEvaluated ← (← j.member? "clauses_evaluated").toNat?
  let clausesTotal ← (← j.member? "clauses_total").toNat?
  return { index, name, passed, clausesEvaluated, clausesTotal }

lemma isWritable_json (o : Outcome) : o.json.IsWritable := by
  refine .object ?_
  simp only [List.forall_mem_cons, List.not_mem_nil, false_implies, implies_true, and_true]
  exact ⟨Json.isWritable_ofNat _, Json.isWritable_ofString? _, .bool _, Json.isWritable_ofNat _,
    Json.isWritable_ofNat _⟩

lemma ofJson?_json (o : Outcome) : ofJson? o.json = some o := by
  have hindex : o.json.member? "index" = some (.ofNat o.index) := rfl
  have hname : o.json.member? "name" = some (.ofString? o.name) := rfl
  have hpassed : o.json.member? "passed" = some (.bool o.passed) := rfl
  have hevaluated : o.json.member? "clauses_evaluated" = some (.ofNat o.clausesEvaluated) := rfl
  have htotal : o.json.member? "clauses_total" = some (.ofNat o.clausesTotal) := rfl
  simp only [ofJson?, hindex, hname, hpassed, hevaluated, htotal, Option.bind_eq_bind,
    Option.bind_some, Json.toNat?_ofNat, Json.toText?_ofString?, Json.toBool?]
  rfl

end Outcome

/-! ## Reports -/

namespace Report

/-- The report that a JSON value tells. -/
def ofJson? (j : Json) : Option Report := do
  let theory ← (← j.member? "theory").toText?
  let verdict ← (← j.member? "verdict").toBool?
  let items ← (← j.member? "outcomes").toItems?
  let outcomes ← items.mapM Outcome.ofJson?
  return { theory, verdict, outcomes }

lemma isWritable_json (r : Report) : r.json.IsWritable := by
  refine .object ?_
  simp only [List.forall_mem_cons, List.not_mem_nil, false_implies, implies_true, and_true]
  exact ⟨Json.isWritable_ofString? _, .bool _,
    .array (List.forall_mem_map.mpr fun o _ => o.isWritable_json)⟩

/-- What the value of a report tells is the report. -/
lemma ofJson?_json (r : Report) : ofJson? r.json = some r := by
  have htheory : r.json.member? "theory" = some (.ofString? r.theory) := rfl
  have hverdict : r.json.member? "verdict" = some (.bool r.verdict) := rfl
  have hitems : r.json.member? "outcomes" = some (.array (r.outcomes.map Outcome.json)) := rfl
  have houtcomes (outcomes : List Outcome) :
      (outcomes.map Outcome.json).mapM Outcome.ofJson? = some outcomes := by
    induction outcomes with
    | nil => rfl
    | cons o outcomes ih =>
      rw [List.map_cons, List.mapM_cons, Outcome.ofJson?_json, ih]
      rfl
  simp only [ofJson?, htheory, hverdict, hitems, Option.bind_eq_bind, Option.bind_some,
    Json.toText?_ofString?, Json.toBool?, Json.toItems?, houtcomes]
  rfl

lemma text_eq (r : Report) : r.text = r.json.text := by
  rw [text, Json.text?_of_isWritable r.isWritable_json, Option.getD_some]

lemma ofText?_text (r : Report) : Json.ofText? r.text.toList = some r.json := by
  rw [text_eq, Json.text, String.toList_ofList, Json.ofText?_render r.isWritable_json]

/-- The text of a report is its own and nothing that stands in for it, and it is a JSON text of a
value that tells the report: the name of the theory or none, the verdict, and every outcome in
order, with all its parts. So different reports have different texts. -/
theorem text_tells (r : Report) :
    r.json.text? = some r.text ∧ r.text ≠ "\x7b\x7d" ∧
    (∃ j, Json.IsText j r.text.toList ∧ Json.ofText? r.text.toList = some j ∧
      ofJson? j = some r) ∧
    ∀ r' : Report, r'.text = r.text ↔ r' = r := by
  have hread (r : Report) : (Json.ofText? r.text.toList).bind ofJson? = some r := by
    rw [ofText?_text, Option.bind_some, ofJson?_json]
  refine ⟨?_, fun hempty => ?_, ⟨r.json, ?_, r.ofText?_text, r.ofJson?_json⟩, fun r' =>
    ⟨fun heq => ?_, fun heq => by rw [heq]⟩⟩
  · rw [text_eq, Json.text?_of_isWritable r.isWritable_json]
  · -- an empty object tells no report
    have hnone := hread r
    rw [hempty] at hnone
    cases hnone
  · exact Json.ofText?_eq_some_iff.mp r.ofText?_text
  · have hsame := hread r'
    rw [heq, hread r] at hsame
    exact (Option.some.inj hsame).symm

/-- Names with quotes and control characters, no name beside an empty one, and counts that are zero.
-/
example : (⟨some "a\"\\\x01", false, [⟨0, none, true, 0, 10⟩, ⟨1, some "", false, 2, 2⟩]⟩ :
    Report).text =
      "\x7b\"theory\":\"a\\\"\\\\\\u0001\",\"verdict\":false,\"outcomes\":[" ++
      "\x7b\"index\":0,\"name\":null,\"passed\":true," ++
      "\"clauses_evaluated\":0,\"clauses_total\":10\x7d," ++
      "\x7b\"index\":1,\"name\":\"\",\"passed\":false," ++
      "\"clauses_evaluated\":2,\"clauses_total\":2\x7d]\x7d" := by
  cbv

end Report

end Postulate
