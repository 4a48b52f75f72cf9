import Postulate.Proofs.Json.Written
import Postulate.Theory.Basic

/-!
# Configurations that are written and read

A configuration is written as an object with its three members under their keys. Reading the
members one after the other sets each of them to its value, whatever was there before
(`Config.ofJson?_json`), and the text of the object is read as the object. So reading what was
written is checking the configuration, `Config.ofText_text`. The check is also the last step of
every reading, and the first of making a theory. The main result is `Config.written_read`.
-/

namespace Postulate.Config

variable {c : Config}

lemma isWritable_json (c : Config) : c.json.IsWritable := by
  refine .object ?_
  simp only [List.forall_mem_cons, List.not_mem_nil, false_implies, implies_true, and_true]
  refine ⟨?_, .bool _, .string _⟩
  cases c.name with
  | none => exact .null
  | some name => exact .string name

/-- The member with a key. -/
lemma find?_key (member : Member) :
    (Member.all.find? fun other => other.key = member.key) = some member := by
  cases member <;> decide

lemma ofMembers?_cons {met : List Member} {member : Member} (h : member ∉ met) (c : Config)
    (value : Json) (rest : List (Option String × Json)) :
    ofMembers? c met ((some member.key, value) :: rest) =
      (c.set member value).bind fun c => ofMembers? c (member :: met) rest := by
  simp only [ofMembers?, find?_key, if_neg h]

lemma set_name (c : Config) (name : Option String) :
    c.set .name (.ofString? name) = some { c with name } := by
  cases name <;> rfl

lemma set_logSeverity (c : Config) (severity : Log.Severity) :
    c.set .logSeverity (.ofString severity.name) = some { c with logSeverity := severity } := by
  simp [set, severity?, Json.ofString, Log.Severity.ofName?_name]

lemma ofJson?_json (c : Config) : ofJson? c.json = some c := by
  -- the keys differ, so no member has been met when it is read
  simp only [json, ofJson?, Json.ofMembers, List.map_cons, List.map_nil]
  rw [ofMembers?_cons (by decide), set_name, Option.bind_some,
    ofMembers?_cons (by decide), set, Option.bind_some,
    ofMembers?_cons (by decide), set_logSeverity, Option.bind_some, ofMembers?]

/-- What is written of a configuration is read as the configuration, and then checked. -/
lemma ofText_text (c : Config) : ofText c.json.text = c.validate := by
  rw [ofText, Json.text, String.toList_ofList, Json.ofText?_render c.isWritable_json,
    Option.bind_some, ofJson?_json]

/-! ## Checking -/

lemma validate_of_blank (h : ∃ name ∈ c.name, Text.trim name.toList = []) :
    c.validate = .error .blankName := by
  obtain ⟨name, hname, hblank⟩ := h
  have hany : (c.name.any fun name => Text.isBlank name.toList) = true := by
    rw [Option.mem_def.mp hname, Option.any_some, Text.isBlank, hblank, List.isEmpty_nil]
  rw [validate, if_pos hany]

lemma validate_eq_ok_iff {d : Config} :
    c.validate = .ok d ↔ d = c ∧ ∀ name ∈ c.name, Text.trim name.toList ≠ [] := by
  constructor
  · intro h
    refine ⟨?_, fun name hname hblank => ?_⟩
    · unfold validate at h
      split at h
      case isTrue => cases h
      case isFalse => exact (Except.ok.inj h).symm
    · rw [validate_of_blank ⟨name, hname, hblank⟩] at h
      cases h
  · rintro ⟨rfl, h⟩
    have hany : ¬(d.name.any fun name => Text.isBlank name.toList) = true := by
      cases hname : d.name with
      | none => exact Bool.false_ne_true
      | some name =>
        rw [Option.any_some, Text.isBlank, List.isEmpty_iff]
        exact h name hname
    rw [validate, if_neg hany]

/-- A configuration that has been read has been checked. -/
lemma validate_of_ofText {text : String} (h : ofText text = .ok c) : c.validate = .ok c := by
  unfold ofText at h
  split at h
  case h_1 => cases h
  case h_2 d _ =>
    obtain ⟨rfl, hname⟩ := validate_eq_ok_iff.mp h
    exact validate_eq_ok_iff.mpr ⟨rfl, hname⟩

lemma exists_ofConfig (h : c.validate = .ok c) :
    ∃ t, Theory.ofConfig c = .ok t ∧ t.name = c.name := by
  rw [Theory.ofConfig, h]
  exact ⟨_, rfl, rfl⟩

/-- A configuration survives writing and reading if its name is not blank, and is refused for its
blank name otherwise. What is read from any text can be used: a theory can be made of it, and it
survives writing and reading. -/
theorem written_read (c : Config) :
    (c.validate = .ok c ↔ ∀ name ∈ c.name, Text.trim name.toList ≠ []) ∧
    (c.validate = .ok c → ofText c.json.text = .ok c) ∧
    ((∃ name ∈ c.name, Text.trim name.toList = []) →
      ∃ fault, ofText c.json.text = .error fault ∧ fault.reason = "name must not be blank") ∧
    ∀ text, ofText text = .ok c →
      c.validate = .ok c ∧ (∃ t, Theory.ofConfig c = .ok t ∧ t.name = c.name) ∧
        ofText c.json.text = .ok c := by
  rw [ofText_text]
  refine ⟨?_, id, ?_, ?_⟩
  · rw [validate_eq_ok_iff]
    exact and_iff_right rfl
  · intro h
    exact ⟨_, validate_of_blank h, rfl⟩
  · intro text h
    have hvalid := validate_of_ofText h
    exact ⟨hvalid, exists_ofConfig hvalid, hvalid⟩

/-- A name with quotes, line ends and what is beyond 16 bits survives; a name of wide spaces is
blank; a configuration given as an array can be used. -/
theorem written_read_escaped :
    ofText (⟨some "a\"\\\n\x01😀", true, .warn⟩ : Config).json.text =
      .ok ⟨some "a\"\\\n\x01😀", true, .warn⟩ ∧
    (∃ fault, ofText (⟨some "\u2003 ", false, .info⟩ : Config).json.text = .error fault ∧
      fault.reason = "name must not be blank") ∧
    ∃ t, Theory.ofConfig ⟨some "x", false, .info⟩ = .ok t ∧ t.name = some "x" :=
  ⟨(written_read _).2.1 rfl, (written_read _).2.2.1 ⟨_, rfl, rfl⟩,
    ((written_read _).2.2.2 "[\"x\"]" rfl).2.1⟩

end Postulate.Config
