import Mathlib.Data.List.Induction
import Mathlib.Data.List.Sort
import Postulate.Log.Entry
import Postulate.Proofs.Json.Written

/-!
# A log line tells its entry

Setting a field in a list that is in the order of names puts it between the fields that come before
it and those that come after it (`insertField_eq`); a field of the same name is neither, and so it
is gone. From this the list stays in order, and what is in it is told by the last value of each
name (`mem_sortedFields`). A list in order is determined by what is in it, and a line by the object
that it is the text of, since the text of a value is read as that value. The main result is
`Entry.render_tells`.
-/

namespace Postulate.Log

/-! ## The order of names -/

lemma utf8Bytes_inj {a b : String} : utf8Bytes a = utf8Bytes b ↔ a = b := by
  refine ⟨fun h => ?_, fun h => by rw [h]⟩
  have hdata : a.toUTF8.data = b.toUTF8.data := Array.toList_inj.mp h
  exact String.toByteArray_inj.mp (ByteArray.ext hdata)

/-- Does the field come before the other in a line? -/
def Precedes (a b : String × String) : Prop := utf8Bytes a.1 < utf8Bytes b.1

instance (a b : String × String) : Decidable (Precedes a b) :=
  inferInstanceAs (Decidable (utf8Bytes a.1 < utf8Bytes b.1))

instance : Std.Irrefl Precedes := ⟨fun a => List.lt_irrefl (utf8Bytes a.1)⟩

instance : Std.Antisymm Precedes := ⟨fun _ _ hab hba => absurd hba (List.lt_asymm hab)⟩

lemma Precedes.trans {a b c : String × String} (hab : Precedes a b) (hbc : Precedes b c) :
    Precedes a c := List.lt_trans hab hbc

lemma Precedes.not_precedes {a b : String × String} (h : Precedes a b) : ¬Precedes b a :=
  List.lt_asymm h

/-- Of two fields, one comes first unless they have the same name. -/
lemma precedes_or_precedes_iff {a b : String × String} :
    Precedes a b ∨ Precedes b a ↔ a.1 ≠ b.1 := by
  constructor
  · rintro (h | h) heq <;> rw [Precedes, heq] at h <;> exact List.lt_irrefl _ h
  · intro hne
    by_contra! h
    exact hne (utf8Bytes_inj.mp (List.le_antisymm h.2 h.1))

/-! ## Setting a field -/

variable {fields : FieldList} {name value : String} {field : String × String}

/-- Where all fields come behind a name, it is set in front of them. -/
lemma filter_of_forall_precedes (h : ∀ f ∈ fields, Precedes field f) :
    fields.filter (Precedes · field) ++ field :: fields.filter (Precedes field ·) =
      field :: fields := by
  have hbefore : fields.filter (Precedes · field) = [] := by
    simpa using fun f hf => (h f hf).not_precedes
  have hafter : fields.filter (Precedes field ·) = fields := by
    simpa using h
  rw [hbefore, hafter, List.nil_append]

/-- In fields that are in order, a field is set between those that come before it and those that
come after it. -/
lemma insertField_eq (h : fields.Pairwise Precedes) :
    insertField name value fields =
      fields.filter (Precedes · (name, value)) ++
        (name, value) :: fields.filter (Precedes (name, value) ·) := by
  induction h with
  | nil => rfl
  | @cons first fields hfirst _ ih =>
    unfold insertField
    split
    case isTrue hsame =>
      -- the field that was there comes neither before nor after the one that takes its place
      subst hsame
      have hfirst' : ∀ f ∈ fields, Precedes (first.1, value) f := hfirst
      have hbefore : ¬Precedes first (first.1, value) := fun h =>
        precedes_or_precedes_iff.mp (.inl h) rfl
      have hafter : ¬Precedes (first.1, value) first := fun h =>
        precedes_or_precedes_iff.mp (.inl h) rfl
      rw [List.filter_cons_of_neg (by simpa using hbefore),
        List.filter_cons_of_neg (by simpa using hafter), filter_of_forall_precedes hfirst']
    case isFalse hdiffers =>
      split
      case isTrue hless =>
        have hall : ∀ f ∈ first :: fields, Precedes (name, value) f :=
          List.forall_mem_cons.mpr ⟨hless, fun f hf => Precedes.trans hless (hfirst f hf)⟩
        exact (filter_of_forall_precedes hall).symm
      case isFalse hnot =>
        have hless : Precedes first (name, value) := by
          have hne : first.1 ≠ (name, value).1 := Ne.symm hdiffers
          exact (precedes_or_precedes_iff.mpr hne).resolve_right hnot
        rw [ih, List.filter_cons_of_pos (by simpa using hless),
          List.filter_cons_of_neg (by simpa using hless.not_precedes), List.cons_append]

lemma pairwise_insertField (h : fields.Pairwise Precedes) :
    (insertField name value fields).Pairwise Precedes := by
  rw [insertField_eq h, List.pairwise_append, List.pairwise_cons]
  simp only [List.mem_filter, decide_eq_true_eq, List.mem_cons]
  refine ⟨h.filter _, ⟨fun _ ha => ha.2, h.filter _⟩, ?_⟩
  rintro a ⟨-, ha⟩ b (rfl | ⟨-, hb⟩)
  · exact ha
  · exact ha.trans hb

/-- Setting a field takes the place of a field of the same name. -/
lemma mem_insertField (h : fields.Pairwise Precedes) :
    field ∈ insertField name value fields ↔
      field = (name, value) ∨ field.1 ≠ name ∧ field ∈ fields := by
  have hname : Precedes field (name, value) ∨ Precedes (name, value) field ↔ field.1 ≠ name :=
    precedes_or_precedes_iff
  rw [insertField_eq h, ← hname, List.mem_append, List.mem_cons, List.mem_filter, List.mem_filter,
    decide_eq_true_eq, decide_eq_true_eq]
  tauto

/-! ## The last value of a name -/

/-- The last value that is given to a name. -/
def lastValue? (fields : FieldList) (name : String) : Option String :=
  (fields.filter fun field => field.1 = name).getLast?.map Prod.snd

lemma lastValue?_concat (fields : FieldList) (field : String × String) (name : String) :
    lastValue? (fields ++ [field]) name =
      if field.1 = name then some field.2 else lastValue? fields name := by
  by_cases h : field.1 = name <;> simp [lastValue?, h]

lemma lastValue?_eq_none_iff : lastValue? fields name = none ↔ name ∉ fields.map Prod.fst := by
  simp only [lastValue?, Option.map_eq_none_iff, List.getLast?_eq_none_iff, List.filter_eq_nil_iff,
    decide_eq_true_eq, List.mem_map, not_exists, not_and]

lemma sortedFields_concat (fields : FieldList) (field : String × String) :
    sortedFields (fields ++ [field]) = insertField field.1 field.2 (sortedFields fields) := by
  simp [sortedFields]

lemma pairwise_sortedFields (fields : FieldList) : (sortedFields fields).Pairwise Precedes := by
  induction fields using List.reverseRecOn with
  | nil => exact .nil
  | append_singleton fields field ih =>
    rw [sortedFields_concat]
    exact pairwise_insertField ih

/-- A name is written with its last value. -/
lemma mem_sortedFields : (name, value) ∈ sortedFields fields ↔
    lastValue? fields name = some value := by
  induction fields using List.reverseRecOn with
  | nil => simp [sortedFields, lastValue?]
  | append_singleton fields field ih =>
    rw [sortedFields_concat, mem_insertField (pairwise_sortedFields fields), ih, lastValue?_concat]
    split
    case isTrue h => simp [h, Prod.ext_iff, eq_comm]
    case isFalse h => simp [Ne.symm h, Prod.ext_iff]

lemma mem_map_sortedFields :
    name ∈ (sortedFields fields).map Prod.fst ↔ name ∈ fields.map Prod.fst := by
  have hnone : lastValue? fields name = none ↔ name ∉ fields.map Prod.fst := lastValue?_eq_none_iff
  rw [← not_iff_not, ← hnone, Option.eq_none_iff_forall_ne_some]
  simp [← mem_sortedFields]

/-- What is written of the fields depends on the last values alone. -/
lemma sortedFields_eq_iff {fields fields' : FieldList} :
    sortedFields fields = sortedFields fields' ↔ lastValue? fields = lastValue? fields' := by
  constructor
  · intro h
    funext name
    refine Option.ext fun value => ?_
    rw [← mem_sortedFields, h, mem_sortedFields]
  · intro h
    refine (pairwise_sortedFields fields).eq_of_mem_iff (pairwise_sortedFields fields') ?_
    rintro ⟨name, value⟩
    rw [mem_sortedFields, h, mem_sortedFields]

/-! ## Lines -/

namespace Entry

lemma isWritable_json (e : Entry) : e.json.IsWritable := by
  refine .object ?_
  simp only [List.forall_mem_cons, List.forall_mem_map]
  exact ⟨.string _, .string _, fun _ _ => .string _⟩

lemma toList_render (e : Entry) : e.render.toList = e.json.render ++ ['\n'] := by
  simp [render, line, Json.text]

lemma json_eq_iff {e e' : Entry} : e'.json = e.json ↔
    e'.severity = e.severity ∧ e'.event = e.event ∧
      sortedFields e'.fields = sortedFields e.fields := by
  have hfield : Function.Injective fun field : String × String =>
      ((some field.1, Json.ofString field.2) : Option String × Json) := by
    rintro ⟨_, _⟩ ⟨_, _⟩ h
    simpa [Json.ofString] using h
  constructor
  · intro h
    simp only [json, Json.ofMembers, List.map_cons, List.map_map, Json.object.injEq,
      List.cons.injEq, Prod.mk.injEq, Json.ofString, Json.string.injEq, Option.some.injEq,
      true_and] at h
    exact ⟨Severity.name_inj.mp h.2.1, h.1, List.map_injective_iff.mpr hfield h.2.2⟩
  · rintro ⟨hseverity, hevent, hfields⟩
    rw [json, json, hseverity, hevent, hfields]

lemma render_eq_iff {e e' : Entry} : e'.render = e.render ↔
    e'.severity = e.severity ∧ e'.event = e.event ∧ lastValue? e'.fields = lastValue? e.fields := by
  rw [← sortedFields_eq_iff, ← json_eq_iff, ← String.toList_inj, toList_render, toList_render,
    List.append_left_inj]
  exact ⟨Json.render_injective e'.isWritable_json e.isWritable_json, congrArg Json.render⟩

/-- What a line tells: the entry, and the fields as they stand in the line. -/
structure Tells (line : List Char) (e : Entry) (members : FieldList) : Prop where
  /-- There is no end of a line in a line, nor any other control character. -/
  printed : ∀ c ∈ line, 0x20 ≤ c.toNat
  read : Json.ofText? line = some (.ofMembers (("event", .ofString e.event) ::
    ("severity", .ofString e.severity.name) ::
      members.map fun (name, value) => (name, .ofString value)))
  ordered : members.Pairwise Precedes
  names : ∀ name, name ∈ members.map Prod.fst ↔ name ∈ e.fields.map Prod.fst
  last : ∀ name value, (name, value) ∈ members ↔ lastValue? e.fields name = some value

lemma tells_json (e : Entry) : Tells e.json.render e (sortedFields e.fields) where
  printed := Json.space_le_of_mem_render e.isWritable_json
  read := Json.ofText?_render e.isWritable_json
  ordered := pairwise_sortedFields e.fields
  names _ := mem_map_sortedFields
  last _ _ := mem_sortedFields

/-- A line tells its entry: before its end it is an object in JSON whose members are the event, the
severity and every name with its last value, in the order of names. So two lines are the same just
if they have the same severity, the same event and the same last values; and it does not matter how
fields with different names are mixed. -/
theorem render_tells (e : Entry) :
    (∃ line members, e.render.toList = line ++ ['\n'] ∧ Tells line e members) ∧
    (∀ e' : Entry, e'.render = e.render ↔ e'.severity = e.severity ∧ e'.event = e.event ∧
      lastValue? e'.fields = lastValue? e.fields) ∧
    ∀ fields : FieldList,
      (∀ name, (fields.filter fun field => field.1 = name) =
        e.fields.filter fun field => field.1 = name) →
      { e with fields }.render = e.render := by
  refine ⟨⟨_, _, e.toList_render, e.tells_json⟩, fun _ => render_eq_iff, fun fields h => ?_⟩
  have hlast : lastValue? fields = lastValue? e.fields := by
    funext name
    rw [lastValue?, h, lastValue?]
  exact render_eq_iff.mpr ⟨rfl, rfl, hlast⟩

/-- A name that is given twice is written once, wherever the other name stands. -/
theorem render_tells_mixed :
    (⟨.warn, "A\"B", [("a", "\\"), ("b", "1\n"), ("b", "2")]⟩ : Entry).render =
      (⟨.warn, "A\"B", [("b", "1\n"), ("a", "\\"), ("b", "2")]⟩ : Entry).render ∧
    (⟨.warn, "A\"B", [("b", "1\n"), ("a", "\\"), ("b", "2")]⟩ : Entry).render =
      "\x7b\"event\":\"A\\\"B\",\"severity\":\"WARN\",\"a\":\"\\\\\",\"b\":\"2\"\x7d\n" := by
  refine ⟨(render_tells ⟨.warn, _, _⟩).2.2 _ fun name => ?_, ?_⟩
  · by_cases ha : "a" = name
    · subst ha
      rfl
    · simp [List.filter_cons, ha]
  · rfl

end Entry

end Postulate.Log
