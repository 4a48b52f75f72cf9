import Postulate.Log.Event
import Postulate.Proofs.Json.Members
import Postulate.Proofs.Json.Text
import Postulate.Proofs.Log.Line

/-!
# The members of a log line

The event and the severity stand in front of the fields of a line, and among the fields no name
comes twice. So a name is given at most the value that stands in front and, behind it, its last
value as a field (`Entry.valuesOf_members`). A line is unambiguous (`Entry.Unambiguous`) when no
name comes twice in it: then it does not matter which value a reader keeps. The main result is
`Entry.unambiguous_iff`: what makes a line ambiguous is a field under one of the two names that
stand in front.
-/

namespace Postulate.Log

open Json (Members valuesOf)

/-- The rule by which a reader keeps one of the values that are given to a name. -/
def IsRule (keep : List Json → Option Json) : Prop :=
  ∀ values, values ≠ [] → ∃ value ∈ values, keep values = some value

lemma IsRule.singleton {keep : List Json → Option Json} (h : IsRule keep) (value : Json) :
    keep [value] = some value := by
  obtain ⟨kept, hmem, hkeep⟩ := h [value] (List.cons_ne_nil _ _)
  rw [hkeep, List.mem_singleton.mp hmem]

namespace Entry

/-- The names that stand in front of the fields. -/
def frontNames : List String := ["event", "severity"]

/-- The members that stand in front of the fields. -/
def front (e : Entry) : Members :=
  [(some "event", .ofString e.event), (some "severity", .ofString e.severity.name)]

/-- The fields of a line as members. -/
def fieldMembers (e : Entry) : Members :=
  (sortedFields e.fields).map fun field => (some field.1, .ofString field.2)

/-- The members of a line. -/
def members (e : Entry) : Members := e.front ++ e.fieldMembers

/-- A reader with a rule recovers the entry from the members: the event, the severity and the last
value of every field. -/
structure Recovers (keep : List Json → Option Json) (members : Members) (e : Entry) : Prop where
  event : keep (valuesOf members "event") = some (.ofString e.event)
  severity : keep (valuesOf members "severity") = some (.ofString e.severity.name)
  fields : ∀ name value, lastValue? e.fields name = some value →
    keep (valuesOf members name) = some (.ofString value)

/-- No name comes twice among the members, and every reader recovers the entry from them. -/
structure Unambiguous (members : Members) (e : Entry) : Prop where
  unique : (members.map Prod.fst).Nodup
  recovers : ∀ keep, IsRule keep → Recovers keep members e

variable {e : Entry} {name value : String}

lemma json_eq (e : Entry) : e.json = .object e.members := by
  rw [json, Json.ofMembers, members, front, fieldMembers, List.map_cons, List.map_cons,
    List.map_map]
  rfl

lemma ofText?_line (e : Entry) : Json.ofText? e.json.render = some (.object e.members) := by
  rw [← json_eq, Json.ofText?_render e.isWritable_json]

/-! ## The names of the members -/

lemma map_front (e : Entry) : e.front.map Prod.fst = frontNames.map some := rfl

lemma map_fieldMembers (e : Entry) :
    e.fieldMembers.map Prod.fst = ((sortedFields e.fields).map Prod.fst).map some := by
  rw [fieldMembers, List.map_map, List.map_map]
  rfl

/-- Fields that are in order have different names. -/
lemma nodup_fieldMembers (e : Entry) : (e.fieldMembers.map Prod.fst).Nodup := by
  rw [map_fieldMembers]
  refine List.Nodup.map (Option.some_injective _) ?_
  exact List.pairwise_map.mpr ((pairwise_sortedFields e.fields).imp fun h =>
    precedes_or_precedes_iff.mp (.inl h))

lemma some_mem_map_fieldMembers :
    some name ∈ e.fieldMembers.map Prod.fst ↔ name ∈ e.fields.map Prod.fst := by
  rw [map_fieldMembers, List.mem_map_of_injective (Option.some_injective _), mem_map_sortedFields]

/-- A name comes twice just if a field has a name that stands in front. -/
lemma nodup_members_iff :
    (e.members.map Prod.fst).Nodup ↔ ∀ field ∈ e.fields, field.1 ∉ frontNames := by
  -- in each of the two parts no name comes twice, so it can only be in both
  rw [members, List.map_append, List.nodup_append', map_front]
  have hfront : (frontNames.map some).Nodup := by decide
  rw [and_iff_right hfront, and_iff_right e.nodup_fieldMembers, List.disjoint_comm]
  constructor
  · intro hdisjoint field hfield hname
    have hmem : some field.1 ∈ e.fieldMembers.map Prod.fst :=
      some_mem_map_fieldMembers.mpr (List.mem_map_of_mem hfield)
    exact hdisjoint hmem (List.mem_map_of_mem hname)
  · intro h key hkey hfront
    obtain ⟨name, hname, rfl⟩ := List.mem_map.mp hfront
    obtain ⟨field, hfield, rfl⟩ := List.mem_map.mp (some_mem_map_fieldMembers.mp hkey)
    exact h field hfield hname

/-! ## The values of a name -/

/-- What is given to a name among the fields is its last value. -/
lemma valuesOf_fieldMembers (e : Entry) (name : String) :
    valuesOf e.fieldMembers name = (lastValue? e.fields name).toList.map .ofString := by
  cases hlast : lastValue? e.fields name with
  | none =>
    have hnot : name ∉ e.fields.map Prod.fst := lastValue?_eq_none_iff.mp hlast
    exact Json.valuesOf_eq_nil fun h => hnot (some_mem_map_fieldMembers.mp h)
  | some value =>
    have hmem : (some name, Json.ofString value) ∈ e.fieldMembers :=
      List.mem_map.mpr ⟨(name, value), mem_sortedFields.mpr hlast, rfl⟩
    exact Json.valuesOf_eq_singleton e.nodup_fieldMembers hmem

lemma valuesOf_members (e : Entry) (name : String) : valuesOf e.members name =
    valuesOf e.front name ++ (lastValue? e.fields name).toList.map .ofString := by
  rw [members, Json.valuesOf_append, valuesOf_fieldMembers]

/-- Where no name comes twice, a reader keeps the value of each member, whatever its rule. -/
lemma recovers_of_nodup (h : (e.members.map Prod.fst).Nodup) {keep : List Json → Option Json}
    (hkeep : IsRule keep) : Recovers keep e.members e := by
  have hvalue {name : String} {value : Json} (hmem : (some name, value) ∈ e.members) :
      keep (valuesOf e.members name) = some value := by
    rw [Json.valuesOf_eq_singleton h hmem, hkeep.singleton]
  refine ⟨hvalue ?_, hvalue ?_, fun name value hlast => hvalue ?_⟩
  · exact List.mem_append_left _ (by simp [front])
  · exact List.mem_append_left _ (by simp [front])
  · exact List.mem_append_right _
      (List.mem_map.mpr ⟨(name, value), mem_sortedFields.mpr hlast, rfl⟩)

lemma unambiguous_members_iff :
    Unambiguous e.members e ↔ ∀ field ∈ e.fields, field.1 ∉ frontNames := by
  rw [← nodup_members_iff]
  exact ⟨fun h => h.unique, fun h => ⟨h, fun _ hkeep => recovers_of_nodup h hkeep⟩⟩

/-- The fields of the events of a theory have names of their own, so a theory writes unambiguous
lines only. -/
lemma unambiguous_event (event : Event) : Unambiguous event.entry.members event.entry := by
  rw [unambiguous_members_iff]
  change ∀ field ∈ event.fields, field.1 ∉ frontNames
  cases event <;> simp [Event.fields, frontNames]

/-- A line is the text of one object, in which a name is given the value that stands in front, if it
is the name of the event or of the severity, and behind it its last value as a field. So the line is
unambiguous just if no field has one of these two names. -/
theorem unambiguous_iff (e : Entry) : ∃ line members, e.render.toList = line ++ ['\n'] ∧
    Json.IsText (.object members) line ∧
    (∀ name, valuesOf members name =
      valuesOf e.front name ++ (lastValue? e.fields name).toList.map .ofString) ∧
    (Unambiguous members e ↔ ∀ field ∈ e.fields, field.1 ∉ frontNames) :=
  ⟨e.json.render, e.members, e.toList_render, Json.ofText?_eq_some_iff.mp e.ofText?_line,
    e.valuesOf_members, unambiguous_members_iff⟩

/-- A field under the name of the event is a second member of this name, even if its value is the
event. If it is not, a reader that keeps the last value does not recover the event. -/
theorem ambiguous_event :
    (∃ members,
      (⟨.info, "E", [("event", "E")]⟩ : Entry).render =
        "\x7b\"event\":\"E\",\"severity\":\"INFO\",\"event\":\"E\"\x7d\n" ∧
      Json.ofText? "\x7b\"event\":\"E\",\"severity\":\"INFO\",\"event\":\"E\"\x7d".toList =
        some (.object members) ∧
      ¬(members.map Prod.fst).Nodup) ∧
    ∃ members,
      (⟨.info, "E", [("event", "F")]⟩ : Entry).render =
        "\x7b\"event\":\"E\",\"severity\":\"INFO\",\"event\":\"F\"\x7d\n" ∧
      Json.ofText? "\x7b\"event\":\"E\",\"severity\":\"INFO\",\"event\":\"F\"\x7d".toList =
        some (.object members) ∧
      IsRule List.getLast? ∧
      (valuesOf members "event").getLast? = some (.ofString "F") := by
  have hrule : IsRule List.getLast? := fun values h =>
    ⟨values.getLast h, List.getLast_mem h, List.getLast?_eq_some_getLast h⟩
  exact ⟨⟨_, rfl, rfl, by decide⟩, ⟨_, rfl, rfl, hrule, rfl⟩⟩

end Entry

end Postulate.Log
