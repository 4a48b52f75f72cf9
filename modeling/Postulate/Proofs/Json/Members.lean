import Mathlib.Data.List.Perm.Basic
import Mathlib.Tactic.Lemma
import Postulate.Json.Basic

/-!
# The members of an object by their names

An object keeps its members in their order and may give a name more than once. What it says of a
name is the list of the values that are given to it (`Json.valuesOf`).
-/

namespace Postulate.Json

/-- The members of an object, with their names where these denote a text. -/
abbrev Members := List (Option String × Json)

/-- The values that are given to a name. -/
def valuesOf (members : Members) (name : String) : List Json :=
  (members.filter fun member => member.1 = some name).map Prod.snd

variable {members members' : Members} {name : String} {value : Json}

@[simp] lemma valuesOf_cons_self (members : Members) (name : String) (value : Json) :
    valuesOf ((some name, value) :: members) name = value :: valuesOf members name := by
  simp [valuesOf]

lemma valuesOf_cons_of_ne {name' : Option String} (h : name' ≠ some name) (members : Members)
    (value : Json) : valuesOf ((name', value) :: members) name = valuesOf members name := by
  simp [valuesOf, h]

lemma valuesOf_append (members members' : Members) (name : String) :
    valuesOf (members ++ members') name = valuesOf members name ++ valuesOf members' name := by
  rw [valuesOf, List.filter_append, List.map_append, valuesOf, valuesOf]

/-- A name that no member has is given no value. -/
lemma valuesOf_eq_nil (h : some name ∉ members.map Prod.fst) : valuesOf members name = [] := by
  have hfilter : members.filter (fun member => member.1 = some name) = [] :=
    List.filter_eq_nil_iff.mpr fun member hmember hname =>
      h (List.mem_map.mpr ⟨member, hmember, by simpa using hname⟩)
  rw [valuesOf, hfilter, List.map_nil]

/-- Where no name comes twice, a name is given the value of its member and no other. -/
lemma valuesOf_eq_singleton (hunique : (members.map Prod.fst).Nodup)
    (hmember : (some name, value) ∈ members) : valuesOf members name = [value] := by
  induction members with
  | nil => cases hmember
  | cons first members ih =>
    rw [List.map_cons, List.nodup_cons] at hunique
    obtain heq | hmember := List.mem_cons.mp hmember
    · subst heq
      rw [valuesOf_cons_self, valuesOf_eq_nil hunique.1]
    · have hne : first.1 ≠ some name := fun heq =>
        hunique.1 (heq ▸ List.mem_map.mpr ⟨_, hmember, rfl⟩)
      rw [valuesOf_cons_of_ne hne members first.2, ih hunique.2 hmember]

lemma valuesOf_perm (h : members.Perm members') (name : String) :
    (valuesOf members name).Perm (valuesOf members' name) :=
  (h.filter _).map _

/-- The values of a name are not changed by leaving out members under other names. -/
lemma valuesOf_filter {p : Option String × Json → Bool} (h : ∀ value, p (some name, value) = true)
    (members : Members) : valuesOf (members.filter p) name = valuesOf members name := by
  rw [valuesOf, List.filter_filter, valuesOf]
  congr 1
  refine List.filter_congr fun member _ => ?_
  obtain ⟨name', value⟩ := member
  by_cases heq : name' = some name
  · simp [heq, h]
  · simp [heq]

end Postulate.Json
