import Postulate.Proofs.Json.Members
import Postulate.Proofs.Json.Text
import Postulate.Proofs.Json.Units
import Postulate.Proofs.Theory.Configuration

/-!
# A configuration depends on its known members

The members of an object describe a configuration (`Config.Describes`) when every name is a text,
and each known member is either given once, with the value of the configuration, or missing, where
the configuration has the default. Nothing is said about the order, or about members under other
names.

Reading the members one after the other sets a part of the configuration each time and leaves the
other parts alone. What it makes of the members that are left, from what it has met so far, is told
by `ofMembers?_eq_some_iff`; from the start on, that is the configuration that the members describe.
An array sets the same parts in their order, as the object does that gives its items in that order.

The main result is `ofText_known_members`. It is about JSON texts, whatever the white space in them.
-/

namespace Postulate.Config

open Json (IsText Members valuesOf utf16 StringUnit)
open Log (Severity)

/-- The value stands for a part of the configuration. -/
def Has (c : Config) (value : Json) : Member → Prop
  | .name => value = .ofString? c.name
  | .loggingEnabled => value = .bool c.loggingEnabled
  | .logSeverity => value = .ofString c.logSeverity.name ∨
      value = .ofMembers [(c.logSeverity.name, .null)]

/-- What counts where a member is missing: no name, no logging, and the severity of normal work. -/
def Member.default : Member → Json
  | name => .null
  | loggingEnabled => .bool false
  | logSeverity => .ofString "INFO"

/-- The values that are given to a member determine a part of the configuration. -/
inductive Determines (c : Config) (member : Member) : List Json → Prop
  | missing (has : c.Has member.default member) : Determines c member []
  | given {value : Json} (has : c.Has value member) : Determines c member [value]

/-- The members describe the configuration. -/
structure Describes (members : Members) (c : Config) : Prop where
  names : ∀ member ∈ members, member.1 ≠ none
  parts : ∀ member : Member, Determines c member (valuesOf members member.key)

variable {c d : Config} {member : Member} {met : List Member} {value : Json}
  {members members' : Members} {items : List Json} {text : String}

/-! ## Setting one part -/

/-- A part of two configurations is the same. -/
def SameIn (c d : Config) : Member → Prop
  | .name => d.name = c.name
  | .loggingEnabled => d.loggingEnabled = c.loggingEnabled
  | .logSeverity => d.logSeverity = c.logSeverity

lemma eq_iff_forall_sameIn : d = c ↔ ∀ member, SameIn c d member := by
  constructor
  · rintro rfl member
    cases member <;> rfl
  · intro h
    obtain ⟨name, loggingEnabled, logSeverity⟩ := d
    obtain ⟨rfl, rfl, rfl⟩ : _ = _ ∧ _ = _ ∧ _ = _ :=
      ⟨h .name, h .loggingEnabled, h .logSeverity⟩
    rfl

lemma SameIn.symm (h : SameIn c d member) : SameIn d c member := by
  cases member <;> exact Eq.symm h

lemma SameIn.trans {e : Config} (hcd : SameIn c d member) (hde : SameIn d e member) :
    SameIn c e member := by
  cases member <;> exact Eq.trans hde hcd

lemma SameIn.has (h : SameIn c d member) (hhas : c.Has value member) : d.Has value member := by
  cases member <;> simp_all only [SameIn, Has]

lemma severity?_eq_some_iff {severity : Severity} : severity? value = some severity ↔
    value = .ofString severity.name ∨ value = .ofMembers [(severity.name, .null)] := by
  unfold severity?
  split
  case h_1 name => simp [Severity.ofName?_eq_some_iff, Json.ofString, Json.ofMembers]
  case h_2 name => simp [Severity.ofName?_eq_some_iff, Json.ofString, Json.ofMembers]
  case h_3 hstring hobject =>
    refine iff_of_false (by simp) ?_
    rintro (rfl | rfl)
    · exact hstring _ rfl
    · exact hobject _ rfl

/-- The configuration to start from has the defaults. -/
lemma sameIn_default_iff : SameIn {} d member ↔ d.Has member.default member := by
  cases member with
  | name =>
    change d.name = none ↔ Json.null = Json.ofString? d.name
    cases d.name with
    | none => exact iff_of_true rfl rfl
    | some name => exact iff_of_false nofun nofun
  | loggingEnabled =>
    change d.loggingEnabled = false ↔ Json.bool false = Json.bool d.loggingEnabled
    rw [Json.bool.injEq, eq_comm]
  | logSeverity =>
    change d.logSeverity = .info ↔ Json.ofString "INFO" = .ofString d.logSeverity.name ∨
      Json.ofString "INFO" = .ofMembers [(d.logSeverity.name, .null)]
    have hinfo : severity? (.ofString "INFO") = some .info := rfl
    rw [← severity?_eq_some_iff, hinfo, Option.some.injEq, eq_comm]

/-- The configuration with one part taken from another one. -/
def withPart (c d : Config) : Member → Config
  | .name => { c with name := d.name }
  | .loggingEnabled => { c with loggingEnabled := d.loggingEnabled }
  | .logSeverity => { c with logSeverity := d.logSeverity }

lemma sameIn_withPart (c d : Config) (member : Member) :
    SameIn d (c.withPart d member) member := by
  cases member <;> rfl

lemma sameIn_withPart_of_ne {other : Member} (h : other ≠ member) (c d : Config) :
    SameIn c (c.withPart d member) other := by
  cases member <;> cases other <;> first | rfl | exact absurd rfl h

lemma set_of_has (h : d.Has value member) (c : Config) :
    c.set member value = some (c.withPart d member) := by
  cases member with
  | name =>
    obtain rfl : value = .ofString? d.name := h
    exact set_name c d.name
  | loggingEnabled =>
    obtain rfl : value = .bool d.loggingEnabled := h
    rfl
  | logSeverity =>
    rw [set, severity?_eq_some_iff.mpr h]
    rfl

/-- A member sets its part, and the other parts stay what they are. -/
lemma has_of_set (h : c.set member value = some d) :
    d.Has value member ∧ ∀ other, other ≠ member → SameIn c d other := by
  have hpart : d.Has value member ∧ d = c.withPart d member := by
    unfold set at h
    split at h
    case h_1 | h_2 | h_3 =>
      cases h
      exact ⟨rfl, rfl⟩
    case h_4 =>
      obtain ⟨severity, hseverity, rfl⟩ := Option.map_eq_some_iff.mp h
      exact ⟨severity?_eq_some_iff.mp hseverity, rfl⟩
    case h_5 => cases h
  refine ⟨hpart.1, fun other hother => ?_⟩
  rw [hpart.2]
  exact sameIn_withPart_of_ne hother c d

/-! ## Reading the members of an object -/

/-- What the values of a member make of a part of a configuration, after some members have been met:
without a value the part stays, and a value is only there if the member has not been met. -/
inductive Brings (c : Config) (met : List Member) (d : Config) (member : Member) :
    List Json → Prop
  | missing (same : SameIn c d member) : Brings c met d member []
  | given {value : Json} (fresh : member ∉ met) (has : d.Has value member) :
      Brings c met d member [value]

/-- The members bring one configuration to the other, after some members have been met. -/
structure Completes (c : Config) (met : List Member) (members : Members) (d : Config) : Prop where
  names : ∀ member ∈ members, member.1 ≠ none
  parts : ∀ member : Member, Brings c met d member (valuesOf members member.key)

lemma key_injective : Function.Injective Member.key := by
  intro a b h
  have hfind := find?_key a
  rw [h, find?_key] at hfind
  exact (Option.some.inj hfind).symm

/-- A value for a member is none for another one. -/
lemma valuesOf_cons_of_other {other : Member} (h : other ≠ member) :
    valuesOf ((some member.key, value) :: members) other.key = valuesOf members other.key :=
  Json.valuesOf_cons_of_ne (fun heq => h (key_injective (Option.some.inj heq)).symm) members value

lemma completes_nil : Completes c met [] d ↔ d = c := by
  rw [eq_iff_forall_sameIn]
  constructor
  · intro h member
    cases h.parts member with
    | missing same => exact same
  · exact fun h => ⟨by simp, fun member => .missing (h member)⟩

/-- A member under another name changes nothing. -/
lemma completes_cons_of_unknown {key : String} (h : ∀ member : Member, member.key ≠ key)
    (value : Json) :
    Completes c met ((some key, value) :: members) d ↔ Completes c met members d := by
  have hvalues (member : Member) :
      valuesOf ((some key, value) :: members) member.key = valuesOf members member.key :=
    Json.valuesOf_cons_of_ne (fun heq => h member (Option.some.inj heq).symm) members value
  constructor
  · exact fun hcompletes => ⟨fun m hm => hcompletes.names m (List.mem_cons_of_mem _ hm),
      fun member => hvalues member ▸ hcompletes.parts member⟩
  · exact fun hcompletes => ⟨List.forall_mem_cons.mpr ⟨nofun, hcompletes.names⟩,
      fun member => (hvalues member).symm ▸ hcompletes.parts member⟩

/-- Whether another member has been met does not matter to a part that stays the same. -/
lemma brings_congr {c' : Config} {other : Member} {values : List Json} (hne : other ≠ member)
    (hsame : SameIn c c' other) :
    Brings c met d other values ↔ Brings c' (member :: met) d other values := by
  have hfresh : other ∉ member :: met ↔ other ∉ met := by simp [hne]
  constructor
  · rintro (same | ⟨fresh, has⟩)
    · exact .missing (hsame.symm.trans same)
    · exact .given (hfresh.mpr fresh) has
  · rintro (same | ⟨fresh, has⟩)
    · exact .missing (hsame.trans same)
    · exact .given (hfresh.mp fresh) has

/-- A known member that has not been met sets its part, and must not come again. -/
lemma completes_cons (hfresh : member ∉ met) :
    Completes c met ((some member.key, value) :: members) d ↔
      ∃ c', c.set member value = some c' ∧ Completes c' (member :: met) members d := by
  have hself := Json.valuesOf_cons_self members member.key value
  constructor
  · intro h
    have hvalues := h.parts member
    rw [hself] at hvalues
    -- a member has one value at most, so it does not come again
    generalize hrest : valuesOf members member.key = rest at hvalues
    obtain _ | ⟨-, hhas⟩ := hvalues
    refine ⟨_, set_of_has hhas c, fun m hm => h.names m (List.mem_cons_of_mem _ hm),
      fun other => ?_⟩
    by_cases hne : other = member
    · rw [hne, hrest]
      exact .missing (sameIn_withPart c d member).symm
    · have hbrings := h.parts other
      rw [valuesOf_cons_of_other hne] at hbrings
      exact (brings_congr hne (sameIn_withPart_of_ne hne c d)).mp hbrings
  · rintro ⟨c', hset, h⟩
    obtain ⟨hhas, hsame⟩ := has_of_set hset
    refine ⟨List.forall_mem_cons.mpr ⟨nofun, h.names⟩, fun other => ?_⟩
    by_cases hne : other = member
    · rw [hne, hself]
      have hvalues := h.parts member
      generalize valuesOf members member.key = rest at hvalues
      obtain same | ⟨fresh, -⟩ := hvalues
      · exact .given hfresh (same.has hhas)
      · exact absurd List.mem_cons_self fresh
    · rw [valuesOf_cons_of_other hne]
      exact (brings_congr hne (hsame other hne)).mpr (h.parts other)

/-- Reading the members that are left, after some have been met. -/
lemma ofMembers?_eq_some_iff : ofMembers? c met members = some d ↔ Completes c met members d := by
  induction members generalizing c met with
  | nil => rw [completes_nil, ofMembers?, Option.some.injEq, eq_comm]
  | cons first members ih =>
    obtain ⟨key, value⟩ := first
    cases key with
    | none =>
      refine iff_of_false ?_ fun h => h.names _ List.mem_cons_self rfl
      simp [ofMembers?]
    | some key =>
      by_cases hknown : ∃ member : Member, member.key = key
      · obtain ⟨member, rfl⟩ := hknown
        by_cases hmet : member ∈ met
        · -- a value for a member that has been met
          have hnot : ¬Completes c met ((some member.key, value) :: members) d := by
            intro h
            have hvalues := h.parts member
            rw [Json.valuesOf_cons_self] at hvalues
            generalize valuesOf members member.key = rest at hvalues
            obtain _ | ⟨fresh, -⟩ := hvalues
            exact fresh hmet
          refine iff_of_false ?_ hnot
          simp [ofMembers?, find?_key, hmet]
        · rw [ofMembers?_cons hmet, completes_cons hmet, Option.bind_eq_some_iff]
          exact exists_congr fun c' => and_congr_right fun _ => ih
      · have hunknown : ∀ member : Member, member.key ≠ key := fun member heq =>
          hknown ⟨member, heq⟩
        have hfind : (Member.all.find? fun member => member.key = key) = none := by
          simpa using fun member _ => hunknown member
        rw [completes_cons_of_unknown hunknown, ofMembers?, hfind]
        exact ih

lemma ofJson?_object_eq_some_iff : ofJson? (.object members) = some c ↔ Describes members c := by
  rw [ofJson?, ofMembers?_eq_some_iff]
  constructor
  · refine fun h => ⟨h.names, fun member => ?_⟩
    have hbrings := h.parts member
    generalize valuesOf members member.key = values at hbrings
    obtain same | ⟨-, has⟩ := hbrings
    · exact .missing (sameIn_default_iff.mp same)
    · exact .given has
  · refine fun h => ⟨h.names, fun member => ?_⟩
    have hdetermines := h.parts member
    generalize valuesOf members member.key = values at hdetermines
    obtain has | has := hdetermines
    · exact .missing (sameIn_default_iff.mpr has)
    · exact .given (by simp) has

/-! ## What the outcome depends on -/

/-- A member on which the outcome depends: one whose name is known, or is no text. -/
def Matters (member : Option String × Json) : Bool :=
  member.1.all fun name => Member.all.any fun known => known.key = name

lemma describes_filter : Describes (members.filter Matters) c ↔ Describes members c := by
  have hvalues (member : Member) :
      valuesOf (members.filter Matters) member.key = valuesOf members member.key :=
    Json.valuesOf_filter (fun _ => by cases member <;> rfl) members
  constructor
  · refine fun h => ⟨fun m hm hnone => ?_, fun member => hvalues member ▸ h.parts member⟩
    have hmatters : Matters m = true := by
      rw [Matters, hnone]
      rfl
    exact h.names m (List.mem_filter.mpr ⟨hm, hmatters⟩) hnone
  · exact fun h => ⟨fun m hm => h.names m (List.mem_of_mem_filter hm),
      fun member => (hvalues member).symm ▸ h.parts member⟩

lemma Describes.of_perm (h : Describes members c) (hperm : members.Perm members') :
    Describes members' c := by
  refine ⟨fun m hm => h.names m (hperm.mem_iff.mpr hm), fun member => ?_⟩
  have hvalues := Json.valuesOf_perm hperm member.key
  have hdetermines := h.parts member
  generalize valuesOf members member.key = values at hvalues hdetermines
  obtain has | has := hdetermines
  · rw [List.nil_perm.mp hvalues]
    exact .missing has
  · rw [List.perm_singleton.mp hvalues.symm]
    exact .given has

lemma describes_congr (h : (members'.filter Matters).Perm (members.filter Matters)) :
    Describes members' c ↔ Describes members c := by
  have hfiltered : Describes (members'.filter Matters) c ↔ Describes (members.filter Matters) c :=
    ⟨fun hdescribes => hdescribes.of_perm h, fun hdescribes => hdescribes.of_perm h.symm⟩
  exact describes_filter.symm.trans (hfiltered.trans describes_filter)

lemma determines_default : Determines c member [member.default] ↔ Determines c member [] := by
  constructor
  · rintro (_ | has)
    exact .missing has
  · rintro (has | _)
    exact .given has

/-- A missing member may be given its default. -/
lemma describes_default (h : valuesOf members member.key = []) :
    Describes ((some member.key, member.default) :: members) c ↔ Describes members c := by
  have hparts (other : Member) :
      Determines c other (valuesOf ((some member.key, member.default) :: members) other.key) ↔
        Determines c other (valuesOf members other.key) := by
    by_cases hne : other = member
    · rw [hne, Json.valuesOf_cons_self, h, determines_default]
    · rw [valuesOf_cons_of_other hne]
  constructor
  · exact fun hdescribes => ⟨fun m hm => hdescribes.names m (List.mem_cons_of_mem _ hm),
      fun other => (hparts other).mp (hdescribes.parts other)⟩
  · exact fun hdescribes => ⟨List.forall_mem_cons.mpr ⟨nofun, hdescribes.names⟩,
      fun other => (hparts other).mpr (hdescribes.parts other)⟩

lemma not_describes_of_twice (h : 2 ≤ (valuesOf members member.key).length) :
    ¬Describes members c := by
  intro hdescribes
  have hdetermines := hdescribes.parts member
  generalize valuesOf members member.key = values at h hdetermines
  obtain _ | _ := hdetermines
  · exact absurd h (by decide)
  · exact absurd h (Nat.lt_irrefl 1)

/-! ### Arrays -/

/-- The members that give the items of an array, in their order, to the known names. -/
def assigned (items : List Json) : Members :=
  ["name", "logging_enabled", "log_severity"].zipWith (fun name item => (some name, item)) items

lemma ofItems?_eq {order : List Member} (hnodup : order.Nodup) (hfresh : ∀ m ∈ order, m ∉ met)
    (hlength : items.length ≤ order.length) : ofItems? c order items =
      ofMembers? c met
        ((order.map Member.key).zipWith (fun name item => (some name, item)) items) := by
  induction order generalizing c met items with
  | nil =>
    obtain rfl : items = [] := by simpa using hlength
    rfl
  | cons member order ih =>
    cases items with
    | nil => rfl
    | cons item items =>
      rw [List.nodup_cons] at hnodup
      -- the names that come later differ from the one that is met now
      have hfresh' : ∀ m ∈ order, m ∉ member :: met := by
        intro m hm
        rw [List.mem_cons, not_or]
        exact ⟨fun heq => hnodup.1 (heq ▸ hm), hfresh m (List.mem_cons_of_mem _ hm)⟩
      rw [List.map_cons, List.zipWith_cons_cons, ofMembers?_cons (hfresh member (by simp)),
        ofItems?]
      congr 1
      funext c
      exact ih hnodup.2 hfresh' (Nat.le_of_succ_le_succ hlength)

lemma ofItems?_eq_none {order : List Member} (h : order.length < items.length) :
    ofItems? c order items = none := by
  induction order generalizing c items with
  | nil =>
    cases items with
    | nil => cases h
    | cons => rfl
  | cons member order ih =>
    cases items with
    | nil => cases h
    | cons item items =>
      rw [ofItems?, Option.bind_eq_none_iff]
      exact fun c _ => ih (Nat.lt_of_succ_lt_succ h)

lemma ofJson?_array (h : items.length ≤ 3) :
    ofJson? (.array items) = ofJson? (.object (assigned items)) :=
  ofItems?_eq (by decide) (by simp) h

/-! ## Texts -/

lemma ofText_of_isText {j : Json} (h : IsText j text.toList) :
    ofText text = (ofJson? j).elim (.error .malformed) validate := by
  rw [ofText, Json.ofText?_eq_some_iff.mpr h, Option.bind_some]
  cases ofJson? j with
  | none => rfl
  | some c => rfl

lemma ofText_eq_malformed {j : Json} (h : IsText j text.toList) (hnone : ofJson? j = none) :
    ofText text = .error .malformed := by
  rw [ofText_of_isText h, hnone, Option.elim_none]

lemma ofText_congr {j j' : Json} {text' : String} (h : IsText j text.toList)
    (h' : IsText j' text'.toList) (heq : ofJson? j' = ofJson? j) : ofText text' = ofText text := by
  rw [ofText_of_isText h, ofText_of_isText h', heq]

lemma ofText_eq_ok_iff_describes (h : IsText (.object members) text.toList) :
    ofText text = .ok c ↔ Describes members c ∧ ∀ name ∈ c.name, Text.trim name.toList ≠ [] := by
  rw [ofText_of_isText h, ← ofJson?_object_eq_some_iff]
  cases ofJson? (.object members) with
  | none => exact iff_of_false nofun nofun
  | some d =>
    change d.validate = .ok c ↔ some d = some c ∧ _
    rw [validate_eq_ok_iff, Option.some.injEq, eq_comm]
    constructor
    · rintro ⟨rfl, hname⟩
      exact ⟨rfl, hname⟩
    · rintro ⟨rfl, hname⟩
      exact ⟨rfl, hname⟩

/-- How the outcome of reading a text depends on the members of the object that it is a text of. -/
structure DependsOnKnown (text : String) (members : Members) : Prop where
  /-- A configuration that is read is the one that the members describe. -/
  outcome : ∀ c, ofText text = .ok c ↔
    Describes members c ∧ ∀ name ∈ c.name, Text.trim name.toList ≠ []
  /-- Neither the order counts, nor white space, nor what is given to other names. -/
  same : ∀ (text' : String) (members' : Members), IsText (.object members') text'.toList →
    (members'.filter Matters).Perm (members.filter Matters) → ofText text' = ofText text
  missing : ∀ (text' : String) (member : Member), valuesOf members member.key = [] →
    IsText (.object ((some member.key, member.default) :: members)) text'.toList →
    ofText text' = ofText text
  twice : ∀ member : Member, 2 ≤ (valuesOf members member.key).length →
    ofText text = .error .malformed

lemma dependsOnKnown (h : IsText (.object members) text.toList) : DependsOnKnown text members := by
  have hcongr {members' : Members} (hiff : ∀ c, Describes members' c ↔ Describes members c) :
      ofJson? (.object members') = ofJson? (.object members) := by
    refine Option.ext fun c => ?_
    rw [ofJson?_object_eq_some_iff, ofJson?_object_eq_some_iff, hiff]
  refine ⟨fun c => ofText_eq_ok_iff_describes h, fun text' members' h' hperm => ?_,
    fun text' member hnone h' => ?_, fun member htwice => ?_⟩
  · exact ofText_congr h h' (hcongr fun c => describes_congr hperm)
  · exact ofText_congr h h' (hcongr fun c => describes_default hnone)
  · have hnone : ofJson? (.object members) = none :=
      Option.eq_none_iff_forall_ne_some.mpr fun c hc =>
        not_describes_of_twice htwice (ofJson?_object_eq_some_iff.mp hc)
    exact ofText_eq_malformed h hnone

/-- The outcome of reading an object depends on its known members alone: on what is given to them,
and on whether a name is no text. The order of the members and the white space in the text do not
count, nor do members under other names, whatever their values. A missing member counts as its
default, and one that is given twice is an error. An array of at most three items is read as the
object that gives them to the known names in their order, and a longer one is an error. Which text a
name is, is told by its code units in UTF-16. -/
theorem ofText_known_members :
    (∀ (text : String) (members : Members), IsText (.object members) text.toList →
      DependsOnKnown text members) ∧
    (∀ (text : String) (items : List Json), IsText (.array items) text.toList →
      (items.length ≤ 3 → ∀ text' : String, IsText (.object (assigned items)) text'.toList →
        ofText text' = ofText text) ∧
      (3 < items.length → ofText text = .error .malformed)) ∧
    ∀ (units : List StringUnit) (written : List Char) (name : String),
      Json.Token.IsLexeme (.string units) written →
      (Json.Reader.stringText units = some name ↔
        units.flatMap StringUnit.utf16 = name.toList.flatMap utf16) := by
  refine ⟨fun text members h => dependsOnKnown h, fun text items h => ⟨fun hlength text' h' => ?_,
    fun hlength => ?_⟩, fun units written name h => Json.stringText_eq_some_iff h.fit⟩
  · exact ofText_congr h h' (ofJson?_array hlength).symm
  · exact ofText_eq_malformed h (ofItems?_eq_none hlength)

/-- The members of an object in another order, with more white space and without a value that is
skipped, nested as it is; an array; a name that is given twice, once with an escape. -/
theorem ofText_known_members_reordered :
    ofText " \x7b \"name\" : \"a\",\n\"log_severity\":\"WARN\"\t\x7d" =
      ofText "\x7b\"log_severity\":\"WARN\",\"x\":[1e9,\x7b\"name\":[]\x7d],\"name\":\"a\"\x7d" ∧
    ofText "\x7b\"log_severity\":\"WARN\",\"x\":[1e9,\x7b\"name\":[]\x7d],\"name\":\"a\"\x7d" =
      .ok ⟨some "a", false, .warn⟩ ∧
    ofText "\x7b\"name\":\"a\",\"logging_enabled\":true\x7d" = ofText "[\"a\", true]" ∧
    ofText "[null,true,\"INFO\",0]" = .error .malformed ∧
    ofText "\x7b\"name\":\"a\",\"na\\u006de\":\"a\"\x7d" = .error .malformed := by
  have hobject := ofText_known_members.1
  have harray := ofText_known_members.2.1
  have htext {j : Json} {text : String} (h : Json.ofText? text.toList = some j) :
      IsText j text.toList := Json.ofText?_eq_some_iff.mp h
  refine ⟨?_, rfl, ?_, ?_, ?_⟩
  · exact (hobject _ [(some "log_severity", .ofString "WARN"),
      (some "x", .array [.number "1e9".toList, .object [(some "name", .array [])]]),
      (some "name", .ofString "a")] (htext rfl)).same _
      [(some "name", .ofString "a"), (some "log_severity", .ofString "WARN")] (htext rfl)
      (List.Perm.swap _ _ _)
  · exact (harray _ [.ofString "a", .bool true] (htext rfl)).1 (by decide) _ (htext rfl)
  · exact (harray _ [.null, .bool true, .ofString "INFO", .number ['0']] (htext rfl)).2 (by decide)
  · exact (hobject _ [(some "name", .ofString "a"), (some "name", .ofString "a")]
      (htext rfl)).twice .name (by decide)

end Postulate.Config
