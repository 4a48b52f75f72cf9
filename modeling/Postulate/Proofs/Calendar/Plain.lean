import Mathlib.Tactic.Lemma
import Postulate.Calendar.Reading
import Postulate.Proofs.Text.Digits

/-!
# What a plain format reads

Literals, white space, numbers and fractions are plain items. A plain item takes nothing off a text
but digits, signs, points and white space, a literal apart. So any other character, a mark, occurs
in a text as often as among the literals of each plain format that reads it
(`Format.count_eq_of_read`).

What a plain format records is known beforehand too: nothing but the fields of its items, every
field of its numbers, and only values in the range of the field (`Format.readFrom_plain`). So a
format with an hour and a minute always yields a time of day (`Format.exists_time?_of_read`), and
one without an hour never does.
-/

namespace Postulate.Calendar

open Postulate.Text

/-! ## Marks -/

/-- A character that no number, fraction or white space has. -/
def IsMark (c : Char) : Prop :=
  c.isDigit = false ∧ isWhiteSpace c = false ∧ c ≠ '-' ∧ c ≠ '+' ∧ c ≠ '.'

instance (c : Char) : Decidable (IsMark c) := by unfold IsMark; infer_instance

/-- A literal, white space, a number or a fraction. -/
def FormatItem.IsPlain : FormatItem → Bool
  | .literal _ | .space | .number _ | .fraction => true
  | _ => false

section

variable {c : Char} {text rest : List Char}

lemma IsMark.count_digits_append (hc : IsMark c) {digits : List Char}
    (hdigits : ∀ d ∈ digits, d.isDigit = true) (rest : List Char) :
    (digits ++ rest).count c = rest.count c := by
  have hnot : c ∉ digits := fun hmem => by
    have hdigit := hdigits c hmem
    rw [hc.1] at hdigit
    cases hdigit
  rw [List.count_append, List.count_eq_zero.2 hnot, Nat.zero_add]

lemma IsMark.count_trimStart (hc : IsMark c) (text : List Char) :
    (trimStart text).count c = text.count c := by
  obtain ⟨space, hspace, hsplit⟩ := exists_eq_append_trimStart text
  have hnot : c ∉ space := fun hmem => by
    have hwhite := hspace c hmem
    rw [hc.2.1] at hwhite
    cases hwhite
  conv => rhs; rw [hsplit]
  rw [List.count_append, List.count_eq_zero.2 hnot, Nat.zero_add]

lemma IsMark.count_fixedNumber (hc : IsMark c) {width value : Nat}
    (h : fixedNumber width text = some (value, rest)) : text.count c = rest.count c := by
  obtain ⟨digits, rfl, -, hdigits, -⟩ := fixedNumber_eq_some_iff.1 h
  exact hc.count_digits_append hdigits rest

lemma IsMark.count_longNumber (hc : IsMark c) {value : Nat}
    (h : longNumber text = some (value, rest)) : text.count c = rest.count c := by
  obtain ⟨digits, rfl, -, hdigits, -⟩ := longNumber_eq_some_iff.1 h
  exact hc.count_digits_append hdigits rest

lemma IsMark.count_fraction (hc : IsMark c) {value : Nat}
    (h : Timestamp.fraction text = some (value, rest)) : text.count c = rest.count c := by
  rcases Timestamp.fraction_eq_some_iff.1 h with ⟨digits, rfl, -, hdigits, -⟩ | ⟨-, -, rfl⟩
  · rw [List.count_cons_of_ne hc.2.2.2.2.symm, hc.count_digits_append hdigits]
  · rfl

lemma IsMark.count_scan (hc : IsMark c) {item : NumberItem} {value : Int}
    (h : item.scan text = some (value, rest)) : text.count c = rest.count c := by
  unfold NumberItem.scan at h
  split at h <;> obtain ⟨⟨n, after⟩, hscan, hvalue⟩ := Option.map_eq_some_iff.1 h <;>
    obtain ⟨-, rfl⟩ := Prod.mk.inj hvalue
  · rw [List.count_cons_of_ne hc.2.2.1.symm, hc.count_longNumber hscan]
  · rw [List.count_cons_of_ne hc.2.2.2.1.symm, hc.count_longNumber hscan]
  · obtain ⟨digits, rfl, -, hdigits, -⟩ := number_eq_some_iff.1 hscan
    exact hc.count_digits_append hdigits after

end

/-! ## What a format records -/

/-- The digits of a fraction that count are so many that they make less than a second. -/
lemma Timestamp.nanoseconds_lt {digits : List Char} (h : ∀ c ∈ digits, c.isDigit = true) :
    nanoseconds digits < 10 ^ 9 := by
  have hkept : digitsValue (digits.take 9) < 10 ^ (digits.take 9).length :=
    digitsValue_lt fun c hc => h c (List.mem_of_mem_take hc)
  have hlen : (digits.take 9).length + (9 - (digits.take 9).length) = 9 := by
    rw [List.length_take]
    omega
  calc nanoseconds digits
      < 10 ^ (digits.take 9).length * 10 ^ (9 - (digits.take 9).length) :=
        Nat.mul_lt_mul_of_pos_right hkept (Nat.pow_pos (by decide))
    _ = 10 ^ 9 := by rw [← Nat.pow_add, hlen]

/-- The values that a field can have; a year and an offset are not bounded. -/
def Field.InRange : Field → Int → Prop
  | .year, _ | .offset, _ => True
  | .yearOfCentury, value => 0 ≤ value ∧ value ≤ 99
  | .month, value => 1 ≤ value ∧ value ≤ 12
  | .day, value => 1 ≤ value ∧ value ≤ 31
  | .dayOfYear, value => 1 ≤ value ∧ value ≤ 366
  | .weekday, value => 0 ≤ value ∧ value ≤ 6
  | .halfDay, value => 0 ≤ value ∧ value ≤ 1
  | .hourOfHalf, value => 0 ≤ value ∧ value ≤ 11
  | .minute, value => 0 ≤ value ∧ value ≤ 59
  | .second, value => 0 ≤ value ∧ value ≤ 60
  | .nanosecond, value => 0 ≤ value ∧ value ≤ 999999999

/-- The fields that a number is recorded in. -/
def NumberItem.fields : NumberItem → List Field
  | .year => [.year]
  | .yearOfCentury => [.yearOfCentury]
  | .month => [.month]
  | .day => [.day]
  | .dayOfYear => [.dayOfYear]
  | .weekdayFromSunday | .weekdayFromMonday => [.weekday]
  | .hour => [.halfDay, .hourOfHalf]
  | .clockHour => [.hourOfHalf]
  | .minute => [.minute]
  | .second => [.second]
  | .nanosecond => [.nanosecond]

/-- The fields that an item may record. -/
def FormatItem.fields : FormatItem → List Field
  | .literal _ | .space | .zoneName => []
  | .number item => item.fields
  | .monthName _ => [.month]
  | .weekdayName _ => [.weekday]
  | .halfDay => [.halfDay]
  | .fraction | .pointedFraction _ | .bareFraction _ => [.nanosecond]
  | .offset => [.offset]

/-- Later fields are the earlier ones, but for some of the named fields, which have a value in
their range. -/
def Fields.Gains (named : List Field) (fields fields' : Fields) : Prop :=
  ∀ f, fields' f = fields f ∨ f ∈ named ∧ ∃ value, fields' f = some value ∧ f.InRange value

namespace Fields.Gains

variable {named named' : List Field} {fields fields' fields'' : Fields}

lemma refl (named : List Field) (fields : Fields) : Gains named fields fields := fun _ => Or.inl rfl

lemma trans (h : Gains named fields fields') (h' : Gains named' fields' fields'') :
    Gains (named ++ named') fields fields'' := by
  intro f
  rcases h' f with heq | ⟨hmem, hvalue⟩
  · rw [heq]
    exact (h f).imp_right fun ⟨hmem, hvalue⟩ => ⟨List.mem_append_left _ hmem, hvalue⟩
  · exact Or.inr ⟨List.mem_append_right _ hmem, hvalue⟩

/-- A field that was there is there still. -/
lemma ne_none (h : Gains named fields fields') {f : Field} (hf : fields f ≠ .none) :
    fields' f ≠ .none := by
  rcases h f with heq | ⟨-, value, hvalue, -⟩
  · rwa [heq]
  · simp [hvalue]

end Fields.Gains

/-- Earlier fields become later ones when every named field is recorded, and nothing else. -/
def Fields.Records (named : List Field) (fields fields' : Fields) : Prop :=
  Gains named fields fields' ∧ ∀ f ∈ named, fields' f ≠ .none

namespace Fields.Records

variable {named named' : List Field} {fields fields' fields'' : Fields}

lemma put {field : Field} {value : Int} (h : fields.put field value = some fields')
    (hvalue : field.InRange value) : Records [field] fields fields' := by
  obtain ⟨-, rfl⟩ := put_eq_some_iff.1 h
  refine ⟨fun f => ?_, by simp⟩
  by_cases hf : f = field
  · exact Or.inr ⟨by simp [hf], value, by simp [hf], hf ▸ hvalue⟩
  · exact Or.inl (by simp [hf])

lemma trans (h : Records named fields fields') (h' : Records named' fields' fields'') :
    Records (named ++ named') fields fields'' := by
  refine ⟨h.1.trans h'.1, fun f hf => ?_⟩
  rcases List.mem_append.1 hf with hf | hf
  · exact h'.1.ne_none (h.2 f hf)
  · exact h'.2 f hf

end Fields.Records

lemma NumberItem.records_of_store {item : NumberItem} {value : Int} {fields fields' : Fields}
    (h : item.store value fields = some fields') : Fields.Records item.fields fields fields' := by
  cases item <;> simp only [store, Option.ite_none_right_eq_some] at h
  case year => exact .put h trivial
  case hour =>
    obtain ⟨between, hhalf, hhour⟩ := Option.bind_eq_some_iff.1 h
    obtain ⟨hrange, hhalf⟩ := Option.ite_none_right_eq_some.1 hhalf
    refine Fields.Records.trans (.put hhalf ?_) (.put hhour ?_)
    · exact ⟨by omega, by omega⟩
    · exact ⟨by omega, by omega⟩
  case weekdayFromSunday => exact .put h.2 ⟨by omega, by omega⟩
  case weekdayFromMonday => exact .put h.2 ⟨by omega, by omega⟩
  case clockHour => exact .put h.2 ⟨by omega, by omega⟩
  all_goals exact .put h.2 h.1

/-! ## Reading by a plain format -/

/-- What reading a plain item does to the text and the fields. -/
lemma FormatItem.read_plain {item : FormatItem} (hplain : item.IsPlain = true)
    {fields fields' : Fields} {text rest : List Char}
    (h : item.read fields text = some (fields', rest)) :
    (∀ c, IsMark c → text.count c = [item].count (.literal c) + rest.count c) ∧
      Fields.Gains item.fields fields fields' ∧
      ∀ number, item = .number number → ∀ f ∈ number.fields, fields' f ≠ .none := by
  cases item with
  | literal d =>
    obtain ⟨rfl, rfl⟩ := read_literal_eq_some_iff.1 h
    refine ⟨fun c _ => ?_, .refl _ _, by simp⟩
    by_cases hd : d = c
    · simp [hd, Nat.add_comm]
    · simp [hd]
  | space =>
    obtain ⟨rfl, rfl⟩ := Prod.mk.inj (Option.some.inj h)
    exact ⟨fun c hc => by simp [hc.count_trimStart], .refl _ _, by simp⟩
  | number item =>
    obtain ⟨value, hscan, hstore⟩ := read_number_eq_some_iff.1 h
    have hrecords := NumberItem.records_of_store hstore
    refine ⟨fun c hc => ?_, hrecords.1, ?_⟩
    · rw [← hc.count_trimStart, hc.count_scan hscan]
      simp
    · rintro number ⟨⟩
      exact hrecords.2
  | fraction =>
    rcases read_fraction_eq_some_iff.1 h with ⟨digits, rfl, -, hdigits, -, hput⟩ | ⟨-, rfl, rfl⟩
    · have hrange : Field.nanosecond.InRange (Timestamp.nanoseconds digits) :=
        ⟨by omega, by have := Timestamp.nanoseconds_lt hdigits; omega⟩
      refine ⟨fun c hc => ?_, (Fields.Records.put hput hrange).1, by simp⟩
      rw [List.count_cons_of_ne hc.2.2.2.2.symm, hc.count_digits_append hdigits]
      simp
    · exact ⟨fun c _ => by simp, .refl _ _, by simp⟩
  | _ => cases hplain

namespace Format

/-- Every item is plain. -/
def IsPlain (format : Format) : Prop := ∀ item ∈ format, item.IsPlain = true

instance (format : Format) : Decidable format.IsPlain := by unfold IsPlain; infer_instance

/-- The fields that the items of a format may record. -/
def fields (format : Format) : List Field := format.flatMap FormatItem.fields

variable {format : Format} {fields fields' : Fields} {text : List Char}

/-- What reading by a plain format does to the fields, and which marks the text has. -/
lemma readFrom_plain (hplain : format.IsPlain) (h : readFrom fields format text = some fields') :
    (∀ c, IsMark c → text.count c = format.count (.literal c)) ∧
      Fields.Gains format.fields fields fields' ∧
      ∀ number, .number number ∈ format → ∀ f ∈ number.fields, fields' f ≠ .none := by
  induction format generalizing fields text with
  | nil =>
    cases text with
    | nil =>
      obtain rfl := Option.some.inj h
      exact ⟨fun c _ => rfl, .refl _ _, by simp⟩
    | cons c text => cases h
  | cons item format ih =>
    obtain ⟨⟨between, rest⟩, hitem, hrest⟩ := Option.bind_eq_some_iff.1 h
    obtain ⟨hcount, hgains, hrecords⟩ :=
      FormatItem.read_plain (hplain item (by simp)) hitem
    obtain ⟨hcount', hgains', hrecords'⟩ := ih (fun i hi => hplain i (by simp [hi])) hrest
    refine ⟨fun c hc => ?_, hgains.trans hgains', fun number hnumber => ?_⟩
    · rw [hcount c hc, hcount' c hc, ← List.count_append, List.singleton_append]
    · rcases List.mem_cons.1 hnumber with hhere | hthere
      · exact fun f hf => hgains'.ne_none (hrecords number hhere.symm f hf)
      · exact hrecords' number hthere

theorem count_eq_of_read (hplain : format.IsPlain) (h : format.read text = some fields) {c : Char}
    (hc : IsMark c) : text.count c = format.count (.literal c) :=
  (readFrom_plain hplain h).1 c hc

lemma inRange_of_read (hplain : format.IsPlain) (h : format.read text = some fields) {f : Field}
    {value : Int} (hvalue : fields f = some value) : f.InRange value := by
  rcases (readFrom_plain hplain h).2.1 f with hsame | ⟨-, v, hv, hrange⟩
  · rw [hsame] at hvalue
    cases hvalue
  · rw [hvalue, Option.some.injEq] at hv
    exact hv ▸ hrange

/-- What no item of the format speaks of is not recorded. -/
lemma eq_none_of_read (hplain : format.IsPlain) (h : format.read text = some fields) {f : Field}
    (hf : f ∉ format.fields) : fields f = none := by
  rcases (readFrom_plain hplain h).2.1 f with hsame | ⟨hmem, -⟩
  · exact hsame
  · exact absurd hmem hf

lemma ne_none_of_read (hplain : format.IsPlain) (h : format.read text = some fields)
    {number : NumberItem} (hnumber : .number number ∈ format) {f : Field}
    (hf : f ∈ number.fields) : fields f ≠ none :=
  (readFrom_plain hplain h).2.2 number hnumber f hf

/-- The format says an hour and a minute, and a fraction only together with a second. -/
def TellsTime (format : Format) : Prop :=
  .number .hour ∈ format ∧ .number .minute ∈ format ∧
    (.nanosecond ∈ format.fields → .number .second ∈ format)

instance (format : Format) : Decidable format.TellsTime := by unfold TellsTime; infer_instance

/-- A format that says a time of day yields one: every field is in its range already. -/
lemma exists_time?_of_read (hplain : format.IsPlain) (htime : format.TellsTime)
    (h : format.read text = some fields) : ∃ time, fields.time? = some time := by
  obtain ⟨hhour, hminute, hfraction⟩ := htime
  obtain ⟨half, hhalf⟩ := Option.ne_none_iff_exists'.1
    (ne_none_of_read hplain h hhour (f := .halfDay) (by decide))
  obtain ⟨hour, hhour⟩ := Option.ne_none_iff_exists'.1
    (ne_none_of_read hplain h hhour (f := .hourOfHalf) (by decide))
  obtain ⟨minute, hminute⟩ := Option.ne_none_iff_exists'.1
    (ne_none_of_read hplain h hminute (f := .minute) (by decide))
  have hhalf_range : 0 ≤ half ∧ half ≤ 1 := inRange_of_read hplain h hhalf
  have hhour_range : 0 ≤ hour ∧ hour ≤ 11 := inRange_of_read hplain h hhour
  have hminute_range : 0 ≤ minute ∧ minute ≤ 59 := inRange_of_read hplain h hminute
  have hmade : ∀ second nano : Nat, second ≤ 60 → nano < nanosPerSecond →
      ∃ time, Time.of? (12 * half + hour).toNat minute.toNat second nano = some time := by
    intro second nano hsecond hnano
    exact ⟨_, if_pos ⟨by omega, by omega, hsecond, hnano⟩⟩
  cases hsecond : fields .second with
  | none =>
    have hnano : fields .nanosecond = none := by
      refine eq_none_of_read hplain h fun hmem => ?_
      exact ne_none_of_read hplain h (hfraction hmem) (f := .second) (by decide) hsecond
    simpa [Fields.time?, hhalf, hhour, hminute, hsecond, hnano] using
      hmade 0 0 (by decide) (by decide)
  | some second =>
    have hsecond_range : 0 ≤ second ∧ second ≤ 60 := inRange_of_read hplain h hsecond
    have hnano : ((fields .nanosecond).getD 0).toNat < nanosPerSecond := by
      cases hnano : fields .nanosecond with
      | none => decide
      | some nano =>
        have hrange : 0 ≤ nano ∧ nano ≤ 999999999 := inRange_of_read hplain h hnano
        simp only [Option.getD_some, nanosPerSecond]
        omega
    simpa [Fields.time?, hhalf, hhour, hminute, hsecond] using hmade _ _ (by omega) hnano

/-- A format that says no hour yields no time of day. -/
lemma time?_eq_none_of_read (hplain : format.IsPlain) (hhalf : .halfDay ∉ format.fields)
    (h : format.read text = some fields) : fields.time? = none := by
  simp [Fields.time?, eq_none_of_read hplain h hhalf]

end Format

end Postulate.Calendar
