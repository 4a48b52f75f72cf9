import Postulate.Proofs.Calendar.Unambiguous
import Postulate.Proofs.Calendar.Written

/-!
# What is written is read back

A format reads what it writes (`Format.Writes.readFrom`): every item takes its own part off the
text, because what the next item writes cannot be taken for more of it (`Format.IsSeparated`), and
it records nothing but what the date and time says (`DateTime.Agrees`). So the fields at the end
make the date and time again. For the usual formats no other format, and no timestamp, is in the
way; the main result is `convert_written`.
-/

namespace Postulate.Calendar

open Postulate.Text

/-! ## Fields that agree with a date and time -/

/-- The value that a date and time gives to a field. The other fields are never recorded from what
is written. -/
def DateTime.field? (d : DateTime) : Field → Option Int
  | .year => some d.date.year
  | .month => some d.date.month
  | .day => some d.date.day
  | .halfDay => some ((d.time.hour : Int) / 12)
  | .hourOfHalf => some ((d.time.hour : Int) % 12)
  | .minute => some d.time.minute
  | .second => some d.time.writtenSecond
  | .nanosecond => some d.time.fraction
  | _ => none

/-- Whatever is recorded, the date and time says it too. -/
def DateTime.Agrees (d : DateTime) (fields : Fields) : Prop :=
  ∀ f value, fields f = some value → d.field? f = some value

variable {d : DateTime} {fields : Fields}

lemma DateTime.agrees_none (d : DateTime) : d.Agrees Fields.none := by
  rintro f value ⟨⟩

/-- What a date and time says of a field can always be added. -/
lemma DateTime.Agrees.put (h : d.Agrees fields) {f : Field} {value : Int}
    (hf : d.field? f = some value) :
    ∃ fields', fields.put f value = some fields' ∧ d.Agrees fields' := by
  have hallows : fields.allows f value = true := by
    refine Fields.allows_iff.2 fun v hv => ?_
    have hsaid := h f v hv
    rw [hf] at hsaid
    exact (Option.some.inj hsaid).symm
  refine ⟨_, Fields.put_eq_some_iff.2 ⟨hallows, rfl⟩, fun g v hv => ?_⟩
  by_cases hg : g = f
  · rw [hg, hf]
    simpa [hg] using hv
  · exact h g v (by simpa [hg] using hv)

lemma NumberItem.store_of_agrees (hd : d.IsValid) (h : d.Agrees fields) {item : NumberItem}
    {value : Int} (hvalue : item.value? d = some value) :
    ∃ fields', item.store value fields = some fields' ∧ d.Agrees fields' := by
  obtain ⟨hdate, htime⟩ := hd
  have hmonth := hdate.month_range
  have hday := hdate.day_range
  have hsecond := htime.writtenSecond_le
  obtain ⟨hhour, hminute, -⟩ := htime
  cases item <;> cases hvalue
  case year => exact h.put rfl
  case hour =>
    obtain ⟨between, hhalf, hbetween⟩ := h.put (f := .halfDay) rfl
    obtain ⟨fields', hhourOfHalf, hfields'⟩ := hbetween.put (f := .hourOfHalf) rfl
    refine ⟨fields', ?_, hfields'⟩
    simp only [store]
    rw [if_pos ⟨by omega, by omega⟩, hhalf, Option.bind_some, hhourOfHalf]
  all_goals
    simp only [store]
    rw [if_pos ⟨by omega, by omega⟩]
    exact h.put rfl

/-! ## Reading an item -/

/-- Behind the text of an item nothing stands that the item would take as well. -/
def FormatItem.Ends : FormatItem → List Char → Prop
  | .number .year, rest => EndsDigits rest
  | .space, rest => StartsBare rest
  | .fraction, rest => rest.head? ≠ some '.' ∧ EndsDigits rest
  | _, _ => True

lemma NumberItem.Spells.startsBare {item : NumberItem} {value : Int} {text : List Char}
    (h : item.Spells value text) (rest : List Char) : StartsBare (text ++ rest) := by
  obtain ⟨c, more, rfl⟩ := List.exists_cons_of_ne_nil h.ne_nil
  simp [StartsBare, h.isWhiteSpace_eq_false c (by simp)]

/-- A digit is not taken for a sign. -/
lemma NumberItem.scan_of_isDigit {c : Char} (hc : c.isDigit = true) (item : NumberItem)
    (text : List Char) : item.scan (c :: text) =
      (number item.width (c :: text)).map fun (value, rest) => ((value : Int), rest) := by
  unfold scan
  split
  · next heq =>
    rw [(List.cons.inj heq).1] at hc
    cases hc
  · next heq =>
    rw [(List.cons.inj heq).1] at hc
    cases hc
  · rfl

lemma NumberItem.Spells.scan {item : NumberItem} {value : Int} {text rest : List Char}
    (h : item.Spells value text) (hrest : (FormatItem.number item).Ends rest) :
    item.scan (text ++ rest) = some (value, rest) := by
  cases h with
  | @padded _ n fits =>
    have hnumber : number item.width (numeral item.width n ++ rest) = some (n, rest) :=
      number_numeral item.width_pos fits
    obtain ⟨c, more, hcons⟩ := List.exists_cons_of_ne_nil (numeral_ne_nil (n := n) item.width_pos)
    have hc : c.isDigit = true := isDigit_of_mem_numeral c (by rw [hcons]; simp)
    rw [hcons, List.cons_append] at hnumber ⊢
    rw [scan_of_isDigit hc, hnumber, Option.map_some]
  | @minus width n width_pos fits =>
    have hlong : longNumber (numeral width n ++ rest) = some (n, rest) :=
      longNumber_numeral width_pos fits hrest
    simp [NumberItem.scan, hlong]
  | @plus width n width_pos fits =>
    have hlong : longNumber (numeral width n ++ rest) = some (n, rest) :=
      longNumber_numeral width_pos fits hrest
    simp [NumberItem.scan, hlong]

lemma trimStart_space_cons {rest : List Char} (h : StartsBare rest) :
    trimStart (' ' :: rest) = rest := by
  rw [trimStart_cons, if_pos (by decide), trimStart_eq_self_iff.2 h]

/-- An item reads the text that it writes, and records only what the date and time says. A fraction
that is not recorded is none. -/
lemma FormatItem.Writes.read (hd : d.IsValid) {item : FormatItem} {text rest : List Char}
    (h : item.Writes d text) (hrest : item.Ends rest) (hfields : d.Agrees fields) :
    ∃ fields', item.read fields (text ++ rest) = some (fields', rest) ∧ d.Agrees fields' ∧
      (item = .fraction → fields' .nanosecond = none → d.time.fraction = 0) := by
  cases h with
  | literal c => exact ⟨fields, read_literal_eq_some_iff.2 ⟨rfl, rfl⟩, hfields, by simp⟩
  | space =>
    refine ⟨fields, ?_, hfields, by simp⟩
    exact congrArg (fun text => some (fields, text)) (trimStart_space_cons hrest)
  | number value_eq spells =>
    obtain ⟨fields', hstore, hfields'⟩ := NumberItem.store_of_agrees hd hfields value_eq
    refine ⟨fields', read_number_eq_some_iff.2 ⟨_, ?_, hstore⟩, hfields', by simp⟩
    rw [trimStart_eq_self_iff.2 (spells.startsBare rest), spells.scan hrest]
  | noFraction fraction_eq =>
    exact ⟨fields, read_fraction_eq_some_iff.2 (Or.inr ⟨hrest.1, rfl, rfl⟩), hfields,
      fun _ _ => fraction_eq⟩
  | @fraction count n count_pos count_le fits fraction_eq =>
    have hnano : Timestamp.nanoseconds (numeral count n) = d.time.fraction :=
      (Timestamp.nanoseconds_numeral count_le fits).trans fraction_eq
    obtain ⟨fields', hput, hfields'⟩ := hfields.put (f := .nanosecond) rfl
    rw [← hnano] at hput
    refine ⟨fields', read_fraction_eq_some_iff.2
      (Or.inl ⟨numeral count n, rfl, numeral_ne_nil count_pos, isDigit_of_mem_numeral, hrest.2,
        hput⟩), hfields', fun _ hnone => ?_⟩
    obtain ⟨-, rfl⟩ := Fields.put_eq_some_iff.1 hput
    simp at hnone

/-! ## Reading a format -/

/-- Whatever the items behind it write, the item ends before that. -/
def FormatItem.EndsBefore : FormatItem → Format → Bool
  | .number .year, [] => true
  | .number .year, .space :: _ => true
  | .number .year, .literal c :: _ => !c.isDigit
  | .number .year, _ => false
  | .space, .number _ :: _ => true
  | .space, _ => false
  | .fraction, [] => true
  | .fraction, _ => false
  | _, _ => true

/-- Every item ends before what the items behind it write, and no literal is white space. -/
def Format.IsSeparated : Format → Bool
  | [] => true
  | .literal c :: format => !isWhiteSpace c && IsSeparated format
  | item :: format => item.EndsBefore format && IsSeparated format

lemma Format.isSeparated_cons {item : FormatItem} {format : Format}
    (h : Format.IsSeparated (item :: format) = true) :
    item.EndsBefore format = true ∧ format.IsSeparated = true ∧
      ∀ c, item = .literal c → isWhiteSpace c = false := by
  cases item <;> simp_all [Format.IsSeparated, FormatItem.EndsBefore]

lemma FormatItem.ends_of_endsBefore {item : FormatItem} {format : Format}
    (h : item.EndsBefore format = true) {rest : List Char} (hrest : format.Writes d rest) :
    item.Ends rest := by
  unfold EndsBefore at h
  split at h
  · cases hrest
    rfl
  · cases hrest with
    | cons hitem _ => cases hitem; rfl
  · cases hrest with
    | cons hitem _ => cases hitem; simpa [Ends, EndsDigits] using h
  · cases h
  · cases hrest with
    | cons hitem _ =>
      cases hitem with
      | number _ spells => exact spells.startsBare _
  · cases h
  · cases hrest
    exact ⟨by simp, rfl⟩
  · cases h
  · -- a number of bounded width, a literal, or an item that writes nothing
    unfold Ends
    split
    all_goals trivial

/-- A format reads what it writes, and records only what the date and time says. -/
lemma Format.Writes.readFrom (hd : d.IsValid) {format : Format} {text : List Char}
    (h : format.Writes d text) (hplain : format.IsPlain) (hseparated : format.IsSeparated = true)
    (hfields : d.Agrees fields) :
    ∃ fields', Format.readFrom fields format text = some fields' ∧ d.Agrees fields' ∧
      (.fraction ∈ format → fields' .nanosecond = none → d.time.fraction = 0) := by
  induction h generalizing fields with
  | nil => exact ⟨fields, rfl, hfields, by simp⟩
  | cons item_writes format_writes ih =>
    obtain ⟨hends, hformat, -⟩ := Format.isSeparated_cons hseparated
    have hplain' : Format.IsPlain _ := fun item hitem => hplain item (List.mem_cons_of_mem _ hitem)
    obtain ⟨between, hitem, hbetween, hfraction⟩ :=
      item_writes.read hd (FormatItem.ends_of_endsBefore hends format_writes) hfields
    obtain ⟨fields', hrest, hfields', hfraction'⟩ := ih hplain' hformat hbetween
    refine ⟨fields', Option.bind_eq_some_iff.2 ⟨(between, _), hitem, hrest⟩, hfields', ?_⟩
    intro hmem hnone
    rcases List.mem_cons.1 hmem with hhere | hthere
    · refine hfraction hhere.symm ?_
      -- what the fraction recorded would still be there
      by_contra hsome
      exact (Format.readFrom_plain hplain' hrest).2.1.ne_none hsome hnone
    · exact hfraction' hthere hnone

/-! ## The date and time again -/

namespace DateTime.Agrees

lemma eq_of_ne_none (h : d.Agrees fields) {f : Field} (hf : fields f ≠ none) :
    fields f = d.field? f := by
  obtain ⟨value, hvalue⟩ := Option.ne_none_iff_exists'.1 hf
  rw [hvalue, h f value hvalue]

lemma eq_none (h : d.Agrees fields) {f : Field} (hf : d.field? f = none) : fields f = none := by
  by_contra hsome
  exact hsome ((h.eq_of_ne_none hsome).trans hf)

/-- A recorded year, month and day make the date, if there is such a day. -/
lemma date?_eq (h : d.Agrees fields) (hyear : fields .year ≠ none) (hmonth : fields .month ≠ none)
    (hday : fields .day ≠ none) :
    fields.date? = Date.of? d.date.year d.date.month d.date.day := by
  cases hmade : Date.of? d.date.year d.date.month d.date.day <;>
    simp [Fields.date?, Fields.year?, Fields.allows, h.eq_of_ne_none hyear,
      h.eq_of_ne_none hmonth, h.eq_of_ne_none hday, h.eq_none (f := .yearOfCentury) rfl,
      h.eq_none (f := .weekday) rfl, h.eq_none (f := .dayOfYear) rfl, DateTime.field?, hmade]

lemma date? (h : d.Agrees fields) (hd : d.date.IsValid) (hyear : fields .year ≠ none)
    (hmonth : fields .month ≠ none) (hday : fields .day ≠ none) : fields.date? = some d.date :=
  (h.date?_eq hyear hmonth hday).trans (if_pos hd)

/-- Second and nanosecond need not be recorded where they are zero. -/
lemma time? (h : d.Agrees fields) (hd : d.time.IsValid) (hhalf : fields .halfDay ≠ none)
    (hhour : fields .hourOfHalf ≠ none) (hminute : fields .minute ≠ none)
    (hsecond : fields .second = none → d.time.second = 0 ∧ fields .nanosecond = none)
    (hnano : fields .nanosecond = none → d.time.fraction = 0) : fields.time? = some d.time := by
  have hmade := Time.of?_written hd
  have hclock :
      (12 * ((d.time.hour : Int) / 12) + (d.time.hour : Int) % 12).toNat = d.time.hour := by
    omega
  have hhalf_eq := h.eq_of_ne_none hhalf
  have hhour_eq := h.eq_of_ne_none hhour
  have hminute_eq := h.eq_of_ne_none hminute
  cases hread : fields .second with
  | none =>
    obtain ⟨hzero, hnone⟩ := hsecond hread
    have hwritten : d.time.writtenSecond = 0 := by
      have hnot : d.time.nanosecond < nanosPerSecond := hd.2.2.2.resolve_right (by omega)
      rw [Time.writtenSecond, if_pos hnot, hzero]
    rw [hwritten, hnano hnone] at hmade
    simpa [Fields.time?, hhalf_eq, hhour_eq, hminute_eq, DateTime.field?, hread, hnone, hclock]
      using hmade
  | some second =>
    obtain rfl : (d.time.writtenSecond : Int) = second := Option.some.inj (h .second second hread)
    have hfraction : ((fields .nanosecond).getD 0).toNat = d.time.fraction := by
      cases hnone : fields .nanosecond with
      | none => simpa using (hnano hnone).symm
      | some nano =>
        obtain rfl : (d.time.fraction : Int) = nano := Option.some.inj (h .nanosecond nano hnone)
        rfl
    simpa [Fields.time?, hhalf_eq, hhour_eq, hminute_eq, DateTime.field?, hread, hfraction, hclock]
      using hmade

end DateTime.Agrees

/-! ## No white space at the ends -/

/-- The first item is a number. -/
def Format.StartsWithNumber : Format → Bool
  | .number _ :: _ => true
  | _ => false

lemma Format.Writes.startsBare {format : Format} {text : List Char} (h : format.Writes d text)
    (hstarts : format.StartsWithNumber = true) : text ≠ [] ∧ StartsBare text := by
  cases h with
  | nil => cases hstarts
  | cons item_writes format_writes =>
    cases item_writes with
    | number _ spells => exact ⟨by simp [spells.ne_nil], spells.startsBare _⟩
    | _ => cases hstarts

/-- What a format writes ends bare: only a space does not, and behind it there is a number. -/
lemma Format.Writes.endsBare {format : Format} {text : List Char} (h : format.Writes d text)
    (hseparated : format.IsSeparated = true) : StartsBare text.reverse := by
  induction h with
  | nil => rfl
  | @cons item format front rest item_writes format_writes ih =>
    obtain ⟨hends, hformat, hliteral⟩ := Format.isSeparated_cons hseparated
    rw [List.reverse_append]
    refine startsBare_append (ih hformat) fun hnil => startsBare_of_forall fun c hc => ?_
    have hmem : c ∈ front := List.mem_reverse.1 hc
    cases item_writes with
    | literal c' =>
      rw [List.mem_singleton.1 hmem]
      exact hliteral c' rfl
    | space =>
      have hstarts : format.StartsWithNumber = true := by
        unfold FormatItem.EndsBefore at hends
        split at hends <;> simp_all [Format.StartsWithNumber]
      exact absurd (List.reverse_eq_nil_iff.1 hnil) (format_writes.startsBare hstarts).1
    | number _ spells => exact spells.isWhiteSpace_eq_false c hmem
    | noFraction => cases hmem
    | fraction =>
      rcases List.mem_cons.1 hmem with rfl | hdigit
      · decide
      · exact isWhiteSpace_of_isDigit (isDigit_of_mem_numeral c hdigit)

/-! ## The usual formats -/

/-- A date is in the format, its items can all write, and each of them ends in time. -/
def Format.IsWellMade (format : Format) : Prop :=
  format.IsSeparated = true ∧ format.StartsWithNumber = true ∧
    (∀ item ∈ format, item.CanWrite = true) ∧
    .number .year ∈ format ∧ .number .month ∈ format ∧ .number .day ∈ format

instance (format : Format) : Decidable format.IsWellMade := by
  unfold Format.IsWellMade; infer_instance

lemma isSome_of_mem_usualFormats : ∀ format ∈ usualFormats, (Format.ofText? format).isSome := by
  decide

lemma isWellMade_of_mem_usualFormats : ∀ format ∈ usualFormats,
    ∀ items ∈ Format.ofText? format, items.IsWellMade := by
  decide

lemma lacksTime_of_mem_dateFormats : ∀ format ∈ dateFormats,
    ∀ items ∈ Format.ofText? format, .number .hour ∉ items ∧ .number .minute ∉ items ∧
      .number .second ∉ items ∧ .fraction ∉ items := by
  decide

section

variable {format : String} {items : Format} {text : List Char}

/-- A usual format makes the date and time again of what it writes. -/
lemma readBy_of_writes (hformat : format ∈ usualFormats)
    (hitems : Format.ofText? format = some items) (hd : d.IsValid) (hexpresses : items.Expresses d)
    (h : items.Writes d text) :
    Fits format text ∧ readBy format text = some d := by
  have hplain := isPlain_of_mem_usualFormats format hformat items hitems
  obtain ⟨hseparated, -, -, hyear, hmonth, hday⟩ :=
    isWellMade_of_mem_usualFormats format hformat items hitems
  obtain ⟨fields, hread, hagrees, hfraction⟩ := h.readFrom hd hplain hseparated d.agrees_none
  have hread : items.read text = some fields := hread
  refine ⟨⟨items, fields, hitems, hread⟩, ?_⟩
  have hrecorded : ∀ {number : NumberItem}, .number number ∈ items → ∀ f ∈ number.fields,
      fields f ≠ none := fun hnumber f hf => Format.ne_none_of_read hplain hread hnumber hf
  have hdate : fields.date? = some d.date :=
    hagrees.date? hd.1 (hrecorded hyear _ (by decide)) (hrecorded hmonth _ (by decide))
      (hrecorded hday _ (by decide))
  have hdateBy : readDateBy format text = some d.date := by
    simp [readDateBy, hitems, hread, hdate]
  have hnano : fields .nanosecond = none → d.time.fraction = 0 := by
    intro hnone
    by_cases hmem : .fraction ∈ items
    · exact hfraction hmem hnone
    · exact hexpresses.fraction hmem
  rcases List.mem_append.1 hformat with hdateTime | hdateOnly
  · obtain ⟨hhour, hminute, htells⟩ :=
      tellsTime_of_mem_dateTimeFormats format hdateTime items hitems
    have hsecond : fields .second = none → d.time.second = 0 ∧ fields .nanosecond = none := by
      intro hnone
      have hlacks : .number .second ∉ items := fun hmem => hrecorded hmem _ (by decide) hnone
      exact ⟨hexpresses.second hlacks,
        Format.eq_none_of_read hplain hread fun hmem => hlacks (htells hmem)⟩
    have htime : fields.time? = some d.time :=
      hagrees.time? hd.2 (hrecorded hhour _ (by decide)) (hrecorded hhour _ (by decide))
        (hrecorded hminute _ (by decide)) hsecond hnano
    simp [readBy, readDateTimeBy, hitems, hread, Fields.dateTime?, hdate, htime]
  · obtain ⟨hhour, hminute, hsecond, hfraction⟩ :=
      lacksTime_of_mem_dateFormats format hdateOnly items hitems
    have hmidnight : d.time = Time.midnight :=
      hd.2.eq_midnight (hexpresses.hour hhour) (hexpresses.minute hminute)
        (hexpresses.second hsecond) (hexpresses.fraction hfraction)
    rw [readBy, readDateTimeBy_eq_none_of_mem_dateFormats hdateOnly, hdateBy, Option.none_or,
      Option.map_some, ← hmidnight]

end

/-- Every usual format can write every real date and time, and what it writes of one that it
expresses is read as just that date and time, with any white space around it. -/
theorem convert_written {format : String} (hformat : format ∈ usualFormats) :
    ∃ items, Format.ofText? format = some items ∧
      ∀ d : DateTime, d.IsValid → items.Expresses d →
        (∃ text, items.Writes d text) ∧
          ∀ text front back : List Char, items.Writes d text →
            (∀ c ∈ front, isWhiteSpace c = true) → (∀ c ∈ back, isWhiteSpace c = true) →
            Conversion.dateTime.convert (String.ofList (front ++ text ++ back)) = .ok d := by
  obtain ⟨items, hitems⟩ := Option.isSome_iff_exists.1 (isSome_of_mem_usualFormats format hformat)
  obtain ⟨hseparated, hstarts, hwrite, -⟩ :=
    isWellMade_of_mem_usualFormats format hformat items hitems
  refine ⟨items, hitems, fun d hd hexpresses => ⟨Format.exists_writes hd hwrite, ?_⟩⟩
  intro text front back h hfront hback
  obtain ⟨hne, hbare⟩ := h.startsBare hstarts
  obtain ⟨hfits, hread⟩ := readBy_of_writes hformat hitems hd hexpresses h
  have htrim : trim (String.ofList (front ++ text ++ back)).toList = text := by
    rw [String.toList_ofList, trim_append_append hfront hback,
      trim_eq_self hbare (h.endsBare hseparated)]
  refine Conversion.convert_eq_ok_iff.2 ⟨by rwa [htrim], ?_⟩
  have husual := readByFormats_eq_readBy (List.Subset.refl _) (List.subset_append_left _ _)
    (List.Subset.refl _) (List.subset_append_right _ _) hformat hfits
  rw [htrim]
  change readDateTime text = some d
  rw [readDateTime, hfits.timestamp_read_eq_none hformat, Option.none_or, husual, hread]

/-- A leap second with a fraction, in a leap year before the year 0. -/
theorem convert_written_leapSecond :
    Conversion.dateTime.convert " -4-02-29T23:59:60.25\n" =
      .ok ⟨⟨-4, 2, 29⟩, ⟨23, 59, 59, 1250000000⟩⟩ := by
  have hformat : "%Y-%m-%dT%H:%M:%S%.f" ∈ usualFormats := by decide
  have hitems : Format.ofText? "%Y-%m-%dT%H:%M:%S%.f" =
      some (Format.isoDate ++ [.literal 'T'] ++ Format.clock ++ [.fraction]) := by decide
  have hwrites : Format.Writes ⟨⟨-4, 2, 29⟩, ⟨23, 59, 59, 1250000000⟩⟩
      (Format.isoDate ++ [.literal 'T'] ++ Format.clock ++ [.fraction])
      (['-', '4'] ++ (['-'] ++ (['0', '2'] ++ (['-'] ++ (['2', '9'] ++ (['T'] ++ (['2', '3'] ++
        ([':'] ++ (['5', '9'] ++ ([':'] ++ (['6', '0'] ++ (['.', '2', '5'] ++ [])))))))))))) :=
    .cons (.number rfl (@NumberItem.Spells.minus 1 4 (by decide) (by decide))) <|
    .cons (.literal '-') <| .cons (.number rfl (.padded (n := 2) (by decide))) <|
    .cons (.literal '-') <| .cons (.number rfl (.padded (n := 29) (by decide))) <|
    .cons (.literal 'T') <| .cons (.number rfl (.padded (n := 23) (by decide))) <|
    .cons (.literal ':') <| .cons (.number rfl (.padded (n := 59) (by decide))) <|
    .cons (.literal ':') <| .cons (.number rfl (.padded (n := 60) (by decide))) <|
    .cons (@FormatItem.Writes.fraction _ 2 25 (by decide) (by decide) (by decide) (by decide)) .nil
  obtain ⟨items, hitems', hread⟩ := convert_written hformat
  obtain rfl := Option.some.inj (hitems'.symm.trans hitems)
  exact (hread _ (by decide) ⟨by decide, by decide, by decide, by decide⟩).2 _ [' '] ['\n'] hwrites
    (List.forall_mem_singleton.2 (by decide)) (List.forall_mem_singleton.2 (by decide))

end Postulate.Calendar
