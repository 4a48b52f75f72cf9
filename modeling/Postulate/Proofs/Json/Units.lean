import Mathlib.Tactic.Lemma
import Postulate.Json.Tree

/-!
# The text of a string in UTF-16

A string is made of characters and of code units in UTF-16, and a character is one code unit or a
pair of surrogates (`Json.utf16`). The two forms are told apart by the first code unit, and no
character is a surrogate, so that code units can be read as characters in one way at most.

The main result is `Json.stringText_eq_some_iff`: a string denotes a text exactly if both are the
same in UTF-16.
-/

namespace Postulate.Json

/-- A character in UTF-16. -/
def utf16 (c : Char) : List Nat :=
  if c.toNat < 0x10000 then [c.toNat]
  else [0xD800 + (c.toNat - 0x10000) / 0x400, 0xDC00 + (c.toNat - 0x10000) % 0x400]

/-- A unit of a string in UTF-16. -/
def StringUnit.utf16 : StringUnit → List Nat
  | .char c => Json.utf16 c
  | .code unit => [unit]

/-- A code unit that is no half of a surrogate pair. -/
def IsSingle (unit : Nat) : Prop :=
  unit < 0x10000 ∧ isHighSurrogate unit = false ∧ isLowSurrogate unit = false

/-- The character that a surrogate pair stands for. -/
def ofPair (high low : Nat) : Char :=
  Char.ofNat (0x10000 + (high - 0xD800) * 0x400 + (low - 0xDC00))

variable {c d : Char} {unit high low : Nat} {units : List StringUnit} {text : List Char}

/-! ## Characters -/

lemma isHighSurrogate_iff : isHighSurrogate unit = true ↔ 0xD800 ≤ unit ∧ unit < 0xDC00 := by
  simp [isHighSurrogate]

lemma isLowSurrogate_iff : isLowSurrogate unit = true ↔ 0xDC00 ≤ unit ∧ unit < 0xE000 := by
  simp [isLowSurrogate]

lemma isSingle_iff : IsSingle unit ↔ unit < 0xD800 ∨ 0xE000 ≤ unit ∧ unit < 0x10000 := by
  rw [IsSingle, ← Bool.not_eq_true, ← Bool.not_eq_true, isHighSurrogate_iff, isLowSurrogate_iff]
  omega

lemma toNat_range (c : Char) : c.toNat < 0xD800 ∨ 0xE000 ≤ c.toNat ∧ c.toNat < 0x110000 := by
  have hvalid : c.toNat < 0xD800 ∨ 0xDFFF < c.toNat ∧ c.toNat < 0x110000 := c.valid
  omega

lemma toNat_ofNat {n : Nat} (h : n < 0xD800 ∨ 0xE000 ≤ n ∧ n < 0x110000) :
    (Char.ofNat n).toNat = n := by
  have hvalid : n.isValidChar := by
    rw [Nat.isValidChar]
    omega
  rw [Char.ofNat, dif_pos hvalid]
  rfl

lemma utf16_ofNat (h : IsSingle unit) : utf16 (Char.ofNat unit) = [unit] := by
  have hunit := isSingle_iff.mp h
  rw [utf16, toNat_ofNat (by omega), if_pos h.1]

lemma utf16_ofPair (hhigh : isHighSurrogate high = true) (hlow : isLowSurrogate low = true) :
    utf16 (ofPair high low) = [high, low] := by
  rw [isHighSurrogate_iff] at hhigh
  rw [isLowSurrogate_iff] at hlow
  rw [utf16, ofPair, toNat_ofNat (by omega), if_neg (by omega), List.cons.injEq, List.cons.injEq]
  refine ⟨?_, ?_, rfl⟩ <;> omega

/-- A character is a single code unit, or else a surrogate pair. -/
lemma exists_utf16 (c : Char) : (∃ unit, IsSingle unit ∧ c = Char.ofNat unit) ∨
    ∃ high low, isHighSurrogate high = true ∧ isLowSurrogate low = true ∧ c = ofPair high low := by
  have hrange := toNat_range c
  rcases Nat.lt_or_ge c.toNat 0x10000 with hlt | hge
  · exact .inl ⟨c.toNat, isSingle_iff.mpr (by omega), (Char.ofNat_toNat c).symm⟩
  · refine .inr ⟨0xD800 + (c.toNat - 0x10000) / 0x400, 0xDC00 + (c.toNat - 0x10000) % 0x400,
      isHighSurrogate_iff.mpr (by omega), isLowSurrogate_iff.mpr (by omega), ?_⟩
    have hcode : 0x10000 + (0xD800 + (c.toNat - 0x10000) / 0x400 - 0xD800) * 0x400 +
        (0xDC00 + (c.toNat - 0x10000) % 0x400 - 0xDC00) = c.toNat := by omega
    rw [ofPair, hcode, Char.ofNat_toNat]

lemma not_isLowSurrogate (h : isHighSurrogate unit = true) : isLowSurrogate unit = false := by
  rw [← Bool.not_eq_true, isLowSurrogate_iff]
  rw [isHighSurrogate_iff] at h
  omega

lemma utf16_ne_nil (c : Char) : utf16 c ≠ [] := by
  unfold utf16
  split <;> simp

/-- No character is written with another one at its beginning. -/
lemma utf16_append_inj {a b : List Nat} (h : utf16 c ++ a = utf16 d ++ b) : c = d ∧ a = b := by
  -- a first code unit that is single is not the first half of a pair
  rcases exists_utf16 c with ⟨unit, hunit, hc⟩ | ⟨high, low, hhigh, hlow, hc⟩ <;>
    rcases exists_utf16 d with ⟨unit', hunit', hd⟩ | ⟨high', low', hhigh', hlow', hd⟩
  · rw [hc, hd, utf16_ofNat hunit, utf16_ofNat hunit'] at h
    obtain ⟨rfl, rfl⟩ := List.cons.inj h
    exact ⟨hc.trans hd.symm, rfl⟩
  · rw [hc, hd, utf16_ofNat hunit, utf16_ofPair hhigh' hlow'] at h
    obtain ⟨rfl, -⟩ := List.cons.inj h
    rw [hunit.2.1] at hhigh'
    cases hhigh'
  · rw [hc, hd, utf16_ofPair hhigh hlow, utf16_ofNat hunit'] at h
    obtain ⟨rfl, -⟩ := List.cons.inj h
    rw [hunit'.2.1] at hhigh
    cases hhigh
  · rw [hc, hd, utf16_ofPair hhigh hlow, utf16_ofPair hhigh' hlow'] at h
    obtain ⟨rfl, htail⟩ := List.cons.inj h
    obtain ⟨rfl, rfl⟩ := List.cons.inj htail
    exact ⟨hc.trans hd.symm, rfl⟩

/-- No character starts with the second half of a pair. -/
lemma utf16_append_ne_cons (h : isLowSurrogate low = true) (a b : List Nat) :
    utf16 c ++ a ≠ low :: b := by
  intro heq
  rcases exists_utf16 c with ⟨unit, hunit, hc⟩ | ⟨high, low', hhigh, hlow, hc⟩
  · rw [hc, utf16_ofNat hunit] at heq
    obtain ⟨rfl, -⟩ := List.cons.inj heq
    rw [hunit.2.2] at h
    cases h
  · rw [hc, utf16_ofPair hhigh hlow] at heq
    obtain ⟨rfl, -⟩ := List.cons.inj heq
    rw [not_isLowSurrogate hhigh] at h
    cases h

/-! ## Strings -/

/-- The code units fit into 16 bits. -/
def Fit (units : List StringUnit) : Prop := ∀ unit, StringUnit.code unit ∈ units → unit < 0x10000

lemma textOfUnits?_single (h : IsSingle unit) (units : List StringUnit) :
    textOfUnits? (.code unit :: units) = (textOfUnits? units).map (Char.ofNat unit :: ·) := by
  rcases units with _ | ⟨d | n, units⟩ <;> simp [textOfUnits?, h.2.1, h.2.2]

lemma textOfUnits?_pair (hhigh : isHighSurrogate high = true) (hlow : isLowSurrogate low = true)
    (units : List StringUnit) : textOfUnits? (.code high :: .code low :: units) =
      (textOfUnits? units).map (ofPair high low :: ·) := by
  simp [textOfUnits?, hhigh, hlow, ofPair]

lemma utf16_eq_of_textOfUnits? (hfit : Fit units) (h : textOfUnits? units = some text) :
    units.flatMap StringUnit.utf16 = text.flatMap utf16 := by
  -- what is behind a single code unit or behind a character fits as well
  have htail {first : StringUnit} {units : List StringUnit} (h : Fit (first :: units)) :
      Fit units := fun unit hunit => h unit (List.mem_cons_of_mem _ hunit)
  have hsingle {unit : Nat} {units : List StringUnit} (h : Fit (.code unit :: units))
      (hhigh : ¬isHighSurrogate unit = true) (hlow : ¬isLowSurrogate unit = true) :
      IsSingle unit := ⟨h unit (by simp), by simpa using hhigh, by simpa using hlow⟩
  fun_induction textOfUnits? units generalizing text with
  | case1 =>
    cases h
    rfl
  | case2 c units ih =>
    obtain ⟨text, htext, rfl⟩ := Option.map_eq_some_iff.mp h
    rw [List.flatMap_cons, ih (htail hfit) htext, List.flatMap_cons, StringUnit.utf16]
  | case3 high low units hhigh hlow ih =>
    obtain ⟨text, htext, rfl⟩ := Option.map_eq_some_iff.mp h
    have hpair := utf16_ofPair hhigh hlow
    rw [List.flatMap_cons, List.flatMap_cons, ih (htail (htail hfit)) htext, List.flatMap_cons]
    rw [ofPair] at hpair
    rw [hpair]
    rfl
  | case4 | case5 => cases h
  | case6 unit low units hhigh hlow ih =>
    obtain ⟨text, htext, rfl⟩ := Option.map_eq_some_iff.mp h
    rw [List.flatMap_cons, ih (htail hfit) htext, List.flatMap_cons,
      utf16_ofNat (hsingle hfit hhigh hlow)]
    rfl
  | case7 => cases h
  | case8 unit units _ hsurrogate ih =>
    obtain ⟨text, htext, rfl⟩ := Option.map_eq_some_iff.mp h
    rw [Bool.or_eq_true, not_or] at hsurrogate
    rw [List.flatMap_cons, ih (htail hfit) htext, List.flatMap_cons,
      utf16_ofNat (hsingle hfit hsurrogate.1 hsurrogate.2)]
    rfl

lemma textOfUnits?_of_utf16_eq (h : units.flatMap StringUnit.utf16 = text.flatMap utf16) :
    textOfUnits? units = some text := by
  -- the induction is on the characters: each of them takes one unit or two
  induction text generalizing units with
  | nil =>
    cases units with
    | nil => rfl
    | cons first units =>
      have hempty := List.append_eq_nil_iff.mp h
      cases first with
      | char c => exact absurd hempty.1 (utf16_ne_nil c)
      | code unit => cases hempty.1
  | cons d text ih =>
    rw [List.flatMap_cons] at h
    cases units with
    | nil => exact absurd (List.append_eq_nil_iff.mp h.symm).1 (utf16_ne_nil d)
    | cons first units =>
      cases first with
      | char c =>
        obtain ⟨rfl, htext⟩ := utf16_append_inj h
        rw [textOfUnits?, ih htext, Option.map_some]
      | code unit =>
        rcases exists_utf16 d with ⟨unit', hunit, hd⟩ | ⟨high, low, hhigh, hlow, hd⟩
        · rw [hd, utf16_ofNat hunit] at h
          obtain ⟨rfl, htext⟩ := List.cons.inj h
          rw [textOfUnits?_single hunit, ih htext, Option.map_some, hd]
        · rw [hd, utf16_ofPair hhigh hlow] at h
          obtain ⟨rfl, htail⟩ := List.cons.inj h
          -- behind the first half, nothing but the second one can stand
          cases units with
          | nil => cases htail
          | cons next units =>
            cases next with
            | char c => exact absurd htail (utf16_append_ne_cons hlow _ _)
            | code unit =>
              obtain ⟨rfl, htext⟩ := List.cons.inj htail
              rw [textOfUnits?_pair hhigh hlow, ih htext, Option.map_some, hd]

/-- A string denotes a text exactly if both are the same in UTF-16. -/
theorem stringText_eq_some_iff (hfit : Fit units) {text : String} :
    Reader.stringText units = some text ↔
      units.flatMap StringUnit.utf16 = text.toList.flatMap utf16 := by
  have htext : Reader.stringText units = some text ↔ textOfUnits? units = some text.toList := by
    rw [Reader.stringText, Option.map_eq_some_iff]
    constructor
    · rintro ⟨characters, hcharacters, rfl⟩
      rwa [String.toList_ofList]
    · exact fun h => ⟨_, h, String.ofList_toList⟩
  rw [htext]
  exact ⟨utf16_eq_of_textOfUnits? hfit, textOfUnits?_of_utf16_eq⟩

end Postulate.Json
