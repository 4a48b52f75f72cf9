import Postulate.Text.CodePoints

/-!
# White space

The Unicode property `White_Space` and the removal of white space at the two ends of a text.
`trim` takes away all white space around a text (`trim_append_append`) and nothing else
(`exists_eq_append_trim_append`); it is idempotent.
-/

namespace Postulate.Text

/-- The code points of the property `White_Space`. -/
def whiteSpace : CodePoints := [
  (0x9, 0xD), (0x20, 0x20), (0x85, 0x85), (0xA0, 0xA0), (0x1680, 0x1680), (0x2000, 0x200A),
  (0x2028, 0x2029), (0x202F, 0x202F), (0x205F, 0x205F), (0x3000, 0x3000)]

/-- Is the character white space? -/
def isWhiteSpace (c : Char) : Bool := whiteSpace.has c

/-- The text without its leading white space. -/
def trimStart (text : List Char) : List Char := text.dropWhile isWhiteSpace

/-- The text without its trailing white space. -/
def trimEnd (text : List Char) : List Char := (trimStart text.reverse).reverse

/-- The text without white space at either end. -/
def trim (text : List Char) : List Char := trimEnd (trimStart text)

/-- A text is blank when nothing is left of it after trimming. -/
def isBlank (text : List Char) : Bool := (trim text).isEmpty

@[simp] theorem trimStart_nil : trimStart [] = [] := rfl

theorem trimStart_cons (c : Char) (text : List Char) :
    trimStart (c :: text) = if isWhiteSpace c then trimStart text else c :: text := by
  simp only [trimStart, List.dropWhile_cons]

@[simp] theorem trim_nil : trim [] = [] := rfl

/-! ## White space at the front -/

/-- White space in front of a text does not change what is left. -/
theorem trimStart_append {space : List Char} (h : ∀ c ∈ space, isWhiteSpace c = true)
    (text : List Char) : trimStart (space ++ text) = trimStart text := by
  induction space with
  | nil => rfl
  | cons c space ih =>
    rw [List.cons_append, trimStart_cons, h c (by simp), if_pos rfl]
    exact ih fun d hd => h d (by simp [hd])

/-- What was taken away is white space. -/
theorem exists_eq_append_trimStart (text : List Char) :
    ∃ space, (∀ c ∈ space, isWhiteSpace c = true) ∧ text = space ++ trimStart text :=
  ⟨text.takeWhile isWhiteSpace, fun _ hc => List.all_eq_true.1 List.all_takeWhile _ hc,
    List.takeWhile_append_dropWhile.symm⟩

/-- The text starts with no white space. -/
def StartsBare (text : List Char) : Prop := text.head?.all (!isWhiteSpace ·) = true

theorem startsBare_trimStart (text : List Char) : StartsBare (trimStart text) := by
  induction text with
  | nil => rfl
  | cons c text ih =>
    rw [trimStart_cons]
    split
    · exact ih
    · next h => simpa [StartsBare] using h

theorem startsBare_of_forall {text : List Char} (h : ∀ c ∈ text, isWhiteSpace c = false) :
    StartsBare text := by
  cases text with
  | nil => rfl
  | cons c text => simp [StartsBare, h c (by simp)]

theorem startsBare_append {front rest : List Char} (h : StartsBare front)
    (hrest : front = [] → StartsBare rest) : StartsBare (front ++ rest) := by
  cases front with
  | nil => exact hrest rfl
  | cons c front => exact h

theorem trimStart_eq_self_iff {text : List Char} : trimStart text = text ↔ StartsBare text := by
  constructor
  · intro h
    rw [← h]
    exact startsBare_trimStart text
  · intro h
    cases text with
    | nil => rfl
    | cons c text =>
      have hc : isWhiteSpace c = false := by simpa [StartsBare] using h
      simp [trimStart_cons, hc]

theorem trimStart_eq_nil_iff {text : List Char} :
    trimStart text = [] ↔ ∀ c ∈ text, isWhiteSpace c = true := by
  induction text with
  | nil => simp
  | cons c text ih =>
    rw [trimStart_cons]
    split
    · next h => simp [ih, h]
    · next h => simp [h]

/-- Text behind a text that is not blank stays where it is. -/
theorem trimStart_append_of_ne_nil {text : List Char} (h : trimStart text ≠ [])
    (rest : List Char) : trimStart (text ++ rest) = trimStart text ++ rest := by
  induction text with
  | nil => simp at h
  | cons c text ih =>
    rw [trimStart_cons] at h ⊢
    rw [List.cons_append, trimStart_cons]
    split
    · next hc => exact ih (by simpa [hc] using h)
    · rfl

/-! ## White space at both ends -/

theorem trimEnd_append {space : List Char} (h : ∀ c ∈ space, isWhiteSpace c = true)
    (text : List Char) : trimEnd (text ++ space) = trimEnd text := by
  rw [trimEnd, List.reverse_append, trimStart_append (by simpa using h), trimEnd]

theorem trimEnd_eq_nil_iff {text : List Char} :
    trimEnd text = [] ↔ ∀ c ∈ text, isWhiteSpace c = true := by
  simp [trimEnd, trimStart_eq_nil_iff]

/-- What was taken away at the end is white space. -/
theorem exists_eq_trimEnd_append (text : List Char) :
    ∃ space, (∀ c ∈ space, isWhiteSpace c = true) ∧ text = trimEnd text ++ space := by
  obtain ⟨space, hspace, h⟩ := exists_eq_append_trimStart text.reverse
  refine ⟨space.reverse, by simpa using hspace, ?_⟩
  rw [trimEnd, ← List.reverse_append, ← h, List.reverse_reverse]

theorem isBlank_iff {text : List Char} :
    isBlank text = true ↔ ∀ c ∈ text, isWhiteSpace c = true := by
  rw [isBlank, List.isEmpty_iff, trim, trimEnd_eq_nil_iff]
  constructor
  · intro h
    obtain ⟨space, hspace, hsplit⟩ := exists_eq_append_trimStart text
    rw [hsplit]
    intro c hc
    rcases List.mem_append.1 hc with hc | hc
    · exact hspace c hc
    · exact h c hc
  · intro h
    rw [trimStart_eq_nil_iff.2 h]
    simp

/-- White space around a text does not matter. -/
theorem trim_append_append {front back : List Char} (hfront : ∀ c ∈ front, isWhiteSpace c = true)
    (hback : ∀ c ∈ back, isWhiteSpace c = true) (text : List Char) :
    trim (front ++ text ++ back) = trim text := by
  rw [trim, List.append_assoc, trimStart_append hfront, trim]
  by_cases h : trimStart text = []
  · have hall : ∀ c ∈ text ++ back, isWhiteSpace c = true := by
      intro c hc
      rcases List.mem_append.1 hc with hc | hc
      · exact trimStart_eq_nil_iff.1 h c hc
      · exact hback c hc
    rw [h, trimStart_eq_nil_iff.2 hall]
  · rw [trimStart_append_of_ne_nil h, trimEnd_append hback]

/-- A text is what is left of it with white space around. -/
theorem exists_eq_append_trim_append (text : List Char) :
    ∃ front back, (∀ c ∈ front, isWhiteSpace c = true) ∧ (∀ c ∈ back, isWhiteSpace c = true) ∧
      text = front ++ trim text ++ back := by
  obtain ⟨front, hfront, h⟩ := exists_eq_append_trimStart text
  obtain ⟨back, hback, h'⟩ := exists_eq_trimEnd_append (trimStart text)
  refine ⟨front, back, hfront, hback, ?_⟩
  rw [List.append_assoc, trim, ← h', ← h]

/-- Trimming adds nothing. -/
theorem mem_of_mem_trim {text : List Char} {c : Char} (h : c ∈ trim text) : c ∈ text := by
  obtain ⟨front, back, -, -, hsplit⟩ := exists_eq_append_trim_append text
  rw [hsplit]
  simp [h]

theorem trim_eq_self {text : List Char} (hfront : StartsBare text)
    (hback : StartsBare text.reverse) : trim text = text := by
  rw [trim, trimStart_eq_self_iff.2 hfront, trimEnd, trimStart_eq_self_iff.2 hback,
    List.reverse_reverse]

theorem trim_eq_self_of_forall {text : List Char} (h : ∀ c ∈ text, isWhiteSpace c = false) :
    trim text = text :=
  trim_eq_self (startsBare_of_forall h) (startsBare_of_forall (by simpa using h))

/-- What is left of a text ends with no white space. -/
theorem startsBare_reverse_trim (text : List Char) : StartsBare (trim text).reverse := by
  rw [trim, trimEnd, List.reverse_reverse]
  exact startsBare_trimStart _

@[simp] theorem trim_trim (text : List Char) : trim (trim text) = trim text := by
  obtain ⟨front, back, hfront, hback, h⟩ := exists_eq_append_trim_append text
  conv => rhs; rw [h]
  rw [trim_append_append hfront hback]

end Postulate.Text
