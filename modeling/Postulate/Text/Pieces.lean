/-!
# Cutting a text at a character

`pieces sep text` are the parts of the text between the occurrences of a separator: one more
than there are separators, so that joining them with the separator gives the text back.
-/

namespace Postulate.Text

/-- The parts of a text between the occurrences of a separator. -/
def pieces (sep : Char) : List Char → List (List Char)
  | [] => [[]]
  | c :: rest =>
    match pieces sep rest with
    | [] => [[c]]
    | first :: others => if c = sep then [] :: first :: others else (c :: first) :: others

/-- The text up to the last occurrence of a separator and the text after it. -/
def cutAtLast (sep : Char) (text : List Char) : Option (List Char × List Char) :=
  let back := text.reverse
  match back.dropWhile (· != sep) with
  | [] => none
  | _ :: front => some (front.reverse, (back.takeWhile (· != sep)).reverse)

/-! ## Pieces -/

theorem pieces_ne_nil (sep : Char) (text : List Char) : pieces sep text ≠ [] := by
  cases text with
  | nil => simp [pieces]
  | cons c rest =>
    unfold pieces
    split
    · simp
    · split <;> simp

@[simp] theorem pieces_nil (sep : Char) : pieces sep [] = [[]] := rfl

theorem pieces_cons_self (sep : Char) (text : List Char) :
    pieces sep (sep :: text) = [] :: pieces sep text := by
  rw [pieces]
  split
  · next h => exact absurd h (pieces_ne_nil sep text)
  · next h => simp [h]

/-- A character other than the separator goes into the first piece. -/
theorem pieces_cons_of_ne {sep c : Char} (h : c ≠ sep) (text : List Char) :
    ∃ first others, pieces sep text = first :: others ∧
      pieces sep (c :: text) = (c :: first) :: others := by
  obtain ⟨first, others, hp⟩ := List.exists_cons_of_ne_nil (pieces_ne_nil sep text)
  exact ⟨first, others, hp, by simp [pieces, hp, h]⟩

/-- A text without the separator is its only piece. -/
theorem pieces_eq_singleton {sep : Char} {text : List Char} (h : sep ∉ text) :
    pieces sep text = [text] := by
  induction text with
  | nil => rfl
  | cons c text ih =>
    rw [List.mem_cons, not_or] at h
    obtain ⟨first, others, hp, hc⟩ := pieces_cons_of_ne (Ne.symm h.1) text
    rw [hc]
    rw [ih h.2] at hp
    simp_all

/-- The pieces before the first separator and after it. -/
theorem pieces_append_cons {sep : Char} {first : List Char} (h : sep ∉ first)
    (text : List Char) : pieces sep (first ++ sep :: text) = first :: pieces sep text := by
  induction first with
  | nil => exact pieces_cons_self sep text
  | cons c first ih =>
    rw [List.mem_cons, not_or] at h
    obtain ⟨head, others, hp, hc⟩ := pieces_cons_of_ne (Ne.symm h.1) (first ++ sep :: text)
    rw [List.cons_append, hc]
    rw [ih h.2] at hp
    simp_all

theorem not_mem_of_mem_pieces {sep : Char} {text piece : List Char}
    (h : piece ∈ pieces sep text) : sep ∉ piece := by
  induction text generalizing piece with
  | nil => simp_all
  | cons c text ih =>
    by_cases hc : c = sep
    · subst hc
      rw [pieces_cons_self] at h
      rcases List.mem_cons.1 h with rfl | h
      · simp
      · exact ih h
    · obtain ⟨first, others, hp, hcons⟩ := pieces_cons_of_ne hc text
      rw [hcons] at h
      rw [hp] at ih
      rcases List.mem_cons.1 h with rfl | h
      · have := ih List.mem_cons_self
        simp [this, Ne.symm hc]
      · exact ih (List.mem_cons_of_mem _ h)

/-- Joining the pieces with the separator gives the text back. -/
theorem intercalate_pieces (sep : Char) (text : List Char) :
    [sep].intercalate (pieces sep text) = text := by
  induction text with
  | nil => rfl
  | cons c text ih =>
    by_cases hc : c = sep
    · subst hc
      obtain ⟨first, others, hp⟩ := List.exists_cons_of_ne_nil (pieces_ne_nil c text)
      rw [pieces_cons_self]
      rw [hp] at ih ⊢
      simpa [List.intercalate] using ih
    · obtain ⟨first, others, hp, hcons⟩ := pieces_cons_of_ne hc text
      rw [hp] at ih
      rw [hcons]
      cases others with
      | nil => simpa [List.intercalate] using ih
      | cons second others => simpa [List.intercalate] using ih

/-- The pieces are known when the text is written as pieces without the separator, each but the
last with the separator behind it. -/
theorem pieces_eq_append_singleton_iff {sep : Char} {text last : List Char}
    {others : List (List Char)} :
    pieces sep text = others ++ [last] ↔
      (∀ piece ∈ others, sep ∉ piece) ∧ sep ∉ last ∧
        text = others.flatMap (· ++ [sep]) ++ last := by
  constructor
  · intro h
    have hmem : ∀ piece ∈ others ++ [last], sep ∉ piece := fun piece hp =>
      not_mem_of_mem_pieces (h ▸ hp)
    refine ⟨fun piece hp => hmem piece (by simp [hp]), hmem last (by simp), ?_⟩
    rw [← intercalate_pieces sep text, h]
    clear h hmem
    induction others with
    | nil => simp [List.intercalate]
    | cons first others ih =>
      rw [List.flatMap_cons, List.append_assoc, ← ih]
      cases others <;> simp [List.intercalate]
  · rintro ⟨hothers, hlast, rfl⟩
    induction others with
    | nil => exact pieces_eq_singleton hlast
    | cons first others ih =>
      rw [List.flatMap_cons, List.append_assoc, List.append_assoc, List.singleton_append,
        pieces_append_cons (hothers first (by simp)),
        ih fun piece hp => hothers piece (by simp [hp]), List.cons_append]

/-! ## The last separator -/

theorem cutAtLast_append_cons {sep : Char} {back : List Char} (h : sep ∉ back)
    (front : List Char) : cutAtLast sep (front ++ sep :: back) = some (front, back) := by
  have hback : ∀ c ∈ back.reverse, (c != sep) = true := fun c hc => by
    simpa using fun hcs : c = sep => h (hcs ▸ List.mem_reverse.1 hc)
  simp [cutAtLast, List.dropWhile_append_of_pos hback, List.takeWhile_append_of_pos hback]

theorem cutAtLast_eq_none_iff {sep : Char} {text : List Char} :
    cutAtLast sep text = none ↔ sep ∉ text := by
  constructor
  · intro h hmem
    obtain ⟨back, front, hsplit, hback⟩ := List.eq_append_cons_of_mem (List.mem_reverse.2 hmem)
    have htext : text = front.reverse ++ sep :: back.reverse := by
      rw [← List.reverse_reverse text, hsplit]
      simp
    rw [htext, cutAtLast_append_cons (by simpa using hback)] at h
    cases h
  · intro h
    have hall : ∀ c ∈ text.reverse, (c != sep) = true := fun c hc => by
      simpa using fun hcs : c = sep => h (hcs ▸ List.mem_reverse.1 hc)
    have hnil : text.reverse.dropWhile (· != sep) = [] := by
      have h := @List.dropWhile_append_of_pos _ (· != sep) text.reverse [] hall
      rwa [List.append_nil] at h
    simp [cutAtLast, hnil]

/-- The two parts are what stands around a separator with none behind it. -/
theorem cutAtLast_eq_some_iff {sep : Char} {text front back : List Char} :
    cutAtLast sep text = some (front, back) ↔ text = front ++ sep :: back ∧ sep ∉ back := by
  constructor
  · intro h
    have hmem : sep ∈ text := by
      rw [← Decidable.not_not (p := sep ∈ text), ← cutAtLast_eq_none_iff, h]
      simp
    obtain ⟨last, first, hsplit, hlast⟩ := List.eq_append_cons_of_mem (List.mem_reverse.2 hmem)
    have htext : text = first.reverse ++ sep :: last.reverse := by
      rw [← List.reverse_reverse text, hsplit]
      simp
    have hlast : sep ∉ last.reverse := by simpa using hlast
    rw [htext, cutAtLast_append_cons hlast] at h
    obtain ⟨rfl, rfl⟩ : first.reverse = front ∧ last.reverse = back := by simpa using h
    exact ⟨htext, hlast⟩
  · rintro ⟨rfl, h⟩
    exact cutAtLast_append_cons h front

end Postulate.Text
