import Mathlib.Tactic.Lemma

/-!
# Letters of ASCII

Which characters are letters, by their code points, and what becomes of them in lower case: a
capital letter becomes a small one and every other character stays as it is
(`isLower_toLower_or_eq`).
-/

namespace Postulate.Text

variable {c : Char}

lemma isUpper_iff : c.isUpper = true ↔ 0x41 ≤ c.toNat ∧ c.toNat ≤ 0x5A := decide_eq_true_iff

lemma isLower_iff : c.isLower = true ↔ 0x61 ≤ c.toNat ∧ c.toNat ≤ 0x7A := by
  change (decide (0x61 ≤ c.toNat) && decide (c.toNat ≤ 0x7A)) = true ↔ _
  rw [Bool.and_eq_true, decide_eq_true_eq, decide_eq_true_eq]

lemma isAlpha_iff : c.isAlpha = true ↔ c.isUpper = true ∨ c.isLower = true := Bool.or_eq_true_iff

lemma isAlphanum_iff : c.isAlphanum = true ↔ c.isAlpha = true ∨ c.isDigit = true :=
  Bool.or_eq_true_iff

/-- A small letter comes 32 code points after its capital. -/
lemma toNat_toLower (h : c.isUpper = true) : c.toLower.toNat = c.toNat + 0x20 := by
  have hlower : c.toLower.val = c.val + 0x20 := congrArg Char.val (dif_pos (of_decide_eq_true h))
  have hcode : c.val.toNat ≤ 0x5A := (isUpper_iff.1 h).2
  change c.toLower.val.toNat = c.val.toNat + 0x20
  rw [hlower, UInt32.toNat_add]
  change (c.val.toNat + 0x20) % 2 ^ 32 = c.val.toNat + 0x20
  omega

lemma isLower_toLower_or_eq (c : Char) :
    c.isUpper = true ∧ c.toLower.isLower = true ∨ c.isUpper = false ∧ c.toLower = c := by
  cases h : c.isUpper with
  | true =>
    have hcode := isUpper_iff.1 h
    refine Or.inl ⟨rfl, isLower_iff.2 ?_⟩
    rw [toNat_toLower h]
    omega
  | false => exact Or.inr ⟨rfl, dif_neg (of_decide_eq_false h)⟩

end Postulate.Text
