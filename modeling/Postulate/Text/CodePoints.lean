/-!
# Sets of code points

A Unicode property is given as a table: the code points that have it, as closed ranges. This
file holds the membership test shared by all tables.
-/

namespace Postulate.Text

/-- Closed ranges of code points, first and last. -/
abbrev CodePoints := List (Nat × Nat)

namespace CodePoints

/-- Is the character in one of the ranges? -/
def has (table : CodePoints) (c : Char) : Bool :=
  table.any fun range => range.1 ≤ c.toNat && c.toNat ≤ range.2

theorem has_iff {table : CodePoints} {c : Char} :
    table.has c = true ↔ ∃ range ∈ table, range.1 ≤ c.toNat ∧ c.toNat ≤ range.2 := by
  simp [has]

end CodePoints

end Postulate.Text
