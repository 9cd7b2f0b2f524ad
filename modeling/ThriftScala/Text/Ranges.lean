/-
  Sets of code points given by their ranges.  A character class of the Unicode standard is a
  value of type `Ranges`; the table modules beside this file hold such values and nothing else.
-/

namespace ThriftScala.Text

/-- A set of code points: closed ranges `(first, last)` in increasing order. -/
abbrev Ranges := List (Nat × Nat)

/-- Does one of the ranges hold the character? -/
def Ranges.holds (rs : Ranges) (c : Char) : Bool :=
  rs.any fun r => r.1 ≤ c.toNat && c.toNat ≤ r.2

theorem Ranges.holds_iff {rs : Ranges} {c : Char} :
    rs.holds c = true ↔ ∃ r ∈ rs, r.1 ≤ c.toNat ∧ c.toNat ≤ r.2 := by
  simp [Ranges.holds]

end ThriftScala.Text
