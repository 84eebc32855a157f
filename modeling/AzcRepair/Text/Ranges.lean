/-!
# Sets of characters given by code point ranges

A character class of a standard is a sorted list of inclusive ranges; `inRanges` is membership.
-/

namespace AzcRepair.Text

/-- The code point of `c` lies in one of the inclusive ranges. -/
def inRanges (table : List (Nat × Nat)) (c : Char) : Bool :=
  table.any fun range => range.1 ≤ c.toNat && c.toNat ≤ range.2

theorem inRanges_iff {table : List (Nat × Nat)} {c : Char} :
    inRanges table c = true ↔ ∃ range ∈ table, range.1 ≤ c.toNat ∧ c.toNat ≤ range.2 := by
  simp [inRanges]

end AzcRepair.Text
