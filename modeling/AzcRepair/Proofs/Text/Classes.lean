import AzcRepair.Text.Blank
import AzcRepair.Text.Digit
import AzcRepair.Text.Word

/-!
# Classes of characters

Classes whose tables have no code point in common have no character in common: no blank is part of a
word, and none is a digit.
-/

namespace AzcRepair.Text

/-- Two tables without a common range have no common character. -/
theorem inRanges_eq_false_of_disjoint {first second : List (Nat × Nat)} {c : Char}
    (disjoint : ∀ one ∈ first, ∀ other ∈ second, one.2 < other.1 ∨ other.2 < one.1)
    (mem : inRanges first c = true) : inRanges second c = false := by
  obtain ⟨one, inFirst, above, below⟩ := inRanges_iff.mp mem
  refine Bool.eq_false_iff.mpr fun both => ?_
  obtain ⟨other, inSecond, above', below'⟩ := inRanges_iff.mp both
  -- the character would lie in both ranges
  rcases disjoint one inFirst other inSecond with apart | apart <;> omega

theorem isWord_of_isBlank {c : Char} (blank : isBlank c = true) : isWord c = false :=
  inRanges_eq_false_of_disjoint (by decide +kernel) blank

theorem isDecimalDigit_of_isBlank {c : Char} (blank : isBlank c = true) :
    isDecimalDigit c = false :=
  inRanges_eq_false_of_disjoint (by decide +kernel) blank

theorem isBlank_of_isDigit {c : Char} (digit : c.isDigit = true) : isBlank c = false := by
  refine Bool.eq_false_iff.mpr fun blank => ?_
  cases (isDecimalDigit_of_isBlank blank).symm.trans (isDecimalDigit_of_isDigit digit)

end AzcRepair.Text
