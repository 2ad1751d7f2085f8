/-! # Ranges of characters

A class of characters as a list of closed ranges of code points. -/

namespace PageBuilder.Text

/-- First and last code point. -/
abbrev CharRange := Nat × Nat

/-- Membership in one of the ranges. -/
def inRanges (ranges : List CharRange) (c : Char) : Bool :=
  ranges.any fun r => r.1 ≤ c.toNat && c.toNat ≤ r.2

theorem inRanges_iff {ranges : List CharRange} {c : Char} :
    inRanges ranges c ↔ ∃ r ∈ ranges, r.1 ≤ c.toNat ∧ c.toNat ≤ r.2 := by
  simp [inRanges]

end PageBuilder.Text
