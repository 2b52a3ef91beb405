import CompileTrace.Text.Basic

set_option autoImplicit false

/-! # Ranges of code points

Character classes that no short rule describes are tables of ranges of code points. -/

namespace CompileTrace

/-- A first and a last code point, both in the range. -/
abbrev CodeRange := Nat × Nat

/-- Whether one of the ranges holds the code point of a character. -/
def inRanges (ranges : List CodeRange) (c : CodePoint) : Bool :=
  ranges.any (fun r => decide (r.1 ≤ c.toNat) && decide (c.toNat ≤ r.2))

theorem inRanges_iff (ranges : List CodeRange) (c : CodePoint) :
    inRanges ranges c = true ↔ ∃ r ∈ ranges, r.1 ≤ c.toNat ∧ c.toNat ≤ r.2 := by
  simp [inRanges]

end CompileTrace
