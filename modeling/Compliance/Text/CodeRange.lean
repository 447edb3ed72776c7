/-
**Tables of code points.**

A property of characters is kept as a list of closed ranges of code points.

Main definition:

* `inRanges` — whether a code point lies in one of the ranges.
-/

set_option relaxedAutoImplicit false
set_option autoImplicit false

namespace Compliance.Text

/-- Whether a code point lies in one of the closed ranges. -/
def inRanges (ranges : List (Nat × Nat)) (code : Nat) : Bool :=
  ranges.any fun range => range.1 ≤ code && code ≤ range.2

theorem inRanges_eq_true_iff (ranges : List (Nat × Nat)) (code : Nat) :
    inRanges ranges code = true ↔ ∃ range ∈ ranges, range.1 ≤ code ∧ code ≤ range.2 := by
  simp [inRanges]

end Compliance.Text
