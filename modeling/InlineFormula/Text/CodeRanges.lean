/-!
Sets of characters given as closed ranges of code points. The tables beside this module list
the ranges of one Unicode property each, in increasing order.
-/

namespace InlineFormula.Text

/-- Each pair holds the first and the last code point of a range. -/
abbrev CodeRanges := List (Nat × Nat)

/-- A set of ranges covers the characters whose code point lies in one of them. -/
def CodeRanges.covers (ranges : CodeRanges) (char : Char) : Bool :=
  ranges.any fun range => range.1 ≤ char.toNat && char.toNat ≤ range.2

theorem covers_iff (ranges : CodeRanges) (char : Char) :
    ranges.covers char = true ↔
      ∃ range ∈ ranges, range.1 ≤ char.toNat ∧ char.toNat ≤ range.2 := by
  simp [CodeRanges.covers]

end InlineFormula.Text
