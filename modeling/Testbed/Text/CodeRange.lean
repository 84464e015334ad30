/-!
# Sets of code points

A property of characters that the Unicode standard fixes by enumeration is held as a list of closed
ranges of code points; `CodeRanges.contains` looks a character up.
-/

namespace Testbed.Text

/-- A set of code points, as closed ranges. -/
abbrev CodeRanges := List (Nat × Nat)

/-- Whether one of the ranges holds the character. -/
def CodeRanges.contains (ranges : CodeRanges) (c : Char) : Bool :=
  ranges.any fun (low, high) => low ≤ c.toNat && c.toNat ≤ high

end Testbed.Text
