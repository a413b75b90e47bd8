/-!
# Sets of code points

A character property is given by the closed ranges of code points that have it.
-/

namespace Workflow.Text

/-- Closed ranges of code points. -/
abbrev Ranges := List (Nat × Nat)

namespace Ranges

/-- Membership of a code point in one of the ranges. -/
def contains (ranges : Ranges) (code : Nat) : Bool :=
  ranges.any fun range => range.1 ≤ code && code ≤ range.2

end Ranges

end Workflow.Text
