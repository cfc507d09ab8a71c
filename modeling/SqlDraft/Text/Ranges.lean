/-!
# Ranges of code points

Sets of characters as closed ranges of their numbers, in ascending order.
-/

namespace SqlDraft.Text

/-- Whether a code point lies in one of the ranges. The ranges ascend, so the search stops at the
first range that ends at or after the code point. -/
def coveredBy : List (Nat × Nat) → Nat → Bool
  | [], _ => false
  | (low, high) :: rest, code => if code ≤ high then low ≤ code else coveredBy rest code

end SqlDraft.Text
