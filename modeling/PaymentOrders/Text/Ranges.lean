/-!
# Ranges of code points

A property of characters is a table of ranges. The ranges ascend and do not touch, so that each
property has one table.
-/

namespace PaymentOrders.Text

/-- The first and the last code point of each range. -/
abbrev Ranges := List (Nat × Nat)

namespace Ranges

def contains (ranges : Ranges) (n : Nat) : Bool :=
  ranges.any fun range => range.1 ≤ n && n ≤ range.2

/-- Whether the ranges ascend and leave a gap between each two. -/
def isAscending : Ranges → Bool
  | [] | [_] => true
  | (_, last) :: (first, last') :: ranges =>
      last + 1 < first && isAscending ((first, last') :: ranges)

theorem contains_iff (ranges : Ranges) (n : Nat) :
    contains ranges n = true ↔ ∃ range ∈ ranges, range.1 ≤ n ∧ n ≤ range.2 := by
  simp [contains]

end Ranges

end PaymentOrders.Text
