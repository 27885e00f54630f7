/-!
# Ascending ranges

Sets of code points as lists of closed ranges in ascending order.
-/

namespace TerseSql.Text

/-- Whether a number lies in one of the ascending ranges. -/
def inRanges : List (Nat × Nat) → Nat → Bool
  | [], _ => false
  | (low, high) :: rest, n => if n < low then false else if n ≤ high then true else inRanges rest n

end TerseSql.Text
