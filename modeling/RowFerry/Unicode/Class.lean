/-!
Classes of code points, written as the ascending list of the ends of their ranges.
-/

namespace RowFerry.Unicode

/-- Membership in the class that starts at the first end, stops before the second, starts again at
the third, and so on. -/
def memEnds : List Nat → Nat → Bool
  | [], _ => false
  | [start], c => decide (start ≤ c)
  | start :: stop :: ends, c => decide (start ≤ c) && (decide (c < stop) || memEnds ends c)

end RowFerry.Unicode
