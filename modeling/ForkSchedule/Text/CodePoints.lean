/-!
# Sets of code points

A set of code points is given by its boundaries in ascending order: the first boundary is in the
set, the second is the first one out of it again, and so on.
-/

namespace ForkSchedule.Text

/-- A set of code points, as the points at which membership changes. -/
structure CodePoints where
  boundaries : Array Nat

/-- A code point is in the set when an odd number of boundaries lie at or before it. -/
def CodePoints.has (points : CodePoints) (code : Nat) : Bool :=
  points.boundaries.countP (· ≤ code) % 2 == 1

end ForkSchedule.Text
