/-!
# Sets of code points

A set of code points is written down by its borders: the increasing list of the points where
membership changes, beginning outside of the set. A point belongs to the set if an odd number of
borders is at or below it.
-/

namespace FuseMount.Text

/-- A set of code points, given by the points where membership changes. -/
structure CodePoints where
  /-- The borders, in increasing order: the first one opens the first run of members. -/
  borders : Array Nat

namespace CodePoints

/-- Membership: the number of borders up to the character is odd. -/
def contains (set : CodePoints) (c : Char) : Bool :=
  set.borders.countP (· ≤ c.toNat) % 2 == 1

end CodePoints

end FuseMount.Text
