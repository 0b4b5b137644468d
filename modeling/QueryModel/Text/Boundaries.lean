/-!
# Sets of characters by boundaries

A set of characters is written as the sorted list of code points at which
membership changes.  The first boundary opens the first range, the second is
the first code point after it, and so on.  A code point is in the set when an
odd number of boundaries lie at or below it.
-/

namespace QueryModel.Text

/-- Membership of a character in the set with the given boundaries. -/
def inBoundaries (boundaries : List Nat) (c : Char) : Bool :=
  (boundaries.takeWhile (· ≤ c.toNat)).length % 2 == 1

end QueryModel.Text
