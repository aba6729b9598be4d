/-!
# Sets of code points

A property of characters is given by the code points at which it begins and
ends to hold: the first run of the set starts at the first boundary and stops
before the second, and so on. A code point belongs to the set when an odd
number of boundaries lies at or below it.
-/

namespace Shipwright

/-- A set of code points by its boundaries in ascending order. -/
structure CodePointSet where
  /-- Where runs of the set begin and end, alternately. -/
  boundaries : List Nat
  deriving Repr

namespace CodePointSet

/-- Whether a character belongs to the set. -/
def contains (s : CodePointSet) (c : Char) : Bool :=
  (s.boundaries.takeWhile (· ≤ c.toNat)).length % 2 = 1

end CodePointSet

end Shipwright
