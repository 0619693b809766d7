/-!
# Sets of characters

A set of characters as the ranges of their numbers, in ascending order.
-/

namespace Redelivery.Text

/-- Ranges of character numbers, each with its first and its last. -/
structure CharacterSet where
  ranges : Array (Nat × Nat)

def CharacterSet.holds (s : CharacterSet) (c : Char) : Bool :=
  s.ranges.any fun (first, last) => first ≤ c.toNat && c.toNat ≤ last

end Redelivery.Text
