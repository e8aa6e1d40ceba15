/-!
# Sets of characters

A property of characters is given by the ranges of code points that have it, in increasing order.
The tables of the properties stand in modules of their own, named for the property.
-/

namespace TaskAgent.Text

/-- A set of code points: the first and last of each range, in increasing order. -/
abbrev CodePoints := List (Nat × Nat)

namespace CodePoints

/-- Whether a code point lies in one of the ranges; looking stops at the first range above it. -/
def holds : CodePoints → Nat → Bool
  | [], _ => false
  | (first, last) :: rest, point =>
    if point < first then false
    else if point ≤ last then true
    else holds rest point

/-- Whether a character lies in one of the ranges. -/
def contains (points : CodePoints) (c : Char) : Bool := points.holds c.toNat

end CodePoints

end TaskAgent.Text
