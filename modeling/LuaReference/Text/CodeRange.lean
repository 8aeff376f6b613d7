import LuaReference.Text.Blank

/-!
# Sets of code points

* `CodeRanges` : a set of code points as ranges in increasing order;
* `CodeRanges.has` : membership, which stops at the first range above the code point.
-/

namespace LuaReference.Text

/-- A set of code points: ranges given by both ends, in increasing order. -/
abbrev CodeRanges := List (Nat × Nat)

/-- Whether a code point lies in one of the ranges. -/
def CodeRanges.has : CodeRanges → Nat → Bool
  | [], _ => false
  | (first, last) :: rest, n =>
    if n < first then false else if n ≤ last then true else CodeRanges.has rest n

end LuaReference.Text
