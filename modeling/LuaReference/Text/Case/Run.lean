import LuaReference.Text.Blank

/-!
# Runs of case mappings

* `CaseRun` : equally spaced code points that are moved by one distance;
* `CaseRun.image` : where a code point goes, itself when no run has it.
-/

namespace LuaReference.Text

/-- The code points `first`, `first + step`, … up to `last`; `first` is mapped to `target` and the
others keep their distance to it. -/
structure CaseRun where
  first : Nat
  last : Nat
  step : Nat
  target : Nat

/-- The image of a code point under runs in increasing order. -/
def CaseRun.image : List CaseRun → Nat → Nat
  | [], n => n
  | r :: rest, n =>
    if n < r.first then n
    else if n ≤ r.last then
      if (n - r.first) % r.step = 0 then r.target + (n - r.first) else n
    else CaseRun.image rest n

end LuaReference.Text
