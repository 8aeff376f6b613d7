import LuaReference.Text.Case
import LuaReference.Text.Word

/-!
# Anchors

* `collapse` : runs of hyphens and blanks become one hyphen;
* `slug` : the anchor of a heading.
-/

namespace LuaReference.Style

open Text

/-- A character that divides the parts of an anchor. -/
def isDivider (c : Char) : Bool := c == '-' || isBlank c

/-- A character that an anchor keeps, as itself or as a hyphen. -/
def isKept (c : Char) : Bool := isWord c || isDivider c

/-- Writes one hyphen for every run of dividers; `inRun` says that the run has its hyphen. -/
def collapse (inRun : Bool) : Text → Text
  | [] => []
  | c :: r =>
    if isDivider c then (if inRun then [] else ['-']) ++ collapse true r
    else c :: collapse false r

/-- The anchor of a name: lower case, only word characters and dividers, runs of dividers as one
hyphen. -/
def slug (name : Text) : Text := collapse false ((lower name).filter isKept)

end LuaReference.Style
