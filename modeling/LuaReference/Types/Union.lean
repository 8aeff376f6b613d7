import LuaReference.Text.Basic
import LuaReference.Text.Case

/-!
# Type unions

A type is written as members divided by `|`. The member `nil`, in any case, means that a value may
be missing.

* `members` : the members that are not blank, trimmed;
* `ParameterType`, `ofParameter` : the type of a parameter, where `nil` is shown as optional;
* `ReturnType`, `ofReturn` : the type of a result, shown as written.
-/

namespace LuaReference.Types

open Text

/-- The members of a union. -/
def members (t : Text) : List Text := ((splitOn '|' t).map trim).filter fun m => !m.isEmpty

/-- Whether a member stands for a missing value. -/
def isNil (member : Text) : Bool := sameName member "nil"

/-- The type of a parameter: what is shown, the type that it links to, and whether the parameter may
be left out. -/
structure ParameterType where
  display : Text
  linkType : Text
  optional : Bool
  deriving DecidableEq, Repr

/-- The type of a parameter. `nil` makes it optional and is not shown, unless nothing else is
there. -/
def ofParameter (t : Text) : ParameterType :=
  let all := members t
  match all.filter fun m => !isNil m with
  | first :: rest => ⟨join "|" (first :: rest), first, all.any isNil⟩
  | [] => if all.any isNil then ⟨"nil", "nil", false⟩ else ⟨[], [], false⟩

/-- The type of a result: what is shown, and the type that it links to. -/
structure ReturnType where
  display : Text
  linkType : Text
  deriving DecidableEq, Repr

/-- The type of a result, shown as written. It links to the first member that is not `nil`, or else
to the first. -/
def ofReturn (t : Text) : ReturnType :=
  let all := members t
  ⟨join "|" all, ((all.find? fun m => !isNil m) <|> all.head?).getD []⟩

end LuaReference.Types
