import LuaReference.Entry.ExampleLabel

/-!
# Names and labels as readers see them

* `Naming`, `displayName` : how a qualified name is shown;
* `exampleLabel?` : how the label of an example is shown, nothing for the default one.
-/

namespace LuaReference.Style

open Text

/-- How a qualified name is shown. -/
inductive Naming where
  /-- With the namespace in front. -/
  | library
  /-- Without the receiver. -/
  | method
  /-- As written. -/
  | plain
  deriving DecidableEq, Repr

/-- The name shown for a qualified name: a library name gets the namespace where it lacks it, a
method loses everything up to its first colon. -/
def displayName (qualified : Text) (naming : Naming) (scope : Text) : Text :=
  match naming with
  | .library =>
    let front := scope ++ "."
    if startsWith front qualified then qualified else front ++ qualified
  | .method =>
    match cut? ":" qualified with
    | some (_, method) => method
    | none => qualified
  | .plain => qualified

/-- The label shown for an example. -/
def exampleLabel? (label : Text) : Option Text :=
  let name := lower (trim label)
  if name.isEmpty || name == Example.defaultLabel then none
  else if Example.levels.contains name then some (titleCase name ++ " Complexity")
  else some (titleCase name)

end LuaReference.Style
