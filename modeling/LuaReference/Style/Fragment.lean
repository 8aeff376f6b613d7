import LuaReference.Style.Details
import LuaReference.Style.Markdown

/-!
# Fragments of pages

* `Style` : the two ways in which an entry can be written;
* `Style.fragment?` : an entry in a style, nothing for an entry without a purpose.
-/

namespace LuaReference

/-- How entries are written. -/
inductive Style where
  /-- Collapsible elements with linked types. -/
  | html
  /-- Headings, a table of parameters and fenced examples. -/
  | markdown
  deriving DecidableEq, Repr

/-- An entry under a name, in a style; an entry without a purpose is not written. -/
def Style.fragment? (style : Style) (links : Types.Links) (name : Text) (e : Entry) :
    Option Text :=
  if !e.isComplete then none
  else
    match style with
    | .html => some (Style.Details.details links name e)
    | .markdown => some (Style.Markdown.markdown links name e)

end LuaReference
