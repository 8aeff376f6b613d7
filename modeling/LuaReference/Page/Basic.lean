import LuaReference.Files.Path

/-!
# Pages

* `Page` : what one source contributes to the page at a path;
* `Page.preamble`, `Page.sectionsText`, `Page.render` : its text.
-/

namespace LuaReference

open Text

/-- What one source contributes to the page at a path. -/
structure Page where
  title : Text
  subtitle : Text
  overview : Option Text
  sections : List Text
  path : Path
  append : Bool
  deriving DecidableEq, Repr

namespace Page

/-- Ends a part of a page. -/
def rule : Text := "---\n\n"

/-- The overview under its heading. -/
def overviewText : Option Text → Text
  | none => []
  | some overview => List.flatten ["Overview\n\n", overview, "\n\n", rule]

/-- What stands at the top of a page: title, subtitle and overview. -/
def preamble (page : Page) : Text :=
  List.flatten
    ["# ", page.title, "\n\n", page.subtitle, "\n\n", rule, overviewText page.overview]

/-- The sections, each followed by a rule. -/
def sectionsText (page : Page) : Text := page.sections.flatMap fun sect => sect ++ rule

/-- The text of a page, with or without what stands at its top. -/
def render (page : Page) (withPreamble : Bool) : Text :=
  (if withPreamble then page.preamble else []) ++ page.sectionsText

end Page

end LuaReference
