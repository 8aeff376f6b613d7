import LuaReference.Mode
import LuaReference.Page.Write
import LuaReference.Text.NameSet

/-!
# Coverage

* `Report` : what came of one source;
* `Coverage`, `Coverage.record` : the names collected over a run;
* `Coverage.missingHooks`, `Coverage.undocumented`, `Coverage.extraDocumented` : the differences;
* `Coverage.render` : the report on them.
-/

namespace LuaReference

open Text

/-- What came of one source. -/
structure Report where
  mode : Mode
  declared : List Text
  documented : List Text
  hooksUsed : NameSet
  /-- Nothing when there was nothing to write. -/
  outcome : Option Outcome

/-- The names collected over a run. -/
structure Coverage where
  /-- Functions that code declares. -/
  declared : NameSet := .empty
  /-- Everything that has an entry on a page. -/
  documented : NameSet := .empty
  /-- What has an entry on a page about hooks. -/
  hookDocs : NameSet := .empty
  hooksUsed : NameSet := .empty

namespace Coverage

/-- Adds what came of one source. -/
def record (c : Coverage) (r : Report) : Coverage where
  declared := if r.mode.isCode then c.declared.insertAll r.declared else c.declared
  documented := c.documented.insertAll r.documented
  hookDocs := if r.mode = .hooks then c.hookDocs.insertAll r.documented else c.hookDocs
  hooksUsed := c.hooksUsed.insertAll r.hooksUsed.names

/-- The hooks that are used and not documented. -/
def missingHooks (c : Coverage) : List Text := c.hooksUsed.diff c.hookDocs

/-- The functions that are declared and not documented. -/
def undocumented (c : Coverage) : List Text := c.declared.diff c.documented

/-- The hooks that are documented and not used. -/
def extraDocumented (c : Coverage) : List Text := c.hookDocs.diff c.hooksUsed

/-- One list of the report under its heading, which gives its length. -/
def listing (title : Text) (names : List Text) : Text :=
  List.flatten
    ["\n## ", title, " (", (toString names.length).toList, ")\n\n",
     if names.isEmpty then "None.\n"
     else names.flatMap fun name => List.flatten ["- \x60", name, "\x60\n"]]

/-- The report. -/
def render (c : Coverage) : Text :=
  List.flatten
    ["# Documentation Coverage\n",
     listing "Missing hooks" c.missingHooks,
     listing "Undocumented functions" c.undocumented,
     listing "Extra documented" c.extraDocumented]

end Coverage

end LuaReference
