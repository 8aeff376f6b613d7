import LuaReference.Comment.Directive
import LuaReference.Style.Fragment
import LuaReference.Style.Label

/-!
# Modes

* `Mode` : which part of a framework some sources document;
* `Mode.resolve` : what a source in compatibility mode is, by its folder;
* `Mode.naming`, `Mode.defaultStyle`, `Mode.isCode` : what follows from the mode.
-/

namespace LuaReference

open Text

/-- Which part of a framework some sources document. -/
inductive Mode where
  /-- Functions under one namespace. -/
  | library
  /-- Methods of a receiver. -/
  | methods
  /-- Library files, some of which declare themselves to be about methods. -/
  | compatibility
  /-- Properties of items, classes, factions, attributes and panels. -/
  | definitions
  /-- Files that only document hooks. -/
  | hooks
  deriving DecidableEq, Repr

namespace Mode

/-- The mode of one source: compatibility is settled by the folder that the source asks for. -/
def resolve (mode : Mode) (d : Directives) : Mode :=
  match mode with
  | .compatibility =>
    if (d.folder.map fun folder => sameName folder "meta").getD false then .methods else .library
  | other => other

/-- How names are shown. -/
def naming : Mode → Style.Naming
  | .library | .compatibility => .library
  | .methods | .hooks => .method
  | .definitions => .plain

/-- The style of pages for which none was chosen. -/
def defaultStyle : Mode → Style
  | .definitions => .markdown
  | _ => .html

/-- Whether the sources are code, and not only documentation. -/
def isCode : Mode → Bool
  | .library | .methods | .compatibility => true
  | .definitions | .hooks => false

end Mode

end LuaReference
