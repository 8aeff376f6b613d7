import LuaReference.Mode
import LuaReference.Page.Basic

/-!
# Where a page goes and what it is called

* `Layout` : the directories of a run and the namespace of its library;
* `Placement.outputPath` : the page of a source;
* `Placement.moduleName?` : the directory below the first `modules` directory of a source;
* `Placement.defaultTitle`, `Placement.defaultSubtitle` : what a source without a header gets.
-/

namespace LuaReference

open Text

/-- The directories of a run and the namespace of its library. -/
structure Layout where
  outputDir : Path
  /-- Where the folders that sources ask for are. -/
  docsRoot : Path
  scope : Text

namespace Placement

/-- The text of a component. -/
def componentText : Component → Text
  | .root => "/"
  | .here => "."
  | .up => ".."
  | .name n => n

/-- The component after the first `modules`, when one more follows it. -/
def moduleAfter? : List Text → Option Text
  | [] => none
  | part :: rest =>
    if part = "modules" then
      match rest with
      | name :: _ :: _ => some name
      | _ => none
    else moduleAfter? rest

/-- The module that a source belongs to: the directory right below the first one called `modules`. -/
def moduleName? (source : Path) : Option Text := moduleAfter? (source.components.map componentText)

/-- Whether a source lies below a directory of items. -/
def isItem (source : Path) : Bool := source.components.any fun c => componentText c == "items"

/-- Whether a source documents panels. -/
def isPanels (source : Path) : Bool := sameName source.stem "panels"

/-- The page of a source: the folder and file that it asks for, or a name in the output directory
made of its own. -/
def outputPath (mode : Mode) (source : Path) (d : Directives) (layout : Layout) : Path :=
  match d.target? with
  | some (folder, file) => (layout.docsRoot.join folder).join file
  | none =>
    match mode with
    | .library | .compatibility =>
      let name := (moduleName? source).getD source.stem
      layout.outputDir.join (List.flatten [layout.scope, ".", name, ".md"])
    | .methods | .hooks => layout.outputDir.join (source.stem ++ ".md")
    | .definitions =>
      let file := lower source.stem ++ ".md"
      if isItem source then (layout.outputDir.join "items").join file
      else layout.outputDir.join file

/-- The title of a page whose source gives none. -/
def defaultTitle (source : Path) (d : Directives) : Text :=
  titleCase (match d.file with
    | some file => remove ".md" file
    | none => source.stem)

/-- The subtitle of a page whose source gives none. -/
def defaultSubtitle (mode : Mode) (source : Path) (title : Text) : Text :=
  match mode with
  | .library | .compatibility =>
    "This page documents the functions and methods in the Lilia library."
  | .methods => "This page documents the functions and methods in the meta table."
  | .hooks => List.flatten ["This page documents the ", lower title, " hooks."]
  | .definitions =>
    if isPanels source then "This page documents available VGUI panels."
    else List.flatten ["This page documents the ", lower title, " definitions."]

end Placement

end LuaReference
