import LuaReference.Entry.Basic
import LuaReference.Style.Anchor
import LuaReference.Style.Label
import LuaReference.Text.Indent
import LuaReference.Types.Link
import LuaReference.Types.Returns
import LuaReference.Types.Union

/-!
# Entries in Markdown

An entry as a heading, a badge for its realm, bold field names, a table of parameters and fenced
examples. It is put together from pieces that stand on lines of their own; a piece that ends in a
newline has a blank line after it.

* `tableCell` : text that fits into a cell of a table;
* `row` : the table's row for a parameter;
* `sample` : the pieces of an example;
* `markdown` : the whole entry.
-/

namespace LuaReference.Style.Markdown

open Text LuaReference.Types

/-- A type that links to its page. -/
def typeLink (links : Links) (display linkType : Text) : Text :=
  List.flatten ["[", display, "](", links.link linkType, ")"]

/-- A text in which pipes are escaped and line breaks are spaces. -/
def tableCell (t : Text) : Text := replaceChar '\n' " " (replaceChar '|' "\\|" t)

/-- A bold field name and the field's text, unless that is empty. -/
def field (name : Text) (t : Text) : List Text :=
  if t.isEmpty then [] else [List.flatten ["**", name, "**\n"], t ++ "\n"]

/-- The table's row for a parameter. -/
def row (links : Links) (p : Parameter) : Text :=
  let type := ofParameter p.type
  List.flatten
    ["| \x60", p.name, "\x60 | ", typeLink links (tableCell type.display) type.linkType,
     if type.optional then " *(optional)*" else "", " | ", tableCell p.description, " |"]

/-- What stands above the rows of the table of parameters. -/
def tableHead : List Text :=
  ["**Parameters**\n", "| Name | Type | Description |", "|------|------|-------------|"]

/-- The table of the parameters. -/
def parameters (links : Links) (ps : List Parameter) : List Text :=
  if ps.isEmpty then [] else tableHead ++ ps.map (row links) ++ [[]]

/-- What is returned. -/
def returned (links : Links) (t : Text) : Text :=
  let r := Returns.ofText t
  match r.type with
  | some type =>
    let type := ofReturn type
    let link := typeLink links type.display type.linkType
    if r.description.isEmpty then link else List.flatten [link, " ", r.description]
  | none => r.description

/-- What is returned, under its name. -/
def returns (links : Links) (t : Text) : List Text :=
  if t.isEmpty then [] else ["**Returns**\n", returned links t ++ "\n"]

/-- The line that opens a fence. -/
def fenceOpen : Text := "\x60\x60\x60lua"

/-- The line that closes a fence. -/
def fenceClose : Text := "\x60\x60\x60"

/-- The label of an example. -/
def sampleLabel (ex : Example) : List Text :=
  match exampleLabel? ex.label with
  | some label => [List.flatten ["*", label, "*\n"]]
  | none => []

/-- One example: its label, and its code between fences. -/
def sample (ex : Example) : List Text :=
  sampleLabel ex ++ fenceOpen :: unindent ex.code ++ [fenceClose ++ "\n"]

/-- The examples under their name. -/
def samples (examples : List Example) : List Text :=
  if examples.isEmpty then [] else "**Example Usage**\n" :: examples.flatMap sample

/-- The pieces of an entry. -/
def pieces (links : Links) (name : Text) (e : Entry) : List Text :=
  [List.flatten ["<a id=\"", slug name, "\"></a>"],
   List.flatten ["### ", name, "\n"],
   List.flatten ["> \x60", e.realmClass.name, "\x60\n"]] ++
    field "Purpose" e.purpose ++
    field "When Called" (e.when?.getD []) ++
    parameters links e.parameters ++
    returns links e.returns ++
    field "Explanation" e.explanation ++
    samples e.examples

/-- An entry in Markdown. -/
def markdown (links : Links) (name : Text) (e : Entry) : Text :=
  join "\n" (pieces links name e) ++ "\n"

end LuaReference.Style.Markdown
