import LuaReference.Entry.Basic
import LuaReference.Style.Anchor
import LuaReference.Style.Label
import LuaReference.Text.Indent
import LuaReference.Types.Link
import LuaReference.Types.Returns
import LuaReference.Types.Union

/-!
# Collapsible entries

An entry as a `<details>` element, with linked types and escaped code.

* `escape` : text in which `&`, `<` and `>` are entities;
* `signature` : the names of the parameters;
* `exampleCode` : the code of an example, four spaces in;
* `details` : the whole entry.
-/

namespace LuaReference.Style.Details

open Text LuaReference.Types

/-- Writes `&`, `<` and `>` as entities. -/
def escape (t : Text) : Text :=
  replaceChar '>' "&gt;" (replaceChar '<' "&lt;" (replaceChar '&' "&amp;" t))

/-- A type that links to its page. -/
def typeLink (links : Links) (display linkType : Text) : Text :=
  List.flatten
    ["<span class=\"types\"><a class=\"type\" href=\"", links.link linkType, "\">", display,
     "</a></span>"]

/-- The names of the parameters, without empty ones. -/
def signature (e : Entry) : Text :=
  join ", " ((e.parameters.map (·.name)).filter fun name => !name.isEmpty)

/-- A space and a text, unless the text is empty. -/
def spaced (t : Text) : Text := if t.isEmpty then [] else ' ' :: t

/-- A paragraph, unless the text is empty. -/
def paragraph (t : Text) : Text := if t.isEmpty then [] else List.flatten ["<p>", t, "</p>\n"]

/-- One parameter, after the heading where it is the first. -/
def parameter (links : Links) (lead : Text) (p : Parameter) : Text :=
  let type := ofParameter p.type
  List.flatten
    [lead, typeLink links type.display type.linkType, " <span class=\"parameter\">", p.name,
     "</span>", if type.optional then " <span class=\"optional\">optional</span>" else "",
     spaced p.description, "</p>\n"]

/-- The parameters under their heading. -/
def parameters (links : Links) : List Parameter → Text
  | [] => []
  | first :: rest =>
    List.flatten
      [parameter links "<p><h3>Parameters:</h3>\n" first,
       (rest.map (parameter links "<p>")).flatten, "\n"]

/-- What is returned, under its heading. -/
def returns (links : Links) (t : Text) : Text :=
  if t.isEmpty then []
  else
    let r := Returns.ofText t
    let shown : Text :=
      match r.type with
      | some type =>
        let type := ofReturn type
        typeLink links type.display type.linkType ++ spaced r.description
      | none => r.description
    List.flatten ["<p><h3>Returns:</h3>\n", shown, "</p>\n\n"]

/-- The code of an example: unindented, then every line that holds something four spaces in. -/
def exampleCode (code : List Text) : Text :=
  join "\n" ((unindent code).map fun line => if line.isEmpty then line else "    ".toList ++ line)

/-- One example with its label. -/
def sample (ex : Example) : Text :=
  List.flatten
    [match exampleLabel? ex.label with
      | some label => List.flatten ["<p><strong>", label, "</strong></p>\n"]
      | none => [],
     "<pre><code class=\"language-lua\">", escape (exampleCode ex.code), "</code></pre>\n"]

/-- The examples under their heading. -/
def samples (examples : List Example) : Text :=
  if examples.isEmpty then []
  else "<h3>Example Usage:</h3>\n".toList ++ (examples.map sample).flatten

/-- An entry as a collapsible element. -/
def details (links : Links) (name : Text) (e : Entry) : Text :=
  List.flatten
    ["<details class=\"realm-", e.realmClass.name, "\">\n",
     "<summary>", escape name, "(", signature e, ")</summary>\n",
     "<a id=\"", slug name, "\"></a>\n",
     paragraph e.purpose,
     paragraph (e.when?.getD []),
     parameters links e.parameters,
     returns links e.returns,
     paragraph e.explanation,
     samples e.examples,
     "</details>\n\n"]

end LuaReference.Style.Details
