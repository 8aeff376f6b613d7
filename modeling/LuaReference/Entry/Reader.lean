import LuaReference.Comment.Block
import LuaReference.Entry.ExampleLabel
import LuaReference.Entry.ParameterLine

/-!
# Reading entries

An entry is read line by line. A line that starts with a section keyword closes what is open and
opens its section; any other line belongs to the section that is open.

* `Open` : the section that is open, with what was read of it;
* `Reader`, `Reader.feed`, `Reader.finish` : the state of reading, one line, the end;
* `Entry.ofLines`, `Entry.parse` : the entry of some lines, of a block.
-/

namespace LuaReference

open Text

namespace Entry

/-- An example that is being read: its lines of code from the last one back, and whether the next
line is inside its fence. -/
structure OpenExample where
  label : Text
  code : List Text := []
  inCode : Bool
  deriving DecidableEq, Repr

/-- The example read so far. -/
def OpenExample.close (ex : OpenExample) : Example := ⟨ex.label, ex.code.reverse⟩

/-- The open section and what was read of it. -/
inductive Open where
  /-- No section yet: lines have no meaning. -/
  | nothing
  /-- Free text, from its last line back. -/
  | text (field : TextField) (lines : List Text)
  /-- Parameters, with the name and type whose description is awaited. -/
  | parameters (pending : Option (Text × Text))
  /-- Examples, with the one that is being read. -/
  | examples (current : Option OpenExample)
  deriving DecidableEq, Repr

/-- The section is over: what was read of it goes into the entry. Text that is blank replaces
nothing. -/
def close (e : Entry) : Open → Entry
  | .nothing => e
  | .text field lines =>
    let value := trim (join "\n" lines.reverse)
    if value.isEmpty then e else e.setText field value
  | .parameters none => e
  | .parameters (some (name, type)) =>
    { e with parameters := e.parameters ++ [.ofParts name type []] }
  | .examples none => e
  | .examples (some current) => { e with examples := e.examples ++ [current.close] }

/-- The state of reading an entry. -/
structure Reader where
  entry : Entry := {}
  current : Open := .nothing
  deriving DecidableEq, Repr

namespace Reader

/-- Whether a trimmed line is a marker of the comment itself. -/
def isDelimiter (line : Text) : Bool :=
  startsWith Comment.opening line || startsWith "--]]" line || line == "[[" ||
    line == Comment.closing

/-- Whether a trimmed line begins or ends a fence. -/
def isFence (line : Text) : Bool := startsWith "```" line

/-- A line of the parameters: a comment is passed over, a `name (type)` line awaits its description,
and any other line is the description that is awaited or a parameter of its own. -/
def parameterLine (e : Entry) (pending : Option (Text × Text)) (raw line : Text) : Reader :=
  if startsWith "--" line then ⟨e, .parameters pending⟩
  else
    match Parameter.pending? raw with
    | some next => ⟨e.close (.parameters pending), .parameters (some next)⟩
    | none =>
      match pending with
      | some (name, type) =>
        ⟨{ e with parameters := e.parameters ++ [.ofParts name type line] }, .parameters none⟩
      | none =>
        ⟨{ e with parameters := e.parameters ++ (Parameter.parseLine? line).toList },
          .parameters none⟩

/-- A line of the examples: a fence switches between code and text, a line of code is kept or sets
the level, and a label outside code starts a new example. -/
def exampleLine (e : Entry) (current : Option OpenExample) (raw line : Text) : Reader :=
  if isFence line then
    match current with
    | some ex => ⟨e, .examples (some { ex with inCode := !ex.inCode })⟩
    | none => ⟨e, .examples (some { label := Example.defaultLabel, inCode := true })⟩
  else
    match current with
    | some { label, code, inCode := true } =>
      match Example.level? line with
      | some level => ⟨e, .examples (some { label := level, code, inCode := true })⟩
      | none => ⟨e, .examples (some { label, code := trimEnd raw :: code, inCode := true })⟩
    | other =>
      match Example.label? line with
      | some label => ⟨e.close (.examples other), .examples (some { label, inCode := false })⟩
      | none => ⟨e, .examples other⟩

/-- A blank line matters inside code only. -/
def blankLine (r : Reader) : Reader :=
  match r.current with
  | .examples (some { label, code, inCode := true }) =>
    { r with current := .examples (some { label, code := [] :: code, inCode := true }) }
  | _ => r

/-- A keyword closes what is open and opens its section with the rest of its line. What stands after
the keyword of examples is a caption and not kept. -/
def openSection (r : Reader) (sect : Section) (inline : Text) : Reader :=
  let e := r.entry.close r.current
  match sect with
  | .text field => ⟨e, .text field (if inline.isEmpty then [] else [inline])⟩
  | .parameters =>
    if inline.isEmpty then ⟨e, .parameters none⟩ else parameterLine e none inline inline
  | .examples => ⟨e, .examples none⟩

/-- A line that opens no section belongs to the open one. -/
def plainLine (r : Reader) (raw line : Text) : Reader :=
  match r.current with
  | .nothing => r
  | .text field lines => { r with current := .text field (line :: lines) }
  | .parameters pending => parameterLine r.entry pending raw line
  | .examples current => exampleLine r.entry current raw line

/-- Takes one line into account. -/
def feed (r : Reader) (raw : Text) : Reader :=
  let line := trim raw
  if line.isEmpty then r.blankLine
  else if isDelimiter line then r
  else
    match keyword? line with
    | some (sect, inline) => r.openSection sect inline
    | none => r.plainLine raw line

/-- The entry when no line is left. -/
def finish (r : Reader) : Entry := r.entry.close r.current

end Reader

/-- The entry that some lines make up. -/
def ofLines (raws : List Text) : Entry := (raws.foldl Reader.feed {}).finish

/-- The entry of a block, given with or without its markers. -/
def parse (block : Text) : Entry := ofLines (lines (Comment.body block))

end Entry

end LuaReference
