import LuaReference.Site.Basic

/-!
# Sites of definitions and panels

A block of a definition file documents the first line of code after it.

* `followingCode?` : that line, with its offset;
* `property?` : the name that a line defines under one of the given tables;
* `locateProperties`, `locatePanels` : the sites of definitions and of panels.
-/

namespace LuaReference.Site

open Text

/-- A line without the blanks around it, unless it is blank or a comment. -/
def code? (raw : Text) : Option Text :=
  let line := trim raw
  if line.isEmpty || startsWith "--" line then none else some line

/-- The first line that is neither blank nor a comment, trimmed, with its offset. The line that is
being read starts at `start`, and `front` is what was read of it, from its last character back. -/
def firstCode? (start : Nat) (front : Text) : Text → Option (Nat × Text)
  | [] => (code? front.reverse).map fun line => (start, line)
  | c :: r =>
    if c = '\n' then
      match code? front.reverse with
      | some line => some (start, line)
      | none => firstCode? (start + byteLength (c :: front)) [] r
    else firstCode? start (c :: front) r

/-- The first line of code at or after an offset, and where it starts. -/
def followingCode? (source : Text) (offset : Nat) : Option (Nat × Text) :=
  (dropBytes? offset source).bind (firstCode? offset [])

/-- An identifier at the start of a text. -/
def ident? : Text → Option Text
  | [] => none
  | c :: r => if isIdentStart c then some (c :: r.takeWhile isWord) else none

/-- The name in `table.name` at the start of a line. -/
def field? (table line : Text) : Option Text := after? (table ++ ".") line >>= ident?

/-- What follows a mark that stands after one or more blanks. The mark can start with blanks
itself. -/
def afterBlanks? (mark : Text) : Text → Option Text
  | [] => none
  | c :: r => if isBlank c then after? mark r <|> afterBlanks? mark r else none

/-- The name in `function table:name` at the start of a line. -/
def method? (table line : Text) : Option Text :=
  after? "function" line >>= afterBlanks? (table ++ ":") >>= ident?

/-- The name that a line defines under the first table that it mentions at its start. -/
def property? (tables : List Text) (line : Text) : Option Text :=
  tables.findSome? fun table => field? table line <|> method? table line

/-- The site of a block, named by `name?` of the first line of code after it. -/
def ofFollowingCode? (table : LineTable) (source : Text) (name? : Text → Option Text)
    (block : Comment.Block) : Option Site := do
  let (offset, line) ← followingCode? source block.stop
  let name ← name? line
  return ⟨name, table.lineAt offset, block⟩

/-- The properties that the blocks of a source document; blocks with a sample definition document
none. -/
def locateProperties (source : Text) (blocks : List Comment.Block) (tables : List Text) :
    List Site :=
  ((Comment.entries blocks).filter fun b => !Entry.mentionsSample b.text).filterMap
    (ofFollowingCode? (.ofText source) source (property? tables))

/-- The panels that the blocks of a source document, each named by a whole line of code. -/
def locatePanels (source : Text) (blocks : List Comment.Block) : List Site :=
  ((Comment.entries blocks).filter fun b => Entry.mentionsPanel b.text).filterMap
    (ofFollowingCode? (.ofText source) source some)

end LuaReference.Site
