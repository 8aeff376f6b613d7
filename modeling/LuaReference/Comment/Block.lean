import LuaReference.Entry.Keyword
import LuaReference.Text.Scan

/-!
# Comment blocks

A block runs from `--[[` to the first `]]` after it. Blocks do not nest.

* `body` : the text of a block without its markers;
* `readBlock` : the block at the start of a text;
* `Kind`, `kindAfter` : what a block is for, by its words and by the blocks before it;
* `Block`, `extract` : the blocks of a source in order;
* `header?`, `overview?`, `entries`, `covers` : the questions asked of them.
-/

namespace LuaReference.Comment

open Text

/-! ## Markers -/

/-- Opens a block. -/
def opening : Text := "--[["

/-- Closes a block. -/
def closing : Text := "]]"

/-- A block's text without its markers, where it has them. -/
def body (text : Text) : Text := dropEnd closing (dropStart opening text)

/-- A comment line without its blanks and one leading `--`. -/
def uncomment (line : Text) : Text := trim (dropStart "--" (trim line))

/-- The block at the start of a text. Where one is not closed, no other follows. -/
def readBlock : Recognizer Text := fun _ t =>
  match after? opening t with
  | none => .nothing
  | some inner =>
    match cut? closing inner with
    | none => .never
    | some (body, _) =>
      let text := opening ++ body ++ closing
      .present text text

/-! ## Kinds -/

/-- What a block is for. -/
inductive Kind where
  /-- Title and subtitle of the page. -/
  | header
  /-- Introductory text of the page. -/
  | overview
  /-- Documentation of one thing. -/
  | entry
  /-- None of these. -/
  | loose
  deriving DecidableEq, Repr

/-- Whether a text is marked as an overview. -/
def mentionsOverview (t : Text) : Bool := occurs "Overview:" t || occurs "Improvements Done:" t

/-- Whether a text says where its page goes. -/
def mentionsDirective (t : Text) : Bool :=
  occurs "Folder:" t || occurs "File:" t || occurs "Append:" t

/-- Which of the kinds that a source has once were met so far. -/
structure Seen where
  header : Bool := false
  overview : Bool := false

/-- The kind of a block with this text after the blocks seen so far. -/
def kindAfter (seen : Seen) (text : Text) : Kind :=
  if Entry.mentionsKeyword text then .entry
  else if mentionsOverview text then if seen.overview then .loose else .overview
  else if mentionsDirective text || seen.header then .loose
  else .header

/-- Notes that a block of a kind was met. -/
def Seen.add (seen : Seen) (kind : Kind) : Seen :=
  { header := seen.header || kind == .header, overview := seen.overview || kind == .overview }

/-! ## Blocks -/

/-- A block: its bytes go from `start` up to, and not including, `stop`, and its opening marker
stands on `line`. -/
structure Block where
  start : Nat
  stop : Nat
  line : Nat
  text : Text
  kind : Kind
  deriving DecidableEq, Repr

/-- Whether an offset lies in a block. -/
def Block.covers (block : Block) (offset : Nat) : Bool :=
  block.start ≤ offset && offset < block.stop

/-- Gives found block texts their lines and kinds. -/
def classify (table : LineTable) : Seen → List (Found Text) → List Block
  | _, [] => []
  | seen, found :: rest =>
    let kind := kindAfter seen found.item
    ⟨found.start, found.stop, table.lineAt found.start, found.item, kind⟩ ::
      classify table (seen.add kind) rest

/-- The blocks of a source, in order. -/
def extract (source : Text) : List Block :=
  classify (.ofText source) {} (scan readBlock source)

/-- The block that gives the title. -/
def header? (blocks : List Block) : Option Block := blocks.find? (·.kind == .header)

/-- The block that gives the overview. -/
def overview? (blocks : List Block) : Option Block := blocks.find? (·.kind == .overview)

/-- The blocks that document something. -/
def entries (blocks : List Block) : List Block := blocks.filter (·.kind == .entry)

/-- Whether an offset lies in one of the blocks. -/
def covers (blocks : List Block) (offset : Nat) : Bool := blocks.any (·.covers offset)

end LuaReference.Comment
