import LuaReference.Comment.Block
import LuaReference.Text.Case

/-!
# Directives

A block can say where its page goes: `Folder:`, `File:` and `Append:` lines.

* `Directives` : what was said;
* `Directives.ofText` : what the lines of one block say, the last line of a kind deciding;
* `Directives.ofBlocks` : what the first block with a directive says;
* `Directives.target?` : folder and file, when both were given.
-/

namespace LuaReference

open Text

/-- Where the page of a source goes. -/
structure Directives where
  folder : Option Text := none
  file : Option Text := none
  append : Bool := false
  deriving DecidableEq, Repr

namespace Directives

/-- A value, unless it is blank. -/
def value? (rest : Text) : Option Text :=
  let value := trim rest
  if value.isEmpty then none else some value

/-- Whether a value switches appending on. -/
def switchedOn (rest : Text) : Bool :=
  (["true", "yes", "1"] : List Text).contains (lower (trim rest))

/-- Takes one line of a block into account. -/
def readLine (d : Directives) (raw : Text) : Directives :=
  let line := Comment.uncomment raw
  match after? "Folder:" line with
  | some rest => { d with folder := value? rest }
  | none =>
    match after? "File:" line with
    | some rest => { d with file := value? rest }
    | none =>
      match after? "Append:" line with
      | some rest => { d with append := switchedOn rest }
      | none => d

/-- The directives of one block's text. -/
def ofText (text : Text) : Directives := (lines (Comment.body text)).foldl readLine {}

/-- Whether anything was said. -/
def isSet (d : Directives) : Bool := d.folder.isSome || d.file.isSome || d.append

/-- The directives of the first block that has any. -/
def ofBlocks (blocks : List Comment.Block) : Directives :=
  ((blocks.map fun b => ofText b.text).find? isSet).getD {}

/-- Folder and file, when both were given. -/
def target? (d : Directives) : Option (Text × Text) :=
  match d.folder, d.file with
  | some folder, some file => some (folder, file)
  | _, _ => none

end Directives

end LuaReference
