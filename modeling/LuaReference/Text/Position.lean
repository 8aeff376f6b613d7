import LuaReference.Text.Basic

/-!
# Byte offsets and line numbers

Places in a text are counted in bytes of its UTF-8 form, lines from one.

* `byteLength` : the number of bytes of a text;
* `dropBytes?` : what follows a number of bytes, where a character starts there;
* `LineTable` : the offsets at which the lines of a text start, and `LineTable.lineAt`, the line of
  an offset;
* `newlinesBefore` : how many newlines stand before an offset.
-/

namespace LuaReference.Text

/-- The number of bytes of a text in UTF-8. -/
def byteLength : Text → Nat
  | [] => 0
  | c :: r => c.utf8Size + byteLength r

/-- What follows the first `n` bytes, or nothing where they end inside a character or past the
end. -/
def dropBytes? : Nat → Text → Option Text
  | 0, t => some t
  | _ + 1, [] => none
  | n + 1, c :: r => if c.utf8Size ≤ n + 1 then dropBytes? (n + 1 - c.utf8Size) r else none

/-- The offsets right after the newlines of a text that starts at offset `pos`. -/
def newlineEnds (pos : Nat) : Text → List Nat
  | [] => []
  | c :: r =>
    let next := pos + c.utf8Size
    if c = '\n' then next :: newlineEnds next r else newlineEnds next r

/-- The number of newlines of a text, which starts at offset `pos`, that stand before `offset`. -/
def newlinesBefore (offset pos : Nat) : Text → Nat
  | [] => 0
  | c :: r =>
    (if c = '\n' ∧ pos < offset then 1 else 0) + newlinesBefore offset (pos + c.utf8Size) r

end LuaReference.Text

namespace LuaReference

/-- The offsets at which the lines of a text start, in increasing order. -/
structure LineTable where
  starts : List Nat

/-- The table of a text: its first line starts at zero, every other one after a newline. -/
def LineTable.ofText (t : Text) : LineTable := ⟨0 :: Text.newlineEnds 0 t⟩

/-- The line of an offset: the number of lines that start at or before it. -/
def LineTable.lineAt (table : LineTable) (offset : Nat) : Nat :=
  (table.starts.takeWhile (· ≤ offset)).length

end LuaReference
