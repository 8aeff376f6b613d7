import LuaReference.Text.Position

/-!
# Common indentation

* `indentWidth` : the bytes of blanks before the first other character;
* `unindent` : lines without the indentation that all their lines share.
-/

namespace LuaReference.Text

/-- The number of bytes of the blanks at the start of a line. -/
def indentWidth (line : Text) : Nat := byteLength (line.takeWhile isBlank)

/-- The smallest indentation of the lines that are not blank, zero where all are. -/
def commonIndent (code : List Text) : Nat :=
  ((code.filter fun line => !isBlankText line).map indentWidth).min?.getD 0

/-- One line of code without `width` bytes of indentation: a blank line becomes empty, and a line in
which that width ends inside a character stays as it is. -/
def unindentLine (width : Nat) (line : Text) : Text :=
  if isBlankText line then [] else (dropBytes? width line).getD line

/-- Strips the indentation that the lines share. -/
def unindent (code : List Text) : List Text := code.map (unindentLine (commonIndent code))

end LuaReference.Text
