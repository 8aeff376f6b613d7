import LuaReference.Comment.Block

/-!
# Titles and overviews

* `titleAndSubtitle?` : the first two lines of a header block that hold something;
* `cleanLine` : a line of an overview without markers, label and superfluous blanks;
* `addLine`, `dropEmptyEnd` : one more line is shown, unless it is a superfluous empty one, and none at
  the end is empty;
* `overviewText` : the cleaned lines that are shown.
-/

namespace LuaReference.Comment

open Text

/-- The lines of a block that hold something. -/
def contentLines (text : Text) : List Text :=
  ((lines (body text)).map uncomment).filter fun line => !line.isEmpty

/-- Title and subtitle of a header block; one with a single line gives neither. Asterisks do not
belong to the title. -/
def titleAndSubtitle? (text : Text) : Option (Text × Text) :=
  match contentLines text with
  | title :: subtitle :: _ => some (trim (replaceChar '*' [] title), subtitle)
  | _ => none

/-- A line without the label of an overview, where it has one. -/
def dropLabel (line : Text) : Text :=
  match after? "Overview:" line with
  | some rest => rest
  | none => dropStart "Improvements Done:" line

/-- A line of an overview, cleaned: no comment marker, no label, words one space apart. -/
def cleanLine (raw : Text) : Text := squeeze (dropLabel (uncomment raw))

/-- Whether an empty line would be superfluous: nothing is shown so far, or an empty line is last. -/
def endsInGap (shown : List Text) : Bool := (shown.getLast?.map List.isEmpty).getD true

/-- Shows one more line, unless it is a superfluous empty one. -/
def addLine (shown : List Text) (line : Text) : List Text :=
  if line.isEmpty && endsInGap shown then shown else shown ++ [line]

/-- The lines without the empty ones at their end. -/
def dropEmptyEnd (shown : List Text) : List Text := (shown.reverse.dropWhile List.isEmpty).reverse

/-- The text of an overview block. -/
def overviewText (text : Text) : Text :=
  join "\n" (dropEmptyEnd (((lines (body text)).map cleanLine).foldl addLine []))

end LuaReference.Comment
