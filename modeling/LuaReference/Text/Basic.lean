import LuaReference.Text.Blank

/-!
# Cutting texts

* `trimStart`, `trimEnd`, `trim` : without the blanks at the ends;
* `after?`, `before?` : what remains when a text starts or ends as given;
* `occurs` : whether a text stands somewhere in another;
* `cut?` : what stands before and after the first occurrence of a text;
* `splitWhen`, `splitOn`, `words`, `lines` : the pieces of a text;
* `replaceChar`, `remove` : replacement;
* `join`, `squeeze` : pieces put together again.
-/

namespace LuaReference.Text

/-! ## Ends -/

/-- Drops the blanks at the start. -/
def trimStart (t : Text) : Text := t.dropWhile isBlank

/-- Drops the blanks at the end. -/
def trimEnd : Text → Text
  | [] => []
  | c :: r =>
    match trimEnd r with
    | [] => if isBlank c then [] else [c]
    | d :: s => c :: d :: s

/-- Drops the blanks at both ends. -/
def trim (t : Text) : Text := trimEnd (trimStart t)

/-- Whether a text has no other characters than blanks. -/
def isBlankText (t : Text) : Bool := t.all isBlank

/-- What follows `start` in a text that starts with it. -/
def after? (start t : Text) : Option Text := start.isPrefixOf? t

/-- What stands before `ending` in a text that ends with it. -/
def before? (ending t : Text) : Option Text := (after? ending.reverse t.reverse).map List.reverse

/-- Drops `start` where a text starts with it. -/
def dropStart (start t : Text) : Text := (after? start t).getD t

/-- Drops `ending` where a text ends with it. -/
def dropEnd (ending t : Text) : Text := (before? ending t).getD t

/-- Whether a text starts with `start`. -/
def startsWith (start t : Text) : Bool := start.isPrefixOf t

/-! ## Occurrences -/

/-- Whether `part` stands somewhere in a text. -/
def occurs (part : Text) : Text → Bool
  | [] => part.isEmpty
  | c :: r => startsWith part (c :: r) || occurs part r

/-- What stands before the first occurrence of `mark`, and what follows that occurrence. -/
def cut? (mark : Text) : Text → Option (Text × Text)
  | [] => if mark.isEmpty then some ([], []) else none
  | c :: r =>
    match after? mark (c :: r) with
    | some rest => some ([], rest)
    | none => (cut? mark r).map fun (front, rest) => (c :: front, rest)

/-! ## Pieces -/

/-- The pieces of a list between the elements that satisfy `p`; there is always one. -/
def splitWhen {α : Type} (p : α → Bool) : List α → List (List α)
  | [] => [[]]
  | c :: r =>
    if p c then [] :: splitWhen p r
    else
      match splitWhen p r with
      | [] => [[c]]
      | piece :: rest => (c :: piece) :: rest

/-- The pieces of a text between the occurrences of one character. -/
def splitOn (mark : Char) (t : Text) : List Text := splitWhen (· == mark) t

/-- The runs of characters that are not blank. -/
def words (t : Text) : List Text := (splitWhen isBlank t).filter fun w => !w.isEmpty

/-- Lines out of the pieces between newlines: a piece that a newline ends loses one carriage return
at its end, and an empty last piece is no line. -/
def linesOfPieces : List Text → List Text
  | [] => []
  | [last] => if last.isEmpty then [] else [last]
  | piece :: next :: rest => dropEnd ['\r'] piece :: linesOfPieces (next :: rest)

/-- The lines of a text, without their line ends. -/
def lines (t : Text) : List Text := linesOfPieces (splitOn '\n' t)

/-! ## Replacement -/

/-- Writes `image` for every `mark`. -/
def replaceChar (mark : Char) (image : Text) (t : Text) : Text :=
  t.flatMap fun c => if c = mark then image else [c]

/-- Removes the occurrences of `part` from left to right; `skip` characters of the occurrence
before are still to be passed. -/
def removeFrom (part : Text) : Nat → Text → Text
  | _, [] => []
  | skip + 1, _ :: r => removeFrom part skip r
  | 0, c :: r =>
    if startsWith part (c :: r) then removeFrom part (part.length - 1) r
    else c :: removeFrom part 0 r

/-- Removes every occurrence of a part that is not empty. -/
def remove (part t : Text) : Text := removeFrom part 0 t

/-! ## Putting together -/

/-- Puts a text between the pieces. -/
def join (separator : Text) (pieces : List Text) : Text := separator.intercalate pieces

/-- Puts one space between the words of a text and none at its ends. -/
def squeeze (t : Text) : Text := join [' '] t.words

end LuaReference.Text
