import LuaReference.Entry.Basic
import LuaReference.Text.Word

/-!
# Labels of examples

* `label?` : the label that a line gives to the example after it, in lower case: `Low Complexity:`,
  `Low:` or `Basic Usage Example:`;
* `level?` : the level that a comment line in code sets, such as `-- High:`;
* `defaultLabel` : the label of an example that has none.
-/

namespace LuaReference.Example

open Text

/-- The label of an example without one. -/
def defaultLabel : Text := "example"

/-- The three levels of complexity. -/
def levels : List Text := ["low", "medium", "high"]

/-- What follows the blanks at the start of a text, of which there must be one. -/
def gap? : Text → Option Text
  | [] => none
  | c :: r => if isBlank c then some (trimStart r) else none

/-- Reads `word Complexity:` or `word Complexity Example:`. -/
def complexity? (line : Text) : Option Text := do
  let word := line.takeWhile isWord
  let rest ← gap? (line.dropWhile isWord)
  let rest ← after? "Complexity" rest
  if word.isEmpty then none
  else if startsWith ":" rest || ((gap? rest).map (startsWith "Example:")).getD false then
    return word
  else none

/-- Reads `low:`, `medium:` or `high:` in any case. -/
def namedLevel? (line : Text) : Option Text := do
  let (word, _) ← cut? ":" line
  if levels.any (sameName word) then return word else none

/-- Reads the shortest text that does not end in a blank and that blanks and `Example:` follow. -/
def named? : Text → Option Text
  | [] => none
  | c :: r =>
    if !isBlank c && ((gap? r).map (startsWith "Example:")).getD false then some [c]
    else (named? r).map (c :: ·)

/-- The label that a trimmed line gives to the example after it. -/
def label? (line : Text) : Option Text :=
  (complexity? line <|> namedLevel? line <|> named? line).map fun label => lower (trim label)

/-- The level that a comment line in code sets. -/
def level? (line : Text) : Option Text := do
  let rest ← after? "--" line
  let rest := trimStart rest
  let level := lower (rest.takeWhile isWord)
  if startsWith ":" (rest.dropWhile isWord) && levels.contains level then return level else none

end LuaReference.Example
