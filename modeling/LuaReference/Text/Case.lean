import LuaReference.Text.Letter
import LuaReference.Text.Case.Context
import LuaReference.Text.Case.Lower
import LuaReference.Text.Case.Upper

/-!
# Lower case and title case of texts

* `Text.lower` : lower case, where a capital sigma at the end of a word becomes a final sigma;
* `Text.titleCase` : every word starts with a capital and goes on in lower case;
* `Text.sameName` : equality up to the case of ASCII letters.
-/

namespace LuaReference.Text

/-- Whether the first character that is not passed over has case. -/
def meetsCased (t : Text) : Bool :=
  match t.dropWhile isCaseIgnorable with
  | [] => false
  | c :: _ => isCased c

/-- A capital sigma ends a word when a character with case stands before it and none after it. -/
def endsWord (before after : Text) : Bool := meetsCased before && !meetsCased after

/-- Lower case of what follows `before`, which is given from its last character back. -/
def lowerAfter (before : Text) : Text → Text
  | [] => []
  | c :: r =>
    (if c = 'Σ' then [if endsWord before r then 'ς' else 'σ'] else lowerChar c) ++
      lowerAfter (c :: before) r

/-- The lower case of a text. -/
def lower (t : Text) : Text := lowerAfter [] t

/-- Title case, knowing whether the next letter starts a word. -/
def titleFrom : Bool → Text → Text
  | _, [] => []
  | atStart, c :: r =>
    if isLetter c then (if atStart then upperChar c else lowerChar c) ++ titleFrom false r
    else c :: titleFrom true r

/-- Every run of letters starts in upper case and goes on in lower case: `player_meta` becomes
`Player_Meta`. -/
def titleCase (t : Text) : Text := titleFrom true t

/-- Whether two texts differ at most in the case of ASCII letters. -/
def sameName (a b : Text) : Bool := a.map Char.toLower == b.map Char.toLower

end LuaReference.Text
