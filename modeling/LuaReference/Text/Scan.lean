import LuaReference.Text.Position

/-!
# Leftmost matches

* `Reading` : what stands at the start of a text: an item, none, or none here and further on;
* `Recognizer` : reads an item where a text starts, knowing the character before it;
* `Found` : an item with the byte offsets between which it was read;
* `scan` : all items of a text from left to right; the search for the next one goes on where the
  last one ended.
-/

namespace LuaReference.Text

/-- What stands at the start of a text. -/
inductive Reading (α : Type) where
  /-- An item, with the characters that it is made of. -/
  | present (item : α) (taken : Text)
  /-- No item. -/
  | nothing
  /-- No item, and none further on in the text. -/
  | never

/-- An item where there is one. -/
def Reading.ofOption {α : Type} : Option (α × Text) → Reading α
  | some (item, taken) => .present item taken
  | none => .nothing

/-- Reads an item at the start of a text, given the character before that text. -/
abbrev Recognizer (α : Type) := Option Char → Text → Reading α

/-- An item that was read from the bytes `start` up to, and not including, `stop`. -/
structure Found (α : Type) where
  start : Nat
  stop : Nat
  item : α

/-- The items of a text that starts at offset `pos` after the character `before`; `skip` of its
characters still belong to the last item. -/
def scanFrom {α : Type} (read : Recognizer α) :
    (before : Option Char) → (pos skip : Nat) → Text → List (Found α)
  | _, _, _, [] => []
  | _, pos, skip + 1, c :: r => scanFrom read (some c) (pos + c.utf8Size) skip r
  | before, pos, 0, c :: r =>
    match read before (c :: r) with
    | .present item taken =>
      ⟨pos, pos + byteLength taken, item⟩ ::
        scanFrom read (some c) (pos + c.utf8Size) (taken.length - 1) r
    | .nothing => scanFrom read (some c) (pos + c.utf8Size) 0 r
    | .never => []

/-- The items of a text from left to right, none overlapping another. -/
def scan {α : Type} (read : Recognizer α) (t : Text) : List (Found α) := scanFrom read none 0 0 t

end LuaReference.Text
