import LuaReference.Comment.Block
import LuaReference.Text.NameSet

/-!
# Uses of hooks

* `hookUse?`, `readHookUse` : a `hook.Add("name"` or `hook.Run("name"` at the start of a text;
* `hooksUsed` : the names used in the code of a source; calls that start in a comment block do not
  count.
-/

namespace LuaReference.Site

open Text

/-- Whether a character is one of the three quotes. -/
def isQuote (c : Char) : Bool := c == '"' || c == '\'' || c == '\x60'

/-- The text between two quotes, the first of which starts a text, and what follows them. -/
def quotedName? : Text → Option (Text × Text)
  | [] => none
  | first :: inner =>
    if !isQuote first then none
    else
      let name := inner.takeWhile fun c => !isQuote c
      match inner.dropWhile fun c => !isQuote c with
      | [] => none
      | _ :: rest => if name.isEmpty then none else some (name, rest)

/-- The hook named in a call at the start of a text, with what follows its name. -/
def hookUse? (t : Text) : Option (Text × Text) := do
  let rest ← after? "hook.Add" t <|> after? "hook.Run" t
  let rest ← after? "(" (trimStart rest)
  quotedName? (trimStart rest)

/-- The hook named in a call at the start of a text. -/
def readHookUse : Recognizer Text := fun _ t =>
  .ofOption ((hookUse? t).map fun (name, rest) => (name, t.take (t.length - rest.length)))

/-- The names of the hooks that the code of a source adds or runs. -/
def hooksUsed (source : Text) (blocks : List Comment.Block) : NameSet :=
  .ofList (((scan readHookUse source).filter fun found =>
    !Comment.covers blocks found.start).map (·.item))

end LuaReference.Site
