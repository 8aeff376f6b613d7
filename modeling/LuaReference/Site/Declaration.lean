import LuaReference.Comment.Block
import LuaReference.Text.Word

/-!
# Declarations

* `readDeclaration` : a `function name(` at the start of a text, with or without `local`;
* `Declaration`, `declarations` : the declarations of a source that are not local and do not start
  in a comment block.
-/

namespace LuaReference.Site

open Text

/-- What follows a word and one or more blanks. -/
def wordThenGap? (word t : Text) : Option (Text × Text) := do
  let rest ← after? word t
  let gap := rest.takeWhile isBlank
  if gap.isEmpty then none else return (word ++ gap, rest.dropWhile isBlank)

/-- A character of a qualified name. -/
def isNameChar (c : Char) : Bool := isWord c || c == '.' || c == ':'

/-- The name in a `function name(`, with all the characters read. -/
def readFunction? (t : Text) : Option (Text × Text) := do
  let (front, rest) ← wordThenGap? "function" t
  let name := rest.takeWhile isNameChar
  let rest := rest.dropWhile isNameChar
  if name.isEmpty then none
  else
    let _ ← after? "(" (rest.dropWhile isBlank)
    return (name, front ++ name ++ rest.takeWhile isBlank ++ "(")

/-- Whether a word can start after this character. -/
def startsAfter (before : Option Char) : Bool := !(before.map isWord).getD false

/-- What a function is declared as. -/
structure Declared where
  name : Text
  isLocal : Bool

/-- The function that a text declares at its start, with all the characters read. -/
def readDeclared? (t : Text) : Option (Declared × Text) :=
  match wordThenGap? "local" t with
  | some (front, rest) =>
    (readFunction? rest).map fun (name, taken) => (⟨name, true⟩, front ++ taken)
  | none => (readFunction? t).map fun (name, taken) => (⟨name, false⟩, taken)

/-- The declaration at the start of a text, where a word starts. -/
def readDeclaration : Recognizer Declared := fun before t =>
  if startsAfter before then .ofOption (readDeclared? t) else .nothing

/-- A declaration with the line it starts on. -/
structure Declaration where
  name : Text
  line : Nat
  deriving DecidableEq, Repr

/-- The declarations of a source, without local ones and those that start in a block. -/
def declarations (source : Text) (blocks : List Comment.Block) : List Declaration :=
  let table := LineTable.ofText source
  (scan readDeclaration source).filterMap fun found =>
    if found.item.isLocal || Comment.covers blocks found.start then none
    else some ⟨found.item.name, table.lineAt found.start⟩

end LuaReference.Site
