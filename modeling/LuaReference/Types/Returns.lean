import LuaReference.Text.Basic
import LuaReference.Text.Word

/-!
# What a function returns

* `Returns` : an optional type and a description;
* `dashed?` : `type - description` on one line, where the type is as long as possible;
* `isTypeToken` : a bare type, unions and dotted names included;
* `Returns.ofText` : the split of the text of a `Returns:` field.
-/

namespace LuaReference.Types

open Text

/-- What a function returns. -/
structure Returns where
  type : Option Text := none
  description : Text := []
  deriving DecidableEq, Repr

/-- Whether a text is a type and nothing else. -/
def isTypeToken (t : Text) : Bool :=
  !t.isEmpty && t.all fun c => isWord c || c == '|' || c == '.'

/-- Cuts a run of characters at its last dash that has something before it in the run and something
after it in the run or in `rest`. -/
def lastDash? (rest : Text) : Text → Option (Text × Text)
  | [] => none
  | c :: run =>
    match lastDash? rest run with
    | some (front, back) => some (c :: front, back)
    | none =>
      match run with
      | '-' :: back => if (back ++ rest).isEmpty then none else some ([c], back ++ rest)
      | _ => none

/-- A type, a dash and a description on a trimmed line. The dash stands after the first run of
characters that are not blank, or else it is the last one inside that run. -/
def dashed? (line : Text) : Option (Text × Text) :=
  let run := line.takeWhile fun c => !isBlank c
  let rest := line.dropWhile fun c => !isBlank c
  match after? "-" (trimStart rest) with
  | some (c :: back) => if run.isEmpty then none else some (run, c :: back)
  | _ => lastDash? rest run

/-- Splits the text of a `Returns:` field into a type and a description. -/
def Returns.ofText (t : Text) : Returns :=
  match ((lines t).map trim).filter fun line => !line.isEmpty with
  | [] => {}
  | [line] =>
    match dashed? line with
    | some (type, description) => ⟨some (trim type), trim description⟩
    | none => if isTypeToken line then ⟨some line, []⟩ else ⟨none, line⟩
  | first :: rest =>
    if isTypeToken first then ⟨some first, join " " rest⟩ else ⟨none, join " " (first :: rest)⟩

end LuaReference.Types
