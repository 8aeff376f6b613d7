import LuaReference.Entry.Basic
import LuaReference.Text.Word

/-!
# Parameter lines

A parameter is written on one line in one of six shapes, tried in this order, where blanks between
the parts are free:

* `- name (type): description`;
* `- name: description`;
* `name (type): description`;
* `name - type: description`;
* `name - description`;
* `name (type) - description`.

`parseLine?` reads such a line. `pending?` reads the first line of the two-line form: an indented
`name (type)` with the description on the next line.
-/

namespace LuaReference.Parameter

open Text

/-! ## Parts -/

/-- The type of a parameter that gives none. -/
def unknownType : Text := "unknown"

/-- A name at the start of a text, an identifier or three dots, and what follows it. -/
def name? : Text → Option (Text × Text)
  | [] => none
  | c :: r =>
    if isIdentStart c then some (c :: r.takeWhile isWord, r.dropWhile isWord)
    else (after? "..." (c :: r)).map fun rest => ("...", rest)

/-- A type in parentheses after any blanks, and what follows it. -/
def type? (t : Text) : Option (Text × Text) := do
  let inner ← after? "(" (trimStart t)
  let (type, rest) ← cut? ")" inner
  if type.isEmpty then none else return (type, rest)

/-- What follows a mark that stands after any blanks. -/
def mark? (mark t : Text) : Option Text := after? mark (trimStart t)

/-- The description that is the rest of a line: something on one line. Blanks alone are an empty
description, unless the last of them is a newline. -/
def description? (t : Text) : Option Text :=
  let rest := trimStart t
  if rest.isEmpty then
    match t.getLast? with
    | none => none
    | some last => if last = '\n' then none else some []
  else if rest.contains '\n' then none
  else some (trim rest)

/-- A name up to the first dash or blank, and what follows it. -/
def plainName? (t : Text) : Option (Text × Text) :=
  let inName := fun c => c != '-' && !isBlank c
  let name := t.takeWhile inName
  if name.isEmpty then none else some (name, t.dropWhile inName)

/-! ## Shapes -/

/-- Reads `name (type)`, a mark and a description. -/
def typed? (mark t : Text) : Option Parameter := do
  let (name, rest) ← name? t
  let (type, rest) ← type? rest
  let rest ← mark? mark rest
  let description ← description? rest
  return .ofParts name type description

/-- Reads `name: description`. -/
def untyped? (t : Text) : Option Parameter := do
  let (name, rest) ← name? t
  let rest ← mark? ":" rest
  let description ← description? rest
  return .ofParts name unknownType description

/-- What follows the bullet at the start of a line. -/
def bullet? (line : Text) : Option Text := (after? "-" line).map trimStart

/-- Reads `name - type: description`. -/
def dashTyped? (line : Text) : Option Parameter := do
  let (name, rest) ← plainName? line
  let rest ← mark? "-" rest
  let (type, rest) ← cut? ":" rest
  if type.isEmpty then none
  else
    let description ← description? rest
    return .ofParts name type description

/-- Reads `name - description`. -/
def dashUntyped? (line : Text) : Option Parameter := do
  let (name, rest) ← plainName? line
  let rest ← mark? "-" rest
  let description ← description? rest
  return .ofParts name unknownType description

/-- The parameter on a line, by the first shape that fits. -/
def parseLine? (line : Text) : Option Parameter :=
  (bullet? line >>= typed? ":")
    <|> (bullet? line >>= untyped?)
    <|> typed? ":" line
    <|> dashTyped? line
    <|> dashUntyped? line
    <|> typed? "-" line

/-- Name and type when an untrimmed line is an indented `name (type)`. -/
def pending? (raw : Text) : Option (Text × Text) := do
  let line := trimEnd raw
  let (name, rest) ← name? (trimStart line)
  let (type, rest) ← type? rest
  if startsWithBlank line && isBlankText rest then return (trim name, trim type) else none
where
  /-- Whether a line is indented. -/
  startsWithBlank : Text → Bool
    | [] => false
    | c :: _ => isBlank c

end LuaReference.Parameter
