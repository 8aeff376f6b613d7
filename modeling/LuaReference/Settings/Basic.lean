import LuaReference.Files.Path
import LuaReference.Settings.Quoted
import LuaReference.Settings.Stamp

/-!
# The settings file

A settings file gives values to keys, one statement a line. Every setting is a quoted text, except
`types`, which is a table of quoted texts; it can be given as a table in braces, by keys with a dot
or under a heading. A file with any other key or value, or with one given twice, is not accepted.

* `Settings` : the settings;
* `Value`, `Statement`, `statements?` : the file's text, statement by statement;
* `Draft`, `Draft.add?` : the settings while the statements are taken into account;
* `Settings.parse?` : the settings of a file's text.
-/

namespace LuaReference

open Text

/-- The settings of a project. -/
structure Settings where
  /-- The namespace of the library. -/
  scope : Option Text := none
  output : Option Path := none
  docsRoot : Option Path := none
  /-- Pages of types by their names, in increasing order of names. -/
  types : List (Text × Text) := []

namespace Settings

/-! ## Statements -/

/-- A value that a setting can have. -/
inductive Value where
  | text (t : Text)
  | table (entries : List (Text × Text))
  | stamp (t : Text)

/-- A line of the file that says something. -/
inductive Statement where
  | assign (key : List Text) (value : Value)
  | heading (key : List Text)

/-- Drops the spaces and tabs at the start. -/
def dropSpaces (t : Text) : Text := t.dropWhile isSpace

/-- A character of a key that needs no quotes. -/
def isBareKey (c : Char) : Bool := c.isAlphanum || c == '_' || c == '-'

/-- One part of a key, and what follows it. -/
def simpleKey? (t : Text) : Option (Text × Text) :=
  match t with
  | '"' :: r => basic r
  | '\'' :: r => literal r
  | _ =>
    let key := t.takeWhile isBareKey
    if key.isEmpty then none else some (key, t.dropWhile isBareKey)

/-- The parts of a key after its first one; there are at most `fuel` of them. -/
def moreKeys? : (fuel : Nat) → Text → Option (List Text × Text)
  | 0, t => some ([], t)
  | fuel + 1, t =>
    match after? "." (dropSpaces t) with
    | none => some ([], t)
    | some r => do
      let (part, r) ← simpleKey? (dropSpaces r)
      let (parts, r) ← moreKeys? fuel r
      return (part :: parts, r)

/-- A key: parts divided by dots, with spaces around them. -/
def key? (t : Text) : Option (List Text × Text) := do
  let (part, r) ← simpleKey? (dropSpaces t)
  let (parts, r) ← moreKeys? r.length r
  return (part :: parts, dropSpaces r)

/-- A key, an equals sign, and what follows them. -/
def keyAndEquals? (t : Text) : Option (List Text × Text) := do
  let (key, r) ← key? t
  let r ← after? "=" r
  return (key, dropSpaces r)

/-- The entries of a table in braces up to its end; there are at most `fuel` of them. -/
def tableEntries? : (fuel : Nat) → Text → Option (List (Text × Text) × Text)
  | 0, _ => none
  | fuel + 1, t => do
    let (key, r) ← keyAndEquals? t
    let (value, r) ← quoted? r
    match key, dropSpaces r with
    | [name], ',' :: r => do
      let (entries, r) ← tableEntries? fuel r
      return ((name, value) :: entries, r)
    | [name], '\x7d' :: r => return ([(name, value)], r)
    | _, _ => none

/-- A table after its opening brace. -/
def table? (t : Text) : Option (List (Text × Text) × Text) :=
  match dropSpaces t with
  | '\x7d' :: r => some ([], r)
  | r => tableEntries? (r.length + 1) r

/-- A value, and what follows it. -/
def value? (t : Text) : Option (Value × Text) :=
  match after? "\x7b" t with
  | some r => (table? r).map fun (entries, r) => (.table entries, r)
  | none =>
    match quoted? t with
    | some (v, r) => some (.text v, r)
    | none => (stamp? t).map fun (v, r) => (.stamp v, r)

/-- What follows the rest of a line on which nothing stands but spaces and a comment. -/
def restOfLine? (t : Text) : Option Text :=
  let r := dropSpaces t
  let r := match after? "#" r with
    | some comment => comment.dropWhile isPrintable
    | none => r
  if r.isEmpty then some [] else lineEnd? r

/-- The statement at the start of a line, and what follows its line. -/
def statement? (t : Text) : Option (Statement × Text) :=
  match after? "[" t with
  | some r => do
    let (key, r) ← key? r
    let r ← after? "]" r
    let r ← restOfLine? r
    return (.heading key, r)
  | none => do
    let (key, r) ← keyAndEquals? t
    let (value, r) ← value? r
    let r ← restOfLine? r
    return (.assign key value, r)

/-- The statements of a text with at most `fuel` lines. -/
def statements? : (fuel : Nat) → Text → Option (List Statement)
  | 0, _ => none
  | fuel + 1, t =>
    if (dropSpaces t).isEmpty then some []
    else
      match restOfLine? t with
      | some r => statements? fuel r
      | none => do
        let (statement, r) ← statement? (dropSpaces t)
        let more ← statements? fuel r
        return statement :: more

/-! ## Settings out of statements -/

/-- How the table of types was given so far. -/
inductive TypesForm where
  | absent
  /-- By keys with a dot; more of them can follow. -/
  | dotted
  /-- As a whole, or under its heading. -/
  | whole
  deriving DecidableEq

/-- The settings while statements are taken into account. -/
structure Draft where
  settings : Settings := {}
  form : TypesForm := .absent
  /-- Whether the heading of the types was met. -/
  underHeading : Bool := false

/-- The key under which a date is found when it is given for a table. -/
def stampKey : Text := "$__toml_private_datetime"

/-- Adds types, unless one of their names was given before. -/
def addTypes? : List (Text × Text) → List (Text × Text) → Option (List (Text × Text))
  | types, [] => some types
  | types, (name, page) :: rest =>
    if types.any fun (other, _) => other == name then none
    else addTypes? (types ++ [(name, page)]) rest

/-- Adds types, in the form in which they are given. -/
def Draft.addTypes? (d : Draft) (form : TypesForm) (new : List (Text × Text)) : Option Draft :=
  (Settings.addTypes? d.settings.types new).map fun types =>
    { d with settings := { d.settings with types }, form }

/-- Takes one statement above the heading of the types into account. -/
def Draft.addTop? (d : Draft) : Statement → Option Draft
  | .assign [name] (.text v) =>
    if name = "namespace" && d.settings.scope.isNone then
      some { d with settings := { d.settings with scope := some v } }
    else if name = "output" && d.settings.output.isNone then
      some { d with settings := { d.settings with output := some ⟨v⟩ } }
    else if name = "docs_root" && d.settings.docsRoot.isNone then
      some { d with settings := { d.settings with docsRoot := some ⟨v⟩ } }
    else none
  | .assign [name] (.table entries) =>
    if name = "types" && d.form = .absent then d.addTypes? .whole entries else none
  | .assign [name] (.stamp v) =>
    if name = "types" && d.form = .absent then d.addTypes? .whole [(stampKey, v)] else none
  | .assign [name, type] (.text v) =>
    if name = "types" && d.form != .whole then d.addTypes? .dotted [(type, v)] else none
  | .heading [name] =>
    if name = "types" && d.form = .absent then some { d with form := .whole, underHeading := true }
    else none
  | _ => none

/-- Takes one statement into account. -/
def Draft.add? (d : Draft) (s : Statement) : Option Draft :=
  if d.underHeading then
    match s with
    | .assign [name] (.text v) => d.addTypes? .whole [(name, v)]
    | _ => none
  else d.addTop? s

/-- The settings that a file's text gives. -/
def parse? (t : Text) : Option Settings := do
  let t := dropStart ['\ufeff'] t
  let statements ← statements? (t.length + 1) t
  let d ← statements.foldlM Draft.add? {}
  let sorted := d.settings.types.mergeSort fun a b => !decide (b.1 < a.1)
  return { d.settings with types := sorted }

/-- The namespace to use: the one that was set without the dots at its end, or else the usual
one. -/
def effectiveScope (s : Settings) : Text :=
  let set := ((s.scope.getD []).reverse.dropWhile (· == '.')).reverse
  if set.isEmpty then "lia" else set

end Settings

end LuaReference
