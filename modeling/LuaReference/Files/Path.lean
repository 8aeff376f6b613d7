import LuaReference.Text.Basic

/-!
# Paths

A path is kept as it was written; what it means is read off its components.

* `Path.pieces` : the texts between its slashes;
* `Component`, `Path.components` : root, leading dot, dots and names, without what changes nothing;
* `Path.lineage` : the path and the directories that lead to it, from the inside out;
* `Path.parent?`, `Path.fileName?`, `Path.stem`, `Path.extension?` : its parts;
* `Path.join` : a path inside a directory;
* `Path.before` : paths in order of their components.
-/

namespace LuaReference

open Text

/-- A path, as it was written. -/
structure Path where
  text : Text
  deriving DecidableEq, Repr

/-- A step of a path. -/
inductive Component where
  | root
  /-- The dot that a path starts with. -/
  | here
  | up
  | name (n : Text)
  deriving DecidableEq, Repr

namespace Path

/-- The texts between the slashes of a path. -/
def pieces (p : Path) : List Text := splitOn '/' p.text

/-- Whether a path starts at the root. -/
def isAbsolute (p : Path) : Bool := startsWith "/" p.text

/-- Whether a piece changes nothing where it stands after another: nothing between two slashes, or
a dot. -/
def isIdle (piece : Text) : Bool := piece.isEmpty || piece == "."

/-- The component that a piece stands for. -/
def componentOf (piece : Text) : Component := if piece = ".." then .up else .name piece

/-- The component that the first piece stands for; the piece before the slash that a path starts
with is the root. -/
def firstComponent (absolute : Bool) (piece : Text) : List Component :=
  if piece.isEmpty then (if absolute then [.root] else [])
  else if piece = "." then [.here]
  else [componentOf piece]

/-- The components of a path. -/
def components (p : Path) : List Component :=
  match p.pieces with
  | [] => []
  | first :: rest =>
    firstComponent p.isAbsolute first ++ (rest.filter fun piece => !isIdle piece).map componentOf

/-- The file name: the last component, when it is a name. -/
def fileName? (p : Path) : Option Text :=
  match p.components.getLast? with
  | some (.name n) => some n
  | _ => none

/-- A file name cut at its last dot: what stands before it, and what after it. A name whose only dot
is its first character is not cut. -/
def cutName (name : Text) : Text × Option Text :=
  match cut? "." name.reverse with
  | some (ending, front) => if front.isEmpty then (name, none) else (front.reverse, some ending.reverse)
  | none => (name, none)

/-- The file name without its extension, empty when there is no file name. -/
def stem (p : Path) : Text := (p.fileName?.map fun name => (cutName name).1).getD []

/-- The extension of the file name. -/
def extension? (p : Path) : Option Text := p.fileName?.bind fun name => (cutName name).2

/-- The path with a first piece and others, which are given from the last back; idle ones at its
end are not written. -/
def spelling (absolute : Bool) (first : Text) (inner : List Text) : Path :=
  match inner.dropWhile isIdle with
  | [] => if first.isEmpty && absolute then ⟨"/"⟩ else ⟨first⟩
  | kept => ⟨Text.join "/" (first :: kept.reverse)⟩

/-- The spellings of a path and of the directories that lead to it, given its first piece and the
others from the last back. -/
def spellings (absolute : Bool) (first : Text) : List Text → List Path
  | [] => spelling absolute first [] :: if first.isEmpty then [] else [⟨[]⟩]
  | piece :: rest =>
    if isIdle piece then spellings absolute first rest
    else spelling absolute first (piece :: rest) :: spellings absolute first rest

/-- The path and the directories that lead to it, from the inside out. -/
def lineage (p : Path) : List Path :=
  match p.pieces with
  | [] => []
  | first :: rest => spellings p.isAbsolute first rest.reverse

/-- The directory of a path; the root and the empty path have none. -/
def parent? (p : Path) : Option Path :=
  match p.pieces with
  | [] => none
  | first :: rest =>
    match rest.reverse.dropWhile isIdle with
    | [] => if first.isEmpty then none else some ⟨[]⟩
    | _ :: outer => some (spelling p.isAbsolute first outer)

/-- A path inside a directory; an absolute path stands for itself. -/
def join (dir : Path) (p : Text) : Path :=
  if startsWith "/" p then ⟨p⟩
  else if dir.text.isEmpty || dir.text.getLast? == some '/' then ⟨dir.text ++ p⟩
  else ⟨dir.text ++ '/' :: p⟩

end Path

namespace Component

/-- The kinds of components in order: root, dot, dots, names. -/
def rank : Component → Nat
  | .root => 0
  | .here => 1
  | .up => 2
  | .name _ => 3

/-- The name of a component, where it is one. -/
def label : Component → Text
  | .name n => n
  | _ => []

/-- The order of components: by kind, names by code points. -/
def before (a b : Component) : Bool :=
  a.rank < b.rank || (a.rank == b.rank && decide (a.label < b.label))

end Component

/-- The order of paths: component by component. -/
def Path.before (p q : Path) : Bool := List.lex p.components q.components Component.before

/-- Whether two paths have the same components. -/
def Path.same (p q : Path) : Bool := p.components == q.components

end LuaReference
