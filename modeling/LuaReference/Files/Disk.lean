import LuaReference.Files.Path
import LuaReference.Files.Tree
import LuaReference.Text.Position

/-!
# The disk

* `Disk` : a file tree and the directory that relative paths start in;
* `FileError` : why a path cannot be used;
* `longestPath`, `longestName` : how many bytes a path and a name in it can have;
* `Stop`, `Disk.walk`, `Disk.find` : the places on the way along a path, and what it leads to;
* `Disk.isOccupied` : whether that is more than an empty file; a directory always counts, also an empty one;
* `Disk.place` : the directory in which a path would create something, and under which name;
* `Disk.makeDirectory`, `Disk.makeDirectories`, `Disk.makeParents` : creation of one directory, of
  those it stands in too, and of all that a path needs;
* `Disk.read`, `Disk.write`, `Disk.append` : the content of files.

A disk has regular files and directories alone, without links, permissions or special files. All that can
fail is to follow a path and to open what it leads to: an open file is read and written whole.
-/

namespace LuaReference

open Text

/-- A file tree and the directory in which relative paths start. -/
structure Disk where
  root : Tree
  cwd : Location

/-- Why a path cannot be used. -/
inductive FileError where
  | notFound
  | notDirectory
  | isDirectory
  | alreadyExists
  | nameTooLong
  /-- No path holds the character with code zero. -/
  | nulInName
  deriving DecidableEq, Repr

/-- The wording of a file error. -/
def FileError.message : FileError → Text
  | .notFound => "No such file or directory (os error 2)"
  | .notDirectory => "Not a directory (os error 20)"
  | .isDirectory => "Is a directory (os error 21)"
  | .alreadyExists => "File exists (os error 17)"
  | .nameTooLong => "File name too long (os error 36)"
  | .nulInName => "file name contained an unexpected NUL byte"

namespace Disk

/-! ## Limits -/

/-- The most bytes that a path can have. -/
def longestPath : Nat := 4095

/-- The most bytes that a name in a path can have. -/
def longestName : Nat := 255

/-- Refuses a path that leads nowhere whatever the disk holds. -/
def checkPath (p : Path) : Except FileError Unit :=
  if p.text.contains '\x00' then .error .nulInName
  else if p.text.isEmpty then .error .notFound
  else if longestPath < byteLength p.text then .error .nameTooLong
  else .ok ()

/-- Refuses a name that no directory can hold. -/
def checkName (name : Text) : Except FileError Unit :=
  if longestName < byteLength name then .error .nameTooLong else .ok ()

/-! ## Following paths -/

/-- A place on the way along a path: the names that lead to it, from the last back, and what stands
there. -/
structure Stop where
  trail : List Text
  node : Option Tree

/-- The place that a trail leads to. -/
def Stop.at (root : Tree) (trail : List Text) : Stop := ⟨trail, root.get? trail.reverse⟩

/-- The location of a place. -/
def Stop.location (s : Stop) : Location := s.trail.reverse

/-- The place after one piece of a path: a name leads down, two dots lead up, from the root to
itself. -/
def Stop.enter (root : Tree) (s : Stop) (piece : Text) : Stop :=
  if Path.isIdle piece then s
  else if piece = ".." then .at root s.trail.tail
  else ⟨piece :: s.trail, s.node.bind (·.child? piece)⟩

/-- Whether a place is a directory, or what it is instead. -/
def Stop.checkDirectory (s : Stop) : Except FileError Unit :=
  match s.node with
  | none => .error .notFound
  | some (.file _) => .error .notDirectory
  | some (.directory _) => .ok ()

/-- Follows the pieces of a path. Every piece has to be looked up in a directory that exists, and a
name has to fit in it; the place that the last piece leads to need not exist. -/
def walk (root : Tree) : Stop → List Text → Except FileError Stop
  | s, [] => .ok s
  | s, piece :: rest => do
    s.checkDirectory
    checkName piece
    walk root (s.enter root piece) rest

/-- Where a path starts. -/
def start (disk : Disk) (p : Path) : Stop :=
  .at disk.root (if p.isAbsolute then [] else disk.cwd.reverse)

/-- The place that a path leads to. -/
def locate (disk : Disk) (p : Path) : Except FileError Stop := do
  checkPath p
  walk disk.root (disk.start p) p.pieces

/-- What stands where a path leads to. -/
def find (disk : Disk) (p : Path) : Except FileError Tree := do
  match (← disk.locate p).node with
  | some node => return node
  | none => throw .notFound

/-- Whether a path leads to a file. -/
def isFile (disk : Disk) (p : Path) : Bool :=
  match disk.find p with
  | .ok (.file _) => true
  | _ => false

/-- Whether a path leads to a directory. -/
def isDirectory (disk : Disk) (p : Path) : Bool :=
  match disk.find p with
  | .ok (.directory _) => true
  | _ => false

/-- Whether a path leads to something that is not an empty file. -/
def isOccupied (disk : Disk) (p : Path) : Bool :=
  match disk.find p with
  | .ok (.file content) => !content.isEmpty
  | .ok (.directory _) => true
  | .error _ => false

/-- The content of the file that a path leads to. -/
def read (disk : Disk) (p : Path) : Except FileError Bytes := do
  match ← disk.find p with
  | .file content => return content
  | .directory _ => throw .isDirectory

/-! ## Creating -/

/-- The pieces of a path without the slashes at its end. -/
def solidPieces (p : Path) : List Text := (p.pieces.reverse.dropWhile List.isEmpty).reverse

/-- The directory that the last piece of a path is looked up in, and that piece when it is a
name. -/
def place (disk : Disk) (p : Path) : Except FileError (Stop × Option Text) := do
  checkPath p
  let solid := solidPieces p
  let dir ← walk disk.root (disk.start p) solid.dropLast
  dir.checkDirectory
  match solid.getLast? with
  | none => return (dir, none)
  | some last =>
    return (dir, if Path.isIdle last || last == ".." then none else some last)

/-- Creates one directory. -/
def makeDirectory (disk : Disk) (p : Path) : Except FileError Disk := do
  match ← disk.place p with
  | (_, none) => throw .alreadyExists
  | (dir, some name) =>
    checkName name
    match dir.node.bind (·.child? name) with
    | some _ => throw .alreadyExists
    | none => return { disk with root := disk.root.put (dir.location ++ [name]) (.directory []) }

/-- Creates a directory unless it exists. -/
def ensureDirectory (disk : Disk) (p : Path) : Except FileError Disk :=
  match disk.makeDirectory p with
  | .ok made => .ok made
  | .error e => if disk.isDirectory p then .ok disk else .error e

/-- Creates the first directory of a lineage and, where they are missing, those it stands in. What
was created stays also when a later step fails. -/
def makeLineage (disk : Disk) : List Path → Except FileError Unit × Disk
  | [] => (.error .notFound, disk)
  | p :: outer =>
    if p.text.isEmpty then (.ok (), disk)
    else
      match disk.makeDirectory p with
      | .ok made => (.ok (), made)
      | .error .notFound =>
        match makeLineage disk outer with
        | (.error e, made) => (.error e, made)
        | (.ok _, made) =>
          match made.ensureDirectory p with
          | .ok done => (.ok (), done)
          | .error e => (.error e, made)
      | .error e => if disk.isDirectory p then (.ok (), disk) else (.error e, disk)

/-- Creates a directory and, where they are missing, those it stands in. A path that leads nowhere
is refused at once. -/
def makeDirectories (disk : Disk) (p : Path) : Except FileError Unit × Disk :=
  if p.text.isEmpty then (.ok (), disk)
  else
    match checkPath p with
    | .error e => (.error e, disk)
    | .ok _ => disk.makeLineage p.lineage

/-- Creates the directories that a path needs. -/
def makeParents (disk : Disk) (p : Path) : Except FileError Unit × Disk :=
  match p.parent? with
  | none => (.ok (), disk)
  | some dir => disk.makeDirectories dir

/-- The location of the file that a path opens for writing. -/
def target (disk : Disk) (p : Path) : Except FileError Location := do
  match ← disk.place p with
  | (_, none) => throw .isDirectory
  | (dir, some name) =>
    if p.text.getLast? = some '/' then throw .isDirectory
    checkName name
    match dir.node.bind (·.child? name) with
    | some (.directory _) => throw .isDirectory
    | _ => return dir.location ++ [name]

/-- The content of the file at a location, empty where there is none. -/
def contentAt (disk : Disk) (here : Location) : Bytes :=
  match disk.root.get? here with
  | some (.file content) => content
  | _ => []

/-- Puts a file at a location. -/
def putFile (disk : Disk) (here : Location) (content : Bytes) : Disk :=
  { disk with root := disk.root.put here (.file content) }

/-- Replaces the content of the file that a path leads to, which is created where it is missing. -/
def write (disk : Disk) (p : Path) (content : Bytes) : Except FileError Disk := do
  let here ← disk.target p
  return disk.putFile here content

/-- Adds to the content of the file that a path leads to, which is created where it is missing. -/
def append (disk : Disk) (p : Path) (content : Bytes) : Except FileError Disk := do
  let here ← disk.target p
  return disk.putFile here (disk.contentAt here ++ content)

end Disk

end LuaReference
