import LuaReference.Text.Bytes

/-!
# File trees

* `Tree` : a file with its content, or a directory with its entries;
* `Location` : the names that lead from the root to a place;
* `Tree.child?`, `Tree.get?`, `Tree.put` : what stands at a place, and its replacement;
* `Tree.plant` : a tree put at a place together with the directories that lead there;
* `Tree.nodes`, `Tree.files` : everything below a tree with its location.

A tree has regular files and directories alone: no links, no second name for a file, no permissions and
no special files.
-/

namespace LuaReference

/-- The names that lead to a place, from the root down. -/
abbrev Location := List Text

/-- A file or a directory. -/
inductive Tree where
  | file (content : Bytes)
  | directory (entries : List (Text × Tree))

namespace Tree

/-- Gives the entry of a name a new value, at the end where there is none. -/
def setEntry (name : Text) (new : Tree) : List (Text × Tree) → List (Text × Tree)
  | [] => [(name, new)]
  | (other, old) :: rest =>
    if other = name then (other, new) :: rest else (other, old) :: setEntry name new rest

/-- What stands under a name in a directory. -/
def child? (name : Text) : Tree → Option Tree
  | .file _ => none
  | .directory entries => entries.lookup name

/-- What stands at a location. -/
def get? : Tree → Location → Option Tree
  | t, [] => some t
  | .file _, _ :: _ => none
  | .directory entries, name :: rest =>
    match entries.lookup name with
    | some child => get? child rest
    | none => none

/-- Puts a tree at a location whose directory exists; elsewhere nothing changes. -/
def put : Tree → Location → Tree → Tree
  | _, [], new => new
  | .file content, _ :: _, _ => .file content
  | .directory entries, name :: rest, new =>
    match entries.lookup name with
    | some child => .directory (setEntry name (put child rest new) entries)
    | none => if rest.isEmpty then .directory (setEntry name new entries) else .directory entries

/-- Puts a tree at a location and makes the directories that lead to it; a file on the way gives
way to a directory. -/
def plant : Tree → Location → Tree → Tree
  | _, [], new => new
  | .file _, name :: rest, new => .directory [(name, plant (.directory []) rest new)]
  | .directory entries, name :: rest, new =>
    .directory (setEntry name (plant ((entries.lookup name).getD (.directory [])) rest new) entries)

/-- Everything strictly below a tree, with its location in it. -/
def nodes : Tree → List (Location × Tree)
  | .file _ => []
  | .directory entries =>
    entries.attach.flatMap fun ⟨(name, child), _⟩ =>
      ([name], child) :: (nodes child).map fun (loc, node) => (name :: loc, node)
decreasing_by
  have h := List.sizeOf_lt_of_mem ‹_ ∈ entries›
  simp only [Prod.mk.sizeOf_spec, Tree.directory.sizeOf_spec] at h ⊢
  omega

/-- The files below a tree, with their locations in it. -/
def files (t : Tree) : List (Location × Bytes) :=
  t.nodes.filterMap fun (loc, node) =>
    match node with
    | .file content => some (loc, content)
    | .directory _ => none

end Tree

end LuaReference
