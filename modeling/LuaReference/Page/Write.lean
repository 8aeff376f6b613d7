import LuaReference.Files.Disk
import LuaReference.Page.Basic

/-!
# Writing pages

* `Outcome` : what became of a page;
* `Page.put` : the page in a directory that exists;
* `Page.write` : a page that already has content is replaced only by force, and added to only by
  pages that ask for it.
-/

namespace LuaReference

open Text

/-- What became of a page. -/
inductive Outcome where
  | written
  | appended
  /-- There was content, and neither force nor appending applied. -/
  | skipped
  deriving DecidableEq, Repr

namespace Page

/-- Whether a page leaves what it finds alone. -/
def yields (page : Page) (force occupied : Bool) : Bool := occupied && !force && !page.append

/-- Puts a page into the directory that was made for it; `occupied` says that there was content. -/
def put (page : Page) (occupied : Bool) (disk : Disk) : Except FileError (Outcome × Disk) :=
  if page.append then do
    let disk ← disk.append page.path (page.render (!occupied)).encode
    return (if occupied then .appended else .written, disk)
  else do
    let disk ← disk.write page.path (page.render true).encode
    return (.written, disk)

/-- Writes a page. Directories that were made for it stay also when writing fails. -/
def write (page : Page) (force : Bool) (disk : Disk) : Except FileError Outcome × Disk :=
  let occupied := disk.isOccupied page.path
  if page.yields force occupied then (.ok .skipped, disk)
  else
    match disk.makeParents page.path with
    | (.error e, made) => (.error e, made)
    | (.ok _, made) =>
      match page.put occupied made with
      | .ok (outcome, done) => (.ok outcome, done)
      | .error e => (.error e, made)

end Page

end LuaReference
