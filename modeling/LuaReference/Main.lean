import LuaReference.Run.Program

/-!
# The command line

The program works on a copy of the files below the working directory and below every absolute path
among its arguments. What it changed is then written back.
-/

namespace LuaReference.Main

open Text

/-- The location of an absolute path. -/
def locationOf (path : String) : Location :=
  (splitOn '/' path.toList).filter fun piece => !piece.isEmpty

/-- The absolute path of a location. -/
def pathOf (here : Location) : String := "/" ++ String.ofList (Text.join "/" here)

/-- The files and directories at a path; links are followed to files only. -/
partial def snapshot (path : String) : IO Tree := do
  let real ← IO.FS.realPath path
  if ← real.isDir then
    let entries ← (← real.readDir).toList.filterMapM fun entry => do
      let link := (← entry.path.symlinkMetadata).type matches .symlink
      if link && (← entry.path.isDir) || !(← entry.path.pathExists) then return none
      return some (entry.fileName.toList, ← snapshot entry.path.toString)
    return .directory entries
  else
    return .file (← IO.FS.readBinFile path).toList

/-- Whether something is at a path. -/
def isThere (path : String) : IO Bool := do
  try
    (← IO.FS.realPath path).pathExists
  catch _ =>
    return false

/-- The copy of the disk that the program works on. -/
def load (args : List String) : IO Disk := do
  let cwd := (← IO.FS.realPath ".").toString
  let mut root : Tree := .directory []
  for path in cwd :: args.filter (·.startsWith "/") do
    if ← isThere path then
      root := root.plant (locationOf path) (← snapshot path)
  return { root, cwd := locationOf cwd }

/-- Writes the files back that differ from what they were. A file that was not copied is left as it
is. -/
def store (old new : Disk) : IO Unit := do
  for (here, content) in new.root.files do
    let (known, same) := match old.root.get? here with
      | some (.file before) => (true, before == content)
      | _ => (false, false)
    unless same || (!known && (← isThere (pathOf here))) do
      IO.FS.createDirAll (pathOf here.dropLast)
      IO.FS.writeBinFile (pathOf here) content.toByteArray

end LuaReference.Main

open LuaReference in
/-- Runs the program on the files of the machine. -/
def main (args : List String) : IO UInt32 := do
  let disk ← Main.load args
  let named ← IO.getEnv "LIADOC_LOG"
  let c := Program.run (args.map String.toList) (named.map String.toList) disk
  Main.store disk c.disk
  IO.print (String.ofList c.output)
  if c.exitCode = 2 then
    IO.eprint (String.ofList Program.usage)
  IO.eprint (String.ofList c.diagnostics)
  return c.exitCode.toUInt32
