import LuaReference.Files.Pattern
import LuaReference.Run.Log

/-!
# The sources of a run

* `Inputs.ofArgument?` : the sources that one argument stands for: a file, the sources in a
  directory, or the files that fit a pattern;
* `Inputs.dedup` : one spelling for each path of an ordered list;
* `Inputs.expandWith`, `Inputs.expand` : the sources of all arguments, in order and each once.
-/

namespace LuaReference.Inputs

open Text

/-- Whether a path has the extension of sources. -/
def isSource (p : Path) : Bool := p.extension? == some "lua".toList

/-- The files with the extension of sources among some paths. -/
def sourceFiles (disk : Disk) (paths : List Path) : List Path :=
  paths.filter fun p => disk.isFile p && isSource p

/-- How patterns are looked up: the paths that fit one, nothing for a text that is none. -/
abbrev Search := Text → Option (List Path)

/-- The sources that an argument stands for, and a warning where a pattern fits none; nothing when
it is no pattern. -/
def ofArgument? (search : Search) (disk : Disk) (arg : Text) : Option (List Path × List LogLine) :=
  let path : Path := ⟨arg⟩
  match disk.find path with
  | .ok (.file _) => some ([path], [])
  | .ok (.directory entries) => some (sourceFiles disk (entries.map fun (n, _) => path.join n), [])
  | .error _ =>
    (search arg).map fun fitting =>
      let found := sourceFiles disk fitting
      (found,
        if found.isEmpty then
          [{ level := .warn, message := "no files matched: ".toList ++ arg }]
        else [])

/-- The sources of some arguments one after the other, and the warnings about them; the pattern
that is none where there is one. -/
def collect (search : Search) (disk : Disk) : List Text → List LogLine × Except Text (List Path)
  | [] => ([], .ok [])
  | arg :: rest =>
    match ofArgument? search disk arg with
    | none => ([], .error arg)
    | some (found, log) =>
      let (more, result) := collect search disk rest
      (log ++ more, result.map (found ++ ·))

/-- Keeps the first of neighbours with the same components. -/
def dedup : List Path → List Path
  | [] => []
  | p :: rest =>
    match dedup rest with
    | [] => [p]
    | q :: more => if p.same q then p :: more else p :: q :: more

/-- Paths in order and each once. -/
def arrange (paths : List Path) : List Path := dedup (paths.mergeSort fun p q => !q.before p)

/-- The sources of all arguments, with patterns looked up in a given way. -/
def expandWith (search : Search) (disk : Disk) (args : List Text) :
    List LogLine × Except Text (List Path) :=
  let (log, result) := collect search disk args
  (log, result.map arrange)

/-- The sources of all arguments. -/
def expand (disk : Disk) (args : List Text) : List LogLine × Except Text (List Path) :=
  expandWith (Pattern.search disk) disk args

end LuaReference.Inputs
