import LuaReference.Run.Generator

/-!
# A batch of sources

* `Batch` : what was collected over the sources so far;
* `Batch.step` : one more source; one that comes to nothing is skipped;
* `Generator.runAll` : all sources of a list in order.
-/

namespace LuaReference

/-- What was collected over some sources. -/
structure Batch where
  disk : Disk
  coverage : Coverage := {}
  log : List LogLine := []

/-- Processes one more source. -/
def Batch.step (g : Generator) (b : Batch) (path : Path) : Batch :=
  let s := g.processFile path b.disk
  let log :=
    b.log ++ { level := .debug, message := "Processing ".toList ++ path.text } :: s.log
  match s.result with
  | .ok report => { disk := s.disk, coverage := b.coverage.record report, log }
  | .error e =>
    { disk := s.disk
      coverage := b.coverage
      log :=
        log ++
          [{ level := .warn
             message := List.flatten ["skipping ", path.text, ": ", e.message] }] }

/-- Processes the sources of a list. -/
def Generator.runAll (g : Generator) (paths : List Path) (disk : Disk) : Batch :=
  paths.foldl (Batch.step g) { disk }

end LuaReference
