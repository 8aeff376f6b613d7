import LuaReference.Run.Batch
import LuaReference.Run.Inputs
import LuaReference.Run.Options
import LuaReference.Settings.Load

/-!
# The program

* `ProgramError` : why the program stops;
* `Conclusion` : what the program leaves behind, and `Conclusion.diagnostics`, what it says while it
  runs;
* `Program.run` : the program on a disk, from its arguments to its conclusion.
-/

namespace LuaReference

open Text

/-- Why the program stops. -/
inductive ProgramError where
  | settings (cause : SettingsError)
  | noOutput
  | badPattern (pattern : Text)
  deriving DecidableEq, Repr

/-- The wording of an error. -/
def ProgramError.message : ProgramError → Text
  | .settings cause => cause.message
  | .noOutput => "--output is required (or set \x60output\x60 in liadoc.toml)"
  | .badPattern pattern => "invalid glob pattern: ".toList ++ pattern

/-- What the program leaves behind. -/
structure Conclusion where
  exitCode : Nat
  output : Text
  log : List LogLine
  error : Option Text
  disk : Disk

/-- What the program says while it runs: the log, then why it stopped, each ended by a newline. -/
def Conclusion.diagnostics (c : Conclusion) : Text :=
  (c.log.map LogLine.text ++ (c.error.map ("Error: ".toList ++ ·)).toList).flatMap (· ++ "\n")

namespace Program

/-- How the program is called. -/
def usage : Text := "Usage: liadoc [OPTIONS] <MODE> [FILES]...\n"

/-- The directory of a directory; the working directory where it has none. -/
def defaultDocsRoot (output : Path) : Path :=
  match output.parent? with
  | some p => if p.text.isEmpty then ⟨"."⟩ else p
  | none => ⟨"."⟩

/-- The lines of the log that are shown: by the filter that was named, or else by the options. -/
def filter (o : Options) (named : Option Text) : Filter :=
  match named with
  | some name => .named name
  | none => .upTo (if o.quiet then .error else if o.verbose then .debug else .info)

/-- Options, settings and sources are all there: the pages are written. -/
def generate (o : Options) (s : Settings) (output : Path) (sources : List Path) (disk : Disk) :
    Batch :=
  let g : Generator :=
    { mode := o.mode
      chosenStyle := o.style
      links := Types.Links.standard.extend s.types
      layout :=
        { outputDir := output
          docsRoot := (o.docsRoot <|> s.docsRoot).getD (defaultDocsRoot output)
          scope := s.effectiveScope }
      force := o.force }
  g.runAll sources disk

/-- Runs the program with options that were read. -/
def runWith (o : Options) (disk : Disk) : Conclusion :=
  let stop := fun (e : ProgramError) log => (⟨1, [], log, some e.message, disk⟩ : Conclusion)
  match Settings.load disk o.config with
  | .error e => stop (.settings e) []
  | .ok s =>
    match o.output <|> s.output with
    | none => stop .noOutput []
    | some output =>
      match Inputs.expand disk o.files with
      | (log, .error pattern) => stop (.badPattern pattern) log
      | (log, .ok []) =>
        ⟨0, [], log ++ [{ level := .info, message := "no input files, nothing to do" }], none, disk⟩
      | (log, .ok sources) =>
        let b := generate o s output sources disk
        ⟨0, if o.coverage then b.coverage.render else [], log ++ b.log, none, b.disk⟩

/-- Runs the program. -/
def run (args : List Text) (named : Option Text) (disk : Disk) : Conclusion :=
  match Options.parse args with
  | .error .wrong => ⟨2, [], [], none, disk⟩
  | .error .help => ⟨0, usage, [], none, disk⟩
  | .ok o =>
    let c := runWith o disk
    { c with log := (filter o named).apply c.log }

end Program

end LuaReference
