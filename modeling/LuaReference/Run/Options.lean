import LuaReference.Files.Path
import LuaReference.Mode

/-!
# Command line options

* `Options` : what the command line asks for;
* `Arguments` : what was read of it so far, and `Arguments.read`, all of it;
* `Options.parse` : the options, where the command line is well-formed.
-/

namespace LuaReference

open Text

/-- What the command line asks for. -/
structure Options where
  mode : Mode
  files : List Text
  output : Option Path
  docsRoot : Option Path
  style : Option Style
  config : Option Path
  force : Bool
  coverage : Bool
  verbose : Bool
  quiet : Bool

/-- Why a command line gives no options. -/
inductive Usage where
  /-- It is not well-formed. -/
  | wrong
  /-- It asks for help. -/
  | help
  deriving DecidableEq, Repr

/-- An option with a value. -/
inductive Valued where
  | output
  | docsRoot
  | style
  | config
  deriving DecidableEq, Repr

/-- An option without a value. -/
inductive Switch where
  | force
  | coverage
  | verbose
  | quiet
  | help
  deriving DecidableEq, Repr

/-- Either of them. -/
inductive CommandOption where
  | valued (v : Valued)
  | switch (s : Switch)
  deriving DecidableEq, Repr

/-- The option with a long name. -/
def longOption? (name : Text) : Option CommandOption :=
  ([("output", .valued .output), ("docs-root", .valued .docsRoot), ("style", .valued .style),
    ("config", .valued .config), ("force", .switch .force), ("coverage", .switch .coverage),
    ("verbose", .switch .verbose), ("quiet", .switch .quiet), ("help", .switch .help)] :
    List (Text × CommandOption)).lookup name

/-- The option with a letter. -/
def shortOption? : Char → Option CommandOption
  | 'o' => some (.valued .output)
  | 'r' => some (.valued .docsRoot)
  | 's' => some (.valued .style)
  | 'c' => some (.valued .config)
  | 'v' => some (.switch .verbose)
  | 'q' => some (.switch .quiet)
  | 'h' => some (.switch .help)
  | _ => none

/-- The mode with a name. -/
def Mode.named? (name : Text) : Option Mode :=
  ([("library", .library), ("meta", .methods), ("compatibility", .compatibility),
    ("definitions", .definitions), ("hooks", .hooks)] : List (Text × Mode)).lookup name

/-- The style with a name. -/
def Style.named? (name : Text) : Option Style :=
  ([("html", .html), ("markdown", .markdown)] : List (Text × Style)).lookup name

/-- What was read of a command line. -/
structure Arguments where
  mode : Option Mode := none
  files : List Text := []
  values : List (Valued × Text) := []
  switches : List Switch := []

namespace Arguments

/-- Adds a plain argument. The first one has to name a mode, the others are files. -/
def addPlain (a : Arguments) (t : Text) : Except Usage Arguments :=
  match a.mode with
  | some _ => .ok { a with files := a.files ++ [t] }
  | none =>
    match Mode.named? t with
    | some mode => .ok { a with mode }
    | none => .error .wrong

/-- Adds an option with its value, which can be given once. Paths must not be empty, and a style
must be one. -/
def addValue (a : Arguments) (v : Valued) (t : Text) : Except Usage Arguments :=
  if (a.values.lookup v).isSome || t.isEmpty || (v = .style && (Style.named? t).isNone) then
    .error .wrong
  else .ok { a with values := a.values ++ [(v, t)] }

/-- Adds an option without a value, which can be given once. -/
def addSwitch (a : Arguments) (s : Switch) : Except Usage Arguments :=
  if s = .help then .error .help
  else if a.switches.contains s then .error .wrong
  else .ok { a with switches := a.switches ++ [s] }

/-- Reads letters after a dash. A letter that needs a value takes the rest of the argument, after an
equals sign where there is one; without a rest the next argument is still to come. -/
def addLetters (a : Arguments) : Text → Except Usage (Arguments × Option Valued)
  | [] => .ok (a, none)
  | c :: r =>
    match shortOption? c with
    | none => .error .wrong
    | some (.switch s) => do addLetters (← a.addSwitch s) r
    | some (.valued v) =>
      if r.isEmpty then .ok (a, some v)
      else do return (← a.addValue v (dropStart "=" r), none)

/-- Reads what stands after two dashes. -/
def addLong (a : Arguments) (t : Text) : Except Usage (Arguments × Option Valued) :=
  let (name, value?) := match cut? "=" t with
    | some (name, value) => (name, some value)
    | none => (t, none)
  match longOption? name, value? with
  | some (.valued v), some value => do return (← a.addValue v value, none)
  | some (.valued v), none => .ok (a, some v)
  | some (.switch s), none => do return (← a.addSwitch s, none)
  | _, _ => .error .wrong

/-- Reads one argument that is not the value of the one before. -/
def addArgument (a : Arguments) (arg : Text) : Except Usage (Arguments × Option Valued) :=
  match after? "--" arg with
  | some name => a.addLong name
  | none =>
    match after? "-" arg with
    | none | some [] => do return (← a.addPlain arg, none)
    | some letters => a.addLetters letters

/-- Reads a command line; `awaiting` is the option whose value comes next. After two dashes alone
every argument is a plain one. -/
def read (a : Arguments) : (awaiting : Option Valued) → List Text → Except Usage Arguments
  | none, [] => .ok a
  | some _, [] => .error .wrong
  | some v, arg :: rest =>
    if startsWith "-" arg && arg != "-" then .error .wrong
    else do read (← a.addValue v arg) none rest
  | none, arg :: rest =>
    if arg = "--" then rest.foldlM addPlain a
    else do
      let (a, awaiting) ← a.addArgument arg
      read a awaiting rest

end Arguments

/-- The options that a command line stands for. -/
def Options.parse (args : List Text) : Except Usage Options := do
  let a ← Arguments.read {} none args
  match a.mode with
  | none => throw .wrong
  | some mode =>
    if a.switches.contains .verbose && a.switches.contains .quiet then throw .wrong
    return {
      mode
      files := a.files
      output := (a.values.lookup .output).map Path.mk
      docsRoot := (a.values.lookup .docsRoot).map Path.mk
      style := (a.values.lookup .style).bind Style.named?
      config := (a.values.lookup .config).map Path.mk
      force := a.switches.contains .force
      coverage := a.switches.contains .coverage
      verbose := a.switches.contains .verbose
      quiet := a.switches.contains .quiet }

end LuaReference
