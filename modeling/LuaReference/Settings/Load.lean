import LuaReference.Files.Disk
import LuaReference.Settings.Basic

/-!
# Loading settings

* `SettingsError` : why settings cannot be loaded;
* `Settings.load` : the settings of a file that was named, or of the usual file where it exists.
-/

namespace LuaReference

open Text

/-- Why settings cannot be loaded. -/
inductive SettingsError where
  | notFound (path : Path)
  | unreadable (path : Path) (cause : FileError)
  | badEncoding (path : Path)
  | invalid (path : Path)
  deriving DecidableEq, Repr

/-- The wording of an error. -/
def SettingsError.message : SettingsError → Text
  | .notFound path => "config file not found: ".toList ++ path.text
  | .unreadable path cause =>
    List.flatten ["failed to read config ", path.text, ": ", cause.message]
  | .badEncoding path =>
    List.flatten ["failed to read config ", path.text, ": stream did not contain valid UTF-8"]
  | .invalid path => "invalid config ".toList ++ path.text

namespace Settings

/-- The usual settings file. -/
def usualFile : Path := ⟨"liadoc.toml"⟩

/-- The settings of a file. -/
def ofFile (disk : Disk) (path : Path) : Except SettingsError Settings :=
  match disk.read path with
  | .error cause => .error (.unreadable path cause)
  | .ok content =>
    match decode? content with
    | none => .error (.badEncoding path)
    | some t =>
      match parse? t with
      | none => .error (.invalid path)
      | some s => .ok s

/-- The settings of the file that was named, which must exist, or else of the usual one, which need
not. -/
def load (disk : Disk) : Option Path → Except SettingsError Settings
  | some path => if disk.isFile path then ofFile disk path else .error (.notFound path)
  | none => if disk.isFile usualFile then ofFile disk usualFile else .ok {}

end Settings

end LuaReference
