import LuaReference.Text.Case

/-!
# The log of a run

* `Level` : how much a line of the log matters;
* `LogLine` : a line of the log, a message and fields that say more;
* `spell` : how a character of a message is written;
* `Filter` : the levels that are shown, and `Filter.named`, the filter of a name.
-/

namespace LuaReference

open Text

/-- How much a line of the log matters, the gravest first. -/
inductive Level where
  | error
  | warn
  | info
  | debug
  deriving DecidableEq, Repr

/-- The name of a level. -/
def Level.name : Level → Text
  | .error => "ERROR"
  | .warn => "WARN"
  | .info => "INFO"
  | .debug => "DEBUG"

/-- The levels from the gravest on. -/
def Level.rank : Level → Nat
  | .error => 1
  | .warn => 2
  | .info => 3
  | .debug => 4

/-- A line of the log: a message, and fields that say more. -/
structure LogLine where
  level : Level
  message : Text
  fields : List (Text × Text) := []
  deriving DecidableEq, Repr

namespace LogLine

/-- The control characters that are spelled out with two digits: bell, backspace, form feed, escape
and delete. -/
def steering : List Char := ['\x07', '\x08', '\x0c', '\x1b', '\x7f']

/-- How a character of a message is written: one that could steer a terminal is spelled out. -/
def spell (c : Char) : Text :=
  if steering.contains c then
    List.flatten ["\\x", if c.toNat < 0x10 then "0" else "", Nat.toDigits 16 c.toNat]
  else if 0x80 ≤ c.toNat && c.toNat ≤ 0x9F then
    List.flatten ["\\u\x7b", Nat.toDigits 16 c.toNat, "\x7d"]
  else [c]

/-- A field as it is written. -/
def fieldText (field : Text × Text) : Text := List.flatten [" ", field.1, "=", field.2]

/-- The line as it is written. Fields stand as they are. -/
def text (line : LogLine) : Text :=
  List.flatten
    [line.level.name, " ", line.message.flatMap spell, line.fields.flatMap fieldText]

end LogLine

/-- The lines that are shown: those with a rank up to `most`. -/
structure Filter where
  most : Nat
  deriving DecidableEq, Repr

namespace Filter

/-- Shows the levels up to this one. -/
def upTo (level : Level) : Filter := ⟨level.rank⟩

/-- The filter with a number: so many levels from the gravest on. -/
def numbered? (t : Text) : Option Filter :=
  if t.isEmpty || !t.all Char.isDigit then none
  else
    let n := t.foldl (fun n c => 10 * n + (c.toNat - 0x30)) 0
    if n ≤ 5 then some ⟨n⟩ else none

/-- The filter that a name stands for: a level in any case or by its number, `off`, or nothing,
which shows errors. A text that is no such name shows nothing. -/
def named (t : Text) : Filter :=
  let name := t.map Char.toLower
  if let some filter := numbered? t then filter
  else if name.isEmpty || name == "error" then upTo .error
  else if name == "warn" then upTo .warn
  else if name == "info" then upTo .info
  else if name == "debug" || name == "trace" then upTo .debug
  else ⟨0⟩

/-- The lines that are shown. -/
def apply (filter : Filter) (log : List LogLine) : List LogLine :=
  log.filter fun line => line.level.rank ≤ filter.most

end Filter

end LuaReference
