import LuaReference.Text.Basic

/-!
# Dates and times of a settings file

* `date?`, `time?`, `offset?` : the parts, each in its normal form with what follows it;
* `stamp?` : a date, a time, or both with an optional offset.
-/

namespace LuaReference.Settings

open Text

/-- Exactly `count` digits at the start of a text, and what follows them. -/
def digits? (count : Nat) (t : Text) : Option (Text × Text) :=
  let front := t.take count
  if front.length = count && front.all Char.isDigit then some (front, t.drop count) else none

/-- The number that digits stand for. -/
def number (digits : Text) : Nat := digits.foldl (fun n c => 10 * n + (c.toNat - 0x30)) 0

/-- Two digits for a number from `low` to `high`, and what follows them. -/
def pair? (low high : Nat) (t : Text) : Option (Text × Text) := do
  let (front, rest) ← digits? 2 t
  if low ≤ number front && number front ≤ high then return (front, rest) else none

/-- The number of days of a month. -/
def daysIn (year month : Nat) : Nat :=
  if month = 2 then
    if year % 4 = 0 && (year % 100 != 0 || year % 400 = 0) then 29 else 28
  else if [4, 6, 9, 11].contains month then 30
  else 31

/-- A date. -/
def date? (t : Text) : Option (Text × Text) := do
  let (year, rest) ← digits? 4 t
  let rest ← after? "-" rest
  let (month, rest) ← pair? 1 12 rest
  let rest ← after? "-" rest
  let (day, rest) ← pair? 1 (daysIn (number year) (number month)) rest
  return (List.flatten [year, "-", month, "-", day], rest)

/-- A fraction of a second: nine digits at most, without the zeros at its end. -/
def fraction (t : Text) : Text × Text :=
  match after? "." t with
  | none => ([], t)
  | some r =>
    let shown := ((r.takeWhile Char.isDigit).take 9).reverse.dropWhile (· == '0') |>.reverse
    if (r.takeWhile Char.isDigit).isEmpty then ([], t)
    else (if shown.isEmpty then [] else '.' :: shown, r.dropWhile Char.isDigit)

/-- A time of day. -/
def time? (t : Text) : Option (Text × Text) := do
  let (hour, rest) ← pair? 0 23 t
  let rest ← after? ":" rest
  let (minute, rest) ← pair? 0 59 rest
  let rest ← after? ":" rest
  let (second, rest) ← pair? 0 60 rest
  let (frac, rest) := fraction rest
  return (List.flatten [hour, ":", minute, ":", second, frac], rest)

/-- The offset of a time from universal time, where none is written as a positive one. -/
def offset? : Text → Option (Text × Text)
  | [] => none
  | c :: r =>
    if c == 'Z' || c == 'z' then some ("Z", r)
    else if c == '+' || c == '-' then do
      let (hour, rest) ← pair? 0 23 r
      let rest ← after? ":" rest
      let (minute, rest) ← pair? 0 59 rest
      let sign := if number hour = 0 && number minute = 0 then '+' else c
      return (List.flatten [[sign], hour, ":", minute], rest)
    else none

/-- A time after its delimiter, with its offset. -/
def clock? : Text → Option (Text × Text)
  | [] => none
  | c :: r =>
    if c == 'T' || c == 't' || c == ' ' then do
      let (time, rest) ← time? r
      match offset? rest with
      | some (offset, rest) => return (List.flatten ["T", time, offset], rest)
      | none => return ('T' :: time, rest)
    else none

/-- A date, a time, or both. -/
def stamp? (t : Text) : Option (Text × Text) :=
  match date? t with
  | some (date, rest) =>
    match clock? rest with
    | some (clock, rest) => some (date ++ clock, rest)
    | none => some (date, rest)
  | none => time? t

end LuaReference.Settings
