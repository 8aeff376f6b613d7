import LuaReference.Text.Basic

/-!
# Quoted texts of a settings file

* `basic`, `literal` : a text on one line, in double quotes with escapes or in single quotes as it
  stands;
* `basicBlock`, `literalBlock` : the same between three quotes, over several lines;
* `quoted?` : any of the four, at the start of a text, with what follows it.

All of them read the text after the opening quotes.
-/

namespace LuaReference.Settings

open Text

/-! ## Characters -/

/-- A character that may stand on a line: a tab or any character that is no control character. -/
def isPrintable (c : Char) : Bool :=
  c == '\t' || (0x20 ≤ c.toNat && c.toNat ≤ 0x7E) || 0x80 ≤ c.toNat

/-- A space or a tab. -/
def isSpace (c : Char) : Bool := c == ' ' || c == '\t'

/-- What follows the line end at the start of a text. -/
def lineEnd? : Text → Option Text
  | '\n' :: r => some r
  | '\r' :: '\n' :: r => some r
  | _ => none

/-- The value of a hexadecimal digit. -/
def hexDigit? (c : Char) : Option Nat :=
  if '0' ≤ c && c ≤ '9' then some (c.toNat - 0x30)
  else if 'a' ≤ c && c ≤ 'f' then some (c.toNat - 0x61 + 10)
  else if 'A' ≤ c && c ≤ 'F' then some (c.toNat - 0x41 + 10)
  else none

/-- The character with a code given in hexadecimal. -/
def hexChar? (digits : Text) : Option Char := do
  let code ← digits.foldlM (fun n c => return 16 * n + (← hexDigit? c)) 0
  if Nat.isValidChar code then return Char.ofNat code else none

/-- The character that an escape of one letter stands for. -/
def escaped? : Char → Option Char
  | 'b' => some '\x08'
  | 't' => some '\t'
  | 'n' => some '\n'
  | 'f' => some '\x0c'
  | 'r' => some '\r'
  | '"' => some '"'
  | '\\' => some '\\'
  | _ => none

/-- Puts a character in front of a text that was read. -/
def prepend (c : Char) (read : Option (Text × Text)) : Option (Text × Text) :=
  read.map fun (t, rest) => (c :: t, rest)

/-! ## On one line -/

/-- A text up to a double quote, with escapes. -/
def basic : Text → Option (Text × Text)
  | [] => none
  | '"' :: r => some ([], r)
  | '\\' :: 'u' :: a :: b :: c :: d :: r =>
    (hexChar? [a, b, c, d]).bind fun x => prepend x (basic r)
  | '\\' :: 'U' :: a :: b :: c :: d :: e :: f :: g :: h :: r =>
    (hexChar? [a, b, c, d, e, f, g, h]).bind fun x => prepend x (basic r)
  | '\\' :: e :: r => (escaped? e).bind fun x => prepend x (basic r)
  | c :: r => if c != '\\' && isPrintable c then prepend c (basic r) else none

/-- A text up to a single quote, as it stands. -/
def literal : Text → Option (Text × Text)
  | [] => none
  | '\'' :: r => some ([], r)
  | c :: r => if isPrintable c then prepend c (literal r) else none

/-! ## Over several lines -/

/-- The end of a block at the start of a text: three quotes, before which two more belong to the
block. -/
def blockEnd? (quote : Char) (t : Text) : Option (Text × Text) :=
  let run := (t.takeWhile (· == quote)).length
  if run < 3 then none
  else some (List.replicate (min (run - 3) 2) quote, t.drop (min run 5))

/-- Whether a line ends here, spaces aside. -/
def endsLine (t : Text) : Bool := (lineEnd? (t.dropWhile isSpace)).isSome

/-- A block up to three double quotes, with escapes. A backslash at the end of a line removes the
line end and the blanks and line ends after it; `trimming` says that this is going on. -/
def basicBlock : (trimming : Bool) → Text → Option (Text × Text)
  | _, [] => none
  | true, ' ' :: r => basicBlock true r
  | true, '\t' :: r => basicBlock true r
  | true, '\n' :: r => basicBlock true r
  | true, '\r' :: '\n' :: r => basicBlock true r
  | _, '"' :: r =>
    match blockEnd? '"' ('"' :: r) with
    | some found => some found
    | none => prepend '"' (basicBlock false r)
  | _, '\r' :: '\n' :: r => prepend '\n' (basicBlock false r)
  | _, '\n' :: r => prepend '\n' (basicBlock false r)
  | _, '\\' :: 'u' :: a :: b :: c :: d :: r =>
    (hexChar? [a, b, c, d]).bind fun x => prepend x (basicBlock false r)
  | _, '\\' :: 'U' :: a :: b :: c :: d :: e :: f :: g :: h :: r =>
    (hexChar? [a, b, c, d, e, f, g, h]).bind fun x => prepend x (basicBlock false r)
  | _, '\\' :: e :: r =>
    match escaped? e with
    | some x => prepend x (basicBlock false r)
    | none => if endsLine (e :: r) then basicBlock true (e :: r) else none
  | _, c :: r => if c != '\\' && isPrintable c then prepend c (basicBlock false r) else none

/-- A block up to three single quotes, as it stands. -/
def literalBlock : Text → Option (Text × Text)
  | [] => none
  | '\'' :: r =>
    match blockEnd? '\'' ('\'' :: r) with
    | some found => some found
    | none => prepend '\'' (literalBlock r)
  | '\r' :: '\n' :: r => prepend '\n' (literalBlock r)
  | '\n' :: r => prepend '\n' (literalBlock r)
  | c :: r => if isPrintable c then prepend c (literalBlock r) else none

/-- A line end right after the opening quotes of a block does not belong to it. -/
def dropLineEnd (t : Text) : Text := (lineEnd? t).getD t

/-- A quoted text at the start of a text, with what follows it. -/
def quoted? (t : Text) : Option (Text × Text) :=
  match after? "\"\"\"" t with
  | some r => basicBlock false (dropLineEnd r)
  | none =>
    match after? "\"" t with
    | some r => basic r
    | none =>
      match after? "'''" t with
      | some r => literalBlock (dropLineEnd r)
      | none => (after? "'" t).bind literal

end LuaReference.Settings
