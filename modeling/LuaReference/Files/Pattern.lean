import LuaReference.Files.Disk

/-!
# File name patterns

* `Token` : what a part of a name is matched with: `*`, `?`, a set in brackets, or itself;
* `Piece` : the pattern of one component; `**` stands for any number of directories;
* `Piece.matches` : whether a name fits;
* `Pattern`, `Pattern.ofText?` : a pattern, where it is well-formed;
* `Pattern.paths`, `Pattern.search` : the paths on a disk that fit it.
-/

namespace LuaReference

open Text

/-- A part of the pattern of a name. -/
inductive Token where
  | char (c : Char)
  | anyChar
  | anyText
  /-- A character in one of the ranges, or in none of them. -/
  | oneOf (negated : Bool) (ranges : List (Char × Char))
  deriving DecidableEq, Repr

/-- The pattern of one component of a path. -/
inductive Piece where
  | literal (name : Text)
  | tokens (ts : List Token)
  /-- Any number of directories. -/
  | anyDepth
  deriving DecidableEq, Repr

/-- A pattern of paths. -/
structure Pattern where
  absolute : Bool
  pieces : List Piece
  /-- Whether it ends in a slash and so fits directories only. -/
  directoriesOnly : Bool

namespace Pattern

/-! ## Reading -/

/-- The ranges that stand in brackets: a dash between two characters makes a range. -/
def ranges : Text → List (Char × Char)
  | [] => []
  | a :: '-' :: b :: r => (a, b) :: ranges r
  | a :: r => (a, a) :: ranges r

/-- The set after an opening bracket, which holds at least one character, and what follows it. -/
def brackets? (t : Text) : Option (Token × Text) :=
  let (negated, inner) := match t with
    | '!' :: r => (true, r)
    | r => (false, r)
  match inner with
  | [] => none
  | first :: r => (cut? "]" r).map fun (set, rest) => (.oneOf negated (ranges (first :: set)), rest)

/-- The tokens of a component that has at most `fuel` of them. Two stars in a row and a bracket
that is not closed are no pattern. -/
def tokens? : (fuel : Nat) → Text → Option (List Token)
  | _, [] => some []
  | 0, _ :: _ => none
  | _ + 1, '*' :: '*' :: _ => none
  | fuel + 1, '*' :: r => (tokens? fuel r).map (.anyText :: ·)
  | fuel + 1, '?' :: r => (tokens? fuel r).map (.anyChar :: ·)
  | fuel + 1, '[' :: r => do
    let (set, r) ← brackets? r
    let more ← tokens? fuel r
    return set :: more
  | fuel + 1, c :: r => (tokens? fuel r).map (.char c :: ·)

/-- The character that a token stands for alone. -/
def plainChar? : Token → Option Char
  | .char c => some c
  | _ => none

/-- The pattern of one component. -/
def piece? (t : Text) : Option Piece :=
  if t = "**" then some .anyDepth
  else
    (tokens? t.length t).map fun ts =>
      match ts.mapM plainChar? with
      | some name => .literal name
      | none => .tokens ts

/-- Drops the last of some pieces where it is empty. -/
def dropLastEmpty (pieces : List Text) : List Text :=
  if pieces.getLast? = some [] && pieces.length > 1 then pieces.dropLast else pieces

/-- The pattern that a text stands for. -/
def ofText? (t : Text) : Option Pattern :=
  let absolute := startsWith "/" t
  (dropLastEmpty (splitOn '/' (if absolute then t.dropWhile (· == '/') else t))).mapM piece? |>.map
    fun pieces => ⟨absolute, pieces, t.getLast? == some '/'⟩

end Pattern

/-! ## Matching -/

/-- Whether a token can stand for a character. -/
def Token.admits : Token → Char → Bool
  | .char x, c => x == c
  | .anyChar, _ => true
  | .anyText, _ => true
  | .oneOf negated ranges, c => ranges.any (fun (low, high) => low ≤ c && c ≤ high) != negated

/-- A text and what is left of it after each of its characters, the longest first. -/
def Token.suffixes : Text → List Text
  | [] => [[]]
  | c :: r => (c :: r) :: suffixes r

/-- What is left of a text after one character that a token can stand for. -/
def Token.rest? (t : Token) : Text → Option Text
  | [] => none
  | c :: r => if t.admits c then some r else none

/-- What can be left of a name after one more token, given what could be left before it. The
suffixes of a name are given with the longest first, and any text can end where a suffix of that
one starts. -/
def Token.leave (rests : List Text) : Token → List Text
  | .anyText => (rests.head?.map suffixes).getD []
  | t => rests.filterMap t.rest?

/-- Whether a name fits a list of tokens: nothing can be left of it after the last one. -/
def Token.fit (ts : List Token) (name : Text) : Bool :=
  (ts.foldl Token.leave [name]).any List.isEmpty

/-- Whether a name fits the pattern of a component. -/
def Piece.matches : Piece → Text → Bool
  | .literal name, t => name == t
  | .tokens ts, t => Token.fit ts t
  | .anyDepth, _ => true

namespace Pattern

/-- The path of a name in a directory; in the working directory it is the name. -/
def child (dir : Path) (name : Text) : Path :=
  if dir.components == [.here] then ⟨name⟩ else dir.join name

/-- The names in a directory that fit some tokens, with their paths. The names of the directory
itself and of the one above it fit only tokens that start with a dot. -/
def listed (disk : Disk) (ts : List Token) (dir : Path) : List Path :=
  match disk.find dir with
  | .ok (.directory entries) =>
    ((entries.map (·.1)).filter (Token.fit ts)).map (child dir) ++
      (if ts.head? = some (.char '.') then
        ((([".", ".."] : List Text).filter (Token.fit ts)).map fun dots => dir.join dots)
      else [])
  | _ => []

/-- Everything below a directory: path, name, and whether it is a directory. -/
def below (disk : Disk) (dir : Path) : List (Path × Text × Bool) :=
  match disk.find dir with
  | .ok tree =>
    tree.nodes.map fun (loc, node) =>
      (loc.foldl child dir, loc.getLast?.getD [], match node with
        | .directory _ => true
        | .file _ => false)
  | .error _ => []

/-- The path of a name in a directory, where it leads somewhere. -/
def existing? (disk : Disk) (name : Text) (dir : Path) : Option Path :=
  let next := child dir name
  let found :=
    if name == "." || name == ".." then disk.isDirectory dir
    else match disk.find next with
      | .ok _ => true
      | .error _ => false
  if found then some next else none

/-- The directories below a directory. -/
def directoriesBelow (disk : Disk) (dir : Path) : List Path :=
  ((below disk dir).filter fun (_, _, isDir) => isDir).map (·.1)

/-- What is below a directory, at any depth, with a name that fits. -/
def fittingBelow (disk : Disk) (piece : Piece) (dir : Path) : List Path :=
  ((below disk dir).filter fun (_, name, _) => piece.matches name).map (·.1)

/-- The paths that fit some pieces, starting in one of the given directories. -/
def follow (disk : Disk) : List Piece → List Path → List Path
  | [], found => found
  | .literal name :: rest, dirs => follow disk rest (dirs.filterMap (existing? disk name)).eraseDups
  | .tokens ts :: rest, dirs => follow disk rest (dirs.flatMap (listed disk ts)).eraseDups
  | .anyDepth :: [], dirs => (dirs.flatMap (directoriesBelow disk)).eraseDups
  | .anyDepth :: .anyDepth :: rest, dirs => follow disk (.anyDepth :: rest) dirs
  | .anyDepth :: piece :: rest, dirs =>
    follow disk rest (dirs.flatMap (fittingBelow disk piece)).eraseDups

/-- The paths that fit a pattern. -/
def paths (pattern : Pattern) (disk : Disk) : List Path :=
  (follow disk pattern.pieces [⟨if pattern.absolute then "/" else "."⟩]).filter fun p =>
    !pattern.directoriesOnly || disk.isDirectory p

/-- The paths on a disk that fit the pattern a text stands for. -/
def search (disk : Disk) (t : Text) : Option (List Path) := (ofText? t).map (·.paths disk)

end Pattern

end LuaReference
