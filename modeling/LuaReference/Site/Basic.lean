import LuaReference.Site.Declaration

/-!
# Documented sites

* `Site` : a name in the source with the block that documents it;
* `greatestLine?` : the block on the greatest line;
* `nearestDoc?` : the documenting block on the greatest line before a given one;
* `locate` : the documented declarations, all or those under a namespace.
-/

namespace LuaReference

open Text

/-- A name in the source and the block that documents it. -/
structure Site where
  name : Text
  line : Nat
  doc : Comment.Block
  deriving DecidableEq, Repr

namespace Site

/-- Of two blocks the one on the greater line, the second where they share one. -/
def laterOf (a b : Comment.Block) : Comment.Block := if b.line < a.line then a else b

/-- The block on the greatest line, the last of those that share it. -/
def greatestLine? : List Comment.Block → Option Comment.Block
  | [] => none
  | b :: rest => some (rest.foldl laterOf b)

/-- The documenting block on the greatest line before this one, the last of those that share it. -/
def nearestDoc? (blocks : List Comment.Block) (line : Nat) : Option Comment.Block :=
  greatestLine? ((Comment.entries blocks).filter (·.line < line))

/-- The site of a declaration that a block documents. -/
def ofDeclaration? (blocks : List Comment.Block) (d : Declaration) : Option Site :=
  (nearestDoc? blocks d.line).map fun doc => ⟨d.name, d.line, doc⟩

/-- The documented declarations in order; with a namespace, those whose name starts with it. -/
def locate (source : Text) (blocks : List Comment.Block) (scope? : Option Text) : List Site :=
  ((declarations source blocks).filter fun d =>
    (scope?.map fun ns => startsWith ns d.name).getD true).filterMap (ofDeclaration? blocks)

end Site

end LuaReference
