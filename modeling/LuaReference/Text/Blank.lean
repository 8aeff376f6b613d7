/-!
# Blank characters

* `Text` : text as the list of its characters, as which a string literal can be written;
* `Text.isBlank` : the 25 characters with the Unicode property White_Space.
-/

namespace LuaReference

/-- Text, as the list of its characters. Every rule of this library is stated by recursion on it. -/
abbrev Text := List Char

instance : Coe String Text where
  coe := String.toList

namespace Text

/-- Whether a character is blank: the property White_Space. -/
def isBlank (c : Char) : Bool :=
  let n := c.toNat
  (0x09 ≤ n && n ≤ 0x0D) || n == 0x20 || n == 0x85 || n == 0xA0 || n == 0x1680 ||
    (0x2000 ≤ n && n ≤ 0x200A) || n == 0x2028 || n == 0x2029 || n == 0x202F || n == 0x205F ||
    n == 0x3000

end Text

end LuaReference
