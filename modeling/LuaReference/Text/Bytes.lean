import LuaReference.Text.Blank

/-!
# Texts as bytes

* `Bytes` : the content of a file;
* `Text.encode`, `Text.decode?` : UTF-8, where only well-formed bytes are read.
-/

namespace LuaReference

/-- The content of a file. -/
abbrev Bytes := List UInt8

/-- The UTF-8 form of a text. -/
def Text.encode (t : Text) : Bytes := t.flatMap String.utf8EncodeChar

/-- The text that well-formed UTF-8 bytes stand for. -/
def Text.decode? (bytes : Bytes) : Option Text := bytes.toByteArray.utf8Decode?.map Array.toList

end LuaReference
