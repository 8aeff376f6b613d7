import LuaReference.Text.Basic
import LuaReference.Text.Case

/-!
# Links of types

* `key` : type names are compared trimmed and in lower case;
* `baseTypes`, `engineTypes` : the types of the language and of the engine, with their pages;
* `Links`, `Links.standard`, `Links.extend` : the pages of engine types and of configured ones;
* `Links.link` : the page of a type.
-/

namespace LuaReference.Types

open Text

/-- The form in which type names are compared. -/
def key (name : Text) : Text := lower (trim name)

/-- A section of the language's manual. -/
def manual (anchor : Text) : Text := "https://www.lua.org/manual/5.1/manual.html#" ++ anchor

/-- The page for types that are not known. -/
def fallback : Text := manual "2.2"

/-- The types of the language and their sections of the manual. -/
def baseTypes : List (Text × Text) :=
  [("string", manual "5.4"),
   ("number", manual "5.3"),
   ("boolean", manual "5.2"),
   ("table", manual "5.5"),
   ("function", manual "5.6"),
   ("nil", manual "5.1"),
   ("thread", manual "5.7"),
   ("userdata", manual "5.8"),
   ("any", manual "2.2"),
   ("vararg", manual "5.2.4")]

/-- The classes of the engine. -/
def engineTypes : List Text :=
  List.map String.toList
    ["Player", "Entity", "Vector", "Angle", "Color", "Panel", "IMaterial", "ITexture", "ISound",
     "ConVar", "CUserCmd", "CMoveData", "CTakeDamageInfo", "CEffectData", "CLuaEmitter",
     "CLuaEffect", "CLuaParticle", "PhysObj", "VMatrix", "IGModAudioChannel", "File", "HTTPRequest",
     "Material", "Texture", "Sound", "Weapon", "Vehicle", "NPC", "NextBot", "PathFollower",
     "CLuaLocomotion", "CSEnt", "CSoundPatch", "SurfaceInfo", "TraceResult", "Trace"]

/-- The pages of types by their keys; the first page of a key counts. -/
structure Links where
  pages : List (Text × Text)

namespace Links

/-- The pages of the engine's classes. -/
def standard : Links :=
  ⟨engineTypes.map fun name => (key name, "https://wiki.facepunch.com/gmod/".toList ++ name)⟩

/-- Adds a page, which counts before all pages given so far. -/
def add (links : Links) (name page : Text) : Links := ⟨(key name, page) :: links.pages⟩

/-- Adds pages; of two for one key the later counts. -/
def extend (links : Links) (types : List (Text × Text)) : Links :=
  types.foldl (fun links (name, page) => links.add name page) links

/-- The page of a type: a page of its key, the manual's section for a type of the language, or the
general one. -/
def link (links : Links) (name : Text) : Text :=
  ((links.pages.lookup (key name)) <|> (baseTypes.lookup (key name))).getD fallback

end Links

end LuaReference.Types
