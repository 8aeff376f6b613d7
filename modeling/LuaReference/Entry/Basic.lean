import LuaReference.Entry.Keyword
import LuaReference.Text.Case

/-!
# Entries

* `Parameter`, `Example`, `Realm` : the parts of an entry;
* `Entry` : what one block says about the thing that it documents;
* `Entry.text`, `Entry.setText` : the fields of free text by their name;
* `Entry.isComplete` : an entry without a purpose is not shown.
-/

namespace LuaReference

open Text

/-- A parameter, with its type as it was written. -/
structure Parameter where
  name : Text
  type : Text
  description : Text
  deriving DecidableEq, Repr

/-- A parameter out of untrimmed parts. -/
def Parameter.ofParts (name type description : Text) : Parameter :=
  ⟨trim name, trim type, trim description⟩

/-- An example: its label in lower case, and its lines of code. -/
structure Example where
  label : Text
  code : List Text
  deriving DecidableEq, Repr

/-- Where a function runs. -/
inductive Realm where
  | server
  | client
  | shared
  deriving DecidableEq, Repr

/-- The realm that a text names; any text but `server` and `client` stands for both. -/
def Realm.ofText (t : Text) : Realm :=
  let name := lower (trim t)
  if name = "server" then .server else if name = "client" then .client else .shared

/-- The name of a realm. -/
def Realm.name : Realm → Text
  | .server => "server"
  | .client => "client"
  | .shared => "shared"

/-- What one block says about the thing that it documents; a field that was not given is empty. -/
structure Entry where
  purpose : Text := []
  whenCalled : Text := []
  whenUsed : Text := []
  parameters : List Parameter := []
  returns : Text := []
  realm : Text := []
  explanation : Text := []
  examples : List Example := []
  deriving DecidableEq, Repr

namespace Entry

/-- A field of free text. -/
def text (e : Entry) : TextField → Text
  | .purpose => e.purpose
  | .whenCalled => e.whenCalled
  | .whenUsed => e.whenUsed
  | .returns => e.returns
  | .realm => e.realm
  | .explanation => e.explanation

/-- Replaces a field of free text. -/
def setText (e : Entry) (field : TextField) (value : Text) : Entry :=
  match field with
  | .purpose => { e with purpose := value }
  | .whenCalled => { e with whenCalled := value }
  | .whenUsed => { e with whenUsed := value }
  | .returns => { e with returns := value }
  | .realm => { e with realm := value }
  | .explanation => { e with explanation := value }

/-- Whether an entry has a purpose; one without is not shown. -/
def isComplete (e : Entry) : Bool := !e.purpose.isEmpty

/-- When the thing is called, or else when it is used. -/
def when? (e : Entry) : Option Text :=
  if !e.whenCalled.isEmpty then some e.whenCalled
  else if !e.whenUsed.isEmpty then some e.whenUsed
  else none

/-- Where the thing runs. -/
def realmClass (e : Entry) : Realm := .ofText e.realm

end Entry

end LuaReference
