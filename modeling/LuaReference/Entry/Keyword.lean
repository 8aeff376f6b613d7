import LuaReference.Text.Basic

/-!
# Section keywords

* `TextField` : the six fields of an entry that hold free text;
* `Section` : what a keyword opens: such a field, the parameters or the examples;
* `keywords` : the keywords in the order in which they are tried;
* `keyword?` : the section that a line opens, with the rest of the line;
* `sectionWords` : the words that mark a block as documentation;
* `mentionsKeyword` : whether such a word stands anywhere in a text.
-/

namespace LuaReference.Entry

open Text

/-- A field of free text. -/
inductive TextField where
  | purpose
  | whenCalled
  | whenUsed
  | returns
  | realm
  | explanation
  deriving DecidableEq, Repr

/-- A section of an entry. -/
inductive Section where
  | text (field : TextField)
  | parameters
  | examples
  deriving DecidableEq, Repr

/-- The section keywords, in the order in which they are tried. -/
def keywords : List (Text × Section) :=
  [("Purpose:", .text .purpose),
   ("When Called:", .text .whenCalled),
   ("When Used:", .text .whenUsed),
   ("Parameters:", .parameters),
   ("Returns:", .text .returns),
   ("Realm:", .text .realm),
   ("Explanation of Panel:", .text .explanation),
   ("Example Usage:", .examples),
   ("Example Item:", .examples),
   ("Example Class:", .examples),
   ("Example Faction:", .examples)]

/-- The section that a line opens, and what follows its keyword, trimmed. -/
def keyword? (line : Text) : Option (Section × Text) :=
  keywords.findSome? fun (word, sect) => (after? word line).map fun rest => (sect, trim rest)

/-- The words that mark a block as documentation. -/
def sectionWords : List Text :=
  ["Purpose:",
   "When Called:",
   "When Used:",
   "Parameters:",
   "Returns:",
   "Realm:",
   "Explanation of Panel:",
   "Example Usage:",
   "Example Item:",
   "Example Class:",
   "Example Faction:"]

/-- Whether a word that marks a block as documentation stands anywhere in a text. -/
def mentionsKeyword (t : Text) : Bool := sectionWords.any fun word => occurs word t

/-- The keywords that open a sample definition instead of documenting something. -/
def sampleKeywords : List Text := ["Example Item:", "Example Class:", "Example Faction:"]

/-- Whether a text holds a sample definition. -/
def mentionsSample (t : Text) : Bool := sampleKeywords.any fun word => occurs word t

/-- Whether a text says what a panel is for: its purpose, its explanation or when it is used. -/
def mentionsPanel (t : Text) : Bool :=
  (["Purpose:", "Explanation of Panel:", "When Used:"] : List Text).any fun word => occurs word t

end LuaReference.Entry
