import LuaReference.Proofs.Entry.Merge
import LuaReference.Proofs.Text.Pieces

/-!
# Printed entries

* `Parameter.line`, `Example.lines`, `Entry.printLines`, `Entry.print` : an entry as a block;
* `CanonicalText`, `Parameter.Canonical`, `Example.Canonical`, `Entry.Canonical` : the entries that
  the block can hold;
* `Intact`, `lines_unlines` : lines that are read back as they were written;
* `lines_body_print` : the lines of a printed block are those that were printed.
-/

namespace LuaReference

open Text

/-! ## Printing -/

/-- Lines one below the other, with a newline after each. -/
def unlines (ls : List Text) : Text := ls.flatMap fun line => line ++ "\n"

/-- A parameter with its bullet. -/
def Parameter.written (p : Parameter) : Text :=
  "- " ++ p.name ++ " (" ++ p.type ++ "): " ++ p.description

/-- A parameter on a line of its own. -/
def Parameter.line (p : Parameter) : Text := "    " ++ p.written

/-- The lines of an example: its label, and its code between fences. -/
def Example.lines (ex : Example) : List Text :=
  (ex.label ++ " Complexity:") :: ("```lua" : Text) :: (ex.code ++ [("```" : Text)])

namespace Entry

/-- The keyword of a field of free text. -/
def TextField.word : TextField → Text
  | .purpose => "Purpose:"
  | .whenCalled => "When Called:"
  | .whenUsed => "When Used:"
  | .returns => "Returns:"
  | .realm => "Realm:"
  | .explanation => "Explanation of Panel:"

/-- The fields of free text, in the order in which they are printed. -/
def textFields : List TextField := [.purpose, .whenCalled, .whenUsed, .returns, .realm, .explanation]

/-- The lines of a field: its keyword and its first line, and its further lines below. -/
def textLines (field : TextField) (value : Text) : List Text :=
  if value.isEmpty then []
  else
    match splitOn '\n' value with
    | [] => []
    | first :: rest => (field.word ++ " " ++ first) :: rest

/-- The lines of an entry between the markers of its block. -/
def printLines (e : Entry) : List Text :=
  textFields.flatMap (fun field => textLines field (e.text field)) ++
    ("Parameters:" : Text) :: e.parameters.map Parameter.line ++
    ("Example Usage:" : Text) :: e.examples.flatMap Example.lines

/-- An entry as a block. -/
def print (e : Entry) : Text := Comment.opening ++ "\n" ++ unlines e.printLines ++ Comment.closing

/-! ## What can be printed -/

/-- Free text is empty, or made of lines without blanks at their ends; only the first of them may
look like a keyword or a marker of the comment. -/
def CanonicalText (value : Text) : Prop :=
  value = [] ∨
    ((∀ line ∈ splitOn '\n' value, line ≠ [] ∧ trim line = line) ∧
      ∀ line ∈ (splitOn '\n' value).tail, ¬ OpensSection line ∧ Reader.isDelimiter line = false)

instance (value : Text) : Decidable (CanonicalText value) := inferInstanceAs (Decidable (_ ∨ _))

end Entry

/-- A text on one line, without blanks at its ends. -/
structure OneLine (t : Text) : Prop where
  ne_nil : t ≠ []
  trimmed : trim t = t
  single : '\n' ∉ t

instance (t : Text) : Decidable (OneLine t) :=
  decidable_of_iff (t ≠ [] ∧ trim t = t ∧ '\n' ∉ t)
    ⟨fun ⟨hne, htrim, hsingle⟩ => ⟨hne, htrim, hsingle⟩, fun ⟨hne, htrim, hsingle⟩ => ⟨hne, htrim, hsingle⟩⟩

/-- Whether a text is the name of a variable, or three dots. -/
def Parameter.isName : Text → Bool
  | [] => false
  | c :: rest => (isIdentStart c && rest.all isWord) || c :: rest == "..."

/-- The type of a parameter holds no parenthesis that closes it. -/
structure Parameter.Canonical (p : Parameter) : Prop where
  name : isName p.name = true
  type : OneLine p.type
  type_closed : ')' ∉ p.type
  description : OneLine p.description

instance (p : Parameter) : Decidable p.Canonical :=
  decidable_of_iff
    (Parameter.isName p.name = true ∧ OneLine p.type ∧ ')' ∉ p.type ∧ OneLine p.description)
    ⟨fun ⟨h₁, h₂, h₃, h₄⟩ => ⟨h₁, h₂, h₃, h₄⟩, fun ⟨h₁, h₂, h₃, h₄⟩ => ⟨h₁, h₂, h₃, h₄⟩⟩

/-- A line of code ends without blanks, and is not read as anything else than code. -/
structure Example.CodeLine (line : Text) : Prop where
  single : '\n' ∉ line
  trimmed : trimEnd line = line
  not_fence : Entry.Reader.isFence (trim line) = false
  not_delimiter : Entry.Reader.isDelimiter (trim line) = false
  not_section : ¬ Entry.OpensSection line
  not_level : Example.level? (trim line) = none

instance (line : Text) : Decidable (Example.CodeLine line) :=
  decidable_of_iff ('\n' ∉ line ∧ trimEnd line = line ∧ Entry.Reader.isFence (trim line) = false ∧
      Entry.Reader.isDelimiter (trim line) = false ∧ ¬ Entry.OpensSection line ∧
      Example.level? (trim line) = none)
    ⟨fun ⟨h₁, h₂, h₃, h₄, h₅, h₆⟩ => ⟨h₁, h₂, h₃, h₄, h₅, h₆⟩,
      fun ⟨h₁, h₂, h₃, h₄, h₅, h₆⟩ => ⟨h₁, h₂, h₃, h₄, h₅, h₆⟩⟩

/-- An example has one word in lower case as its label. -/
structure Example.Canonical (ex : Example) : Prop where
  label_ne : ex.label ≠ []
  label_word : ex.label.all isWord = true
  label_lower : lower ex.label = ex.label
  code : ∀ line ∈ ex.code, CodeLine line

instance (ex : Example) : Decidable ex.Canonical :=
  decidable_of_iff (ex.label ≠ [] ∧ ex.label.all isWord = true ∧ lower ex.label = ex.label ∧
      ∀ line ∈ ex.code, Example.CodeLine line)
    ⟨fun ⟨h₁, h₂, h₃, h₄⟩ => ⟨h₁, h₂, h₃, h₄⟩, fun ⟨h₁, h₂, h₃, h₄⟩ => ⟨h₁, h₂, h₃, h₄⟩⟩

/-- The entries that a block can hold. -/
structure Entry.Canonical (e : Entry) : Prop where
  text : ∀ field, CanonicalText (e.text field)
  parameters : ∀ p ∈ e.parameters, p.Canonical
  examples : ∀ ex ∈ e.examples, ex.Canonical

/-! ## The lines of a printed block -/

/-- A line that is read back as it was printed. -/
def Intact (line : Text) : Prop := '\n' ∉ line ∧ trimEnd line = line

theorem Intact.append {front line : Text} (hfront : '\n' ∉ front) (hne : line ≠ []) (h : Intact line) :
    Intact (front ++ line) :=
  ⟨by simp [hfront, h.1], trimEnd_append hne h.2⟩

theorem Intact.dropEnd {line : Text} (h : Intact line) : dropEnd ['\r'] line = line := by
  refine dropEnd_of_getLast? fun hlast => ?_
  have hblank := trimEnd_eq_self_iff.1 h.2 _ hlast
  exact absurd hblank (by decide)

/-- Lines written one below the other are read back. -/
theorem lines_unlines {ls : List Text} (h : ∀ line ∈ ls, Intact line) : lines (unlines ls) = ls := by
  unfold lines unlines
  induction ls with
  | nil => rfl
  | cons line ls ih =>
    rw [List.forall_mem_cons] at h
    have hsplit : splitOn '\n' ((line :: ls).flatMap fun line => line ++ "\n") =
        line :: splitOn '\n' (ls.flatMap fun line => line ++ "\n") := by
      rw [List.flatMap_cons, List.append_assoc]
      exact splitOn_append_mark _ h.1.1
    obtain ⟨next, rest, hrest⟩ := List.exists_cons_of_ne_nil
      (splitOn_ne_nil '\n' (ls.flatMap fun line => line ++ "\n"))
    rw [hsplit, hrest, linesOfPieces, ← hrest, ih h.2, h.1.dropEnd]

theorem OneLine.intact {t : Text} (h : OneLine t) : Intact t :=
  ⟨h.single, (trim_eq_self_iff.1 h.trimmed).2⟩

theorem not_mem_of_solid {t : Text} (h : ∀ c ∈ t, isBlank c = false) : '\n' ∉ t := fun hmem =>
  absurd (h _ hmem) (by decide)

theorem Parameter.isName_cases {name : Text} (h : isName name = true) :
    name = "..." ∨ ∃ c rest, name = c :: rest ∧ isIdentStart c = true ∧ ∀ d ∈ rest, isWord d = true := by
  cases name with
  | nil => cases h
  | cons c rest =>
    simp only [isName, Bool.or_eq_true, Bool.and_eq_true, beq_iff_eq, List.all_eq_true] at h
    exact h.symm.imp_right fun hword => ⟨c, rest, rfl, hword⟩

theorem Parameter.Canonical.name_solid {p : Parameter} (h : p.Canonical) :
    ∀ c ∈ p.name, isBlank c = false := by
  rcases isName_cases h.name with hdots | ⟨c, rest, hname, hc, hrest⟩
  · intro c hc
    obtain rfl : c = '.' := by simpa [hdots] using hc
    decide
  · rw [hname, List.forall_mem_cons]
    exact ⟨isBlank_of_isIdentStart hc, fun d hd => isBlank_of_isWord (hrest d hd)⟩

theorem Parameter.Canonical.intact {p : Parameter} (h : p.Canonical) : Intact p.line := by
  have hname : '\n' ∉ p.name := not_mem_of_solid h.name_solid
  have htype := h.type.single
  unfold Parameter.line Parameter.written
  rw [← List.append_assoc]
  exact Intact.append (by simp [hname, htype]) h.description.ne_nil h.description.intact

theorem Example.Canonical.label_solid {ex : Example} (h : ex.Canonical) :
    ∀ c ∈ ex.label, isBlank c = false :=
  fun c hc => isBlank_of_isWord (List.all_eq_true.1 h.label_word c hc)

theorem Example.Canonical.intact {ex : Example} (h : ex.Canonical) : ∀ line ∈ ex.lines, Intact line := by
  intro line hline
  rw [Example.lines, List.mem_cons, List.mem_cons, List.mem_append, List.mem_singleton] at hline
  rcases hline with rfl | rfl | hcode | rfl
  · exact Intact.append (not_mem_of_solid h.label_solid) (by decide) ⟨by decide, by decide⟩
  · exact ⟨by decide, by decide⟩
  · exact ⟨(h.code line hcode).single, (h.code line hcode).trimmed⟩
  · exact ⟨by decide, by decide⟩

namespace Entry

theorem intact_textLines {field : TextField} {value : Text} (h : CanonicalText value) :
    ∀ line ∈ textLines field value, Intact line := by
  intro line hline
  unfold textLines at hline
  split at hline
  · cases hline
  · rename_i hne
    obtain ⟨hlines, -⟩ := h.resolve_left (by simpa using hne)
    have hone : ∀ line ∈ splitOn '\n' value, OneLine line := fun line hmem =>
      ⟨(hlines line hmem).1, (hlines line hmem).2, not_mem_of_mem_splitOn line hmem⟩
    split at hline
    · cases hline
    · rename_i first rest hsplit
      rw [hsplit, List.forall_mem_cons] at hone
      rcases List.mem_cons.1 hline with rfl | hrest
      · refine Intact.append ?_ hone.1.ne_nil hone.1.intact
        cases field <;> decide
      · exact (hone.2 line hrest).intact

theorem intact_printLines {e : Entry} (h : e.Canonical) : ∀ line ∈ e.printLines, Intact line := by
  intro line hline
  simp only [printLines, List.mem_append, List.mem_cons, List.mem_flatMap, List.mem_map] at hline
  rcases hline with (⟨field, -, hline⟩ | rfl | ⟨p, hp, rfl⟩) | rfl | ⟨ex, hex, hline⟩
  · exact intact_textLines (h.text field) line hline
  · exact ⟨by decide, by decide⟩
  · exact (h.parameters p hp).intact
  · exact ⟨by decide, by decide⟩
  · exact (h.examples ex hex).intact line hline

/-- The first line of a printed block is what stands after its opening marker, which is nothing. -/
theorem lines_body_print {e : Entry} (h : e.Canonical) :
    Text.lines (Comment.body e.print) = [] :: e.printLines := by
  have hbody : Comment.body e.print = unlines ([] :: e.printLines) := by
    unfold Comment.body print
    rw [List.append_assoc, List.append_assoc, dropStart_append, ← List.append_assoc, dropEnd_append]
    rfl
  rw [hbody, lines_unlines]
  rw [List.forall_mem_cons]
  exact ⟨⟨by decide, by decide⟩, intact_printLines h⟩

end Entry

end LuaReference
