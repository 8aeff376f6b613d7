import LuaReference.Proofs.Entry.WellFormed
import LuaReference.Proofs.Text.Indent
import LuaReference.Proofs.Types.Returns
import LuaReference.Style.Fragment

/-!
# Code between fences

An entry in Markdown is put together from pieces, and the code of its examples stands between fences.
A reader that knows nothing but the two lines of a fence gets that code back.

* `fencedFrom`, `fenced` : the code between the fences of some lines, of a text;
* `Quiet` : pieces that open no fence;
* `fencedFrom_sample` : the pieces of an example give its code back;
* `fenced_fragment` : so does a whole entry, for every one of its examples.
-/

namespace LuaReference.Style.Markdown

open Text LuaReference.Types

/-! ## Reading fences -/

/-- The code between fences in some lines; `current` is the code of the fence that is open. -/
def fencedFrom : Option (List Text) → List Text → List (List Text)
  | _, [] => []
  | none, line :: rest => if line = fenceOpen then fencedFrom (some []) rest else fencedFrom none rest
  | some code, line :: rest =>
    if line = fenceClose then code :: fencedFrom none rest
    else fencedFrom (some (code ++ [line])) rest

/-- The code between the fences of a text. -/
def fenced (t : Text) : List (List Text) := fencedFrom none (lines t)

theorem fencedFrom_quiet {front : List Text} (h : fenceOpen ∉ front) (rest : List Text) :
    fencedFrom none (front ++ rest) = fencedFrom none rest := by
  induction front with
  | nil => rfl
  | cons line front ih =>
    rw [List.mem_cons, not_or] at h
    rw [List.cons_append, fencedFrom, if_neg (Ne.symm h.1), ih h.2]

theorem fencedFrom_code {body : List Text} (h : fenceClose ∉ body) (code rest : List Text) :
    fencedFrom (some code) (body ++ fenceClose :: rest) = (code ++ body) :: fencedFrom none rest := by
  induction body generalizing code with
  | nil => simp [fencedFrom]
  | cons line body ih =>
    rw [List.mem_cons, not_or] at h
    rw [List.cons_append, fencedFrom, if_neg (Ne.symm h.1), ih h.2, List.append_assoc,
      List.singleton_append]

/-! ## Pieces that open no fence -/

/-- A piece none of whose lines opens a fence. -/
def Quiet (piece : Text) : Prop := fenceOpen ∉ pieceLines piece

theorem fencedFrom_pieces {front : List Text} (h : ∀ piece ∈ front, Quiet piece) (rest : List Text) :
    fencedFrom none ((front ++ rest).flatMap pieceLines) =
      fencedFrom none (rest.flatMap pieceLines) := by
  rw [List.flatMap_append]
  apply fencedFrom_quiet
  intro hmem
  obtain ⟨piece, hpiece, hline⟩ := List.mem_flatMap.1 hmem
  exact h piece hpiece hline

theorem Quiet.newline {t : Text} (h : Quiet t) : Quiet (t ++ "\n") := by
  unfold Quiet
  rw [pieceLines_newline, List.mem_append, not_or]
  exact ⟨h, by decide⟩

theorem quiet_of_ne {t : Text} (hsingle : '\n' ∉ t) (hne : dropEnd ['\r'] t ≠ fenceOpen) : Quiet t := by
  unfold Quiet
  rw [pieceLines_of_single hsingle, List.mem_singleton]
  exact Ne.symm hne

theorem quiet_of_head {t : Text} {c : Char} (hsingle : '\n' ∉ t) (hhead : t.head? = some c)
    (hc : c ≠ '\x60') : Quiet t := by
  apply quiet_of_ne hsingle
  intro hopen
  obtain ⟨rest, hrest⟩ := isPrefix_dropEnd ['\r'] t
  rw [hopen] at hrest
  rw [← hrest] at hhead
  exact hc (Option.some.inj hhead).symm

/-- What stands on a line is on it without a carriage return at the end, but with its blanks. -/
theorem quiet_of_space {t : Text} (hsingle : '\n' ∉ t) (hspace : ' ' ∈ t) : Quiet t := by
  apply quiet_of_ne hsingle
  intro hopen
  rcases dropEnd_cases ['\r'] t with hsame | hcut
  · rw [← hsame, hopen] at hspace
    exact absurd hspace (by decide)
  · rw [← hcut, hopen] at hspace
    exact absurd hspace (by decide)

theorem linesOfPieces_oneLine {pieces : List Text} (h : ∀ piece ∈ pieces, OneLine piece) :
    linesOfPieces pieces = pieces := by
  induction pieces with
  | nil => rfl
  | cons piece pieces ih =>
    rw [List.forall_mem_cons] at h
    cases pieces with
    | nil => simp [linesOfPieces, h.1.ne_nil]
    | cons next rest => rw [linesOfPieces, ih h.2, h.1.intact.dropEnd]

section Clean
variable {t : Text} (h : Entry.CleanText t)
include h

theorem lines_of_clean (hne : t ≠ []) : lines t = splitOn '\n' t :=
  linesOfPieces_oneLine (h.resolve_left hne)

theorem oneLine_of_mem_lines : ∀ line ∈ lines t, OneLine line := by
  by_cases hne : t = []
  · subst hne
    intro line hline
    cases hline
  · rw [lines_of_clean h hne]
    exact h.resolve_left hne

theorem quiet_of_clean (hne : t ≠ []) (hopen : fenceOpen ∉ lines t) : Quiet t := by
  have hmap : (splitOn '\n' t).map (dropEnd ['\r']) = (splitOn '\n' t).map id := by
    apply List.map_congr_left
    intro piece hpiece
    exact ((h.resolve_left hne) piece hpiece).intact.dropEnd
  unfold Quiet pieceLines
  rwa [hmap, List.map_id, ← lines_of_clean h hne]

end Clean

theorem quiet_field (name : Text) {t : Text} (hname : '\n' ∉ name) (h : t ≠ [] → Quiet t) :
    ∀ piece ∈ field name t, Quiet piece := by
  intro piece hpiece
  unfold field at hpiece
  split at hpiece
  · cases hpiece
  · rename_i hne
    rw [List.mem_cons, List.mem_singleton] at hpiece
    rcases hpiece with rfl | rfl
    · have htitle : List.flatten ["**", name, "**\n"] = ("**" ++ name ++ "**") ++ ("\n" : Text) := by
        simp
      rw [htitle]
      exact (quiet_of_head (by simp [hname]) rfl (by decide)).newline
    · exact (h (by simpa using hne)).newline

/-! ## What is returned -/

/-- What is returned stands on one line. Without a type it is a line of the text or has a space, as it
is made of several lines. -/
structure SingleReturn (t : Text) (r : Returns) : Prop where
  type : ∀ type, r.type = some type → '\n' ∉ type
  description : '\n' ∉ r.description
  untyped : r.type = none → r.description = [] ∨ r.description ∈ lines t ∨ ' ' ∈ r.description

theorem singleReturn_ofText {t : Text} (h : ∀ line ∈ lines t, OneLine line) :
    SingleReturn t (Returns.ofText t) := by
  have hlines : ∀ line ∈ solidLines t, line ∈ lines t := by
    intro line hline
    obtain ⟨whole, hwhole, rfl⟩ := List.mem_map.1 (List.mem_filter.1 hline).1
    rwa [(h whole hwhole).trimmed]
  unfold Returns.ofText
  rw [← solidLines]
  split
  · exact ⟨by simp, by simp, by simp⟩
  · rename_i line hone
    rw [hone, List.forall_mem_singleton] at hlines
    have hline := not_newline_of_mem_lines hlines
    split
    · rename_i type description hdash
      obtain ⟨htype, hdescription⟩ := dashed?_subset hdash
      refine ⟨fun found hfound => ?_, fun hmem => hline (hdescription (trim_subset _ hmem)), by simp⟩
      obtain rfl := Option.some.inj hfound
      exact fun hmem => hline (htype (trim_subset _ hmem))
    · split
      · exact ⟨by simpa using hline, by simp, by simp⟩
      · exact ⟨by simp, hline, fun _ => Or.inr (Or.inl hlines)⟩
  · rename_i first rest hmany hall
    rw [hall] at hlines
    obtain ⟨second, more, rfl⟩ := List.exists_cons_of_ne_nil hmany
    have hjoin : ∀ ls ⊆ first :: second :: more, '\n' ∉ join " " ls := by
      intro ls hsub hmem
      rcases mem_of_mem_join hmem with hspace | ⟨line, hline, hc⟩
      · exact absurd hspace (by decide)
      · exact not_newline_of_mem_lines (hlines line (hsub hline)) hc
    split
    · refine ⟨?_, hjoin _ (List.subset_cons_self _ _), by simp⟩
      simpa using not_newline_of_mem_lines (hlines first (by simp))
    · refine ⟨by simp, hjoin _ (List.Subset.refl _), fun _ => Or.inr (Or.inr ?_)⟩
      rw [join_cons_cons]
      simp

theorem not_newline_display {type : Text} (h : '\n' ∉ type) : '\n' ∉ (ofReturn type).display := by
  intro hmem
  rcases mem_of_mem_join hmem with hbar | ⟨member, hmember, hc⟩
  · exact absurd hbar (by decide)
  · obtain ⟨piece, hpiece, rfl⟩ := List.mem_map.1 (List.mem_filter.1 hmember).1
    exact h (subset_of_mem_splitOn hpiece (trim_subset piece hc))

/-! ## The table of parameters -/

theorem not_newline_tableCell (t : Text) : '\n' ∉ tableCell t := by
  unfold tableCell replaceChar
  intro hmem
  obtain ⟨c, -, hc⟩ := List.mem_flatMap.1 hmem
  split at hc
  · exact absurd hc (by decide)
  · rename_i hne
    exact hne (by simpa using List.mem_singleton.1 hc |>.symm)

section Linked
variable {links : Links} (hlinks : ∀ type, '\n' ∉ links.link type)
include hlinks

theorem not_newline_typeLink {display : Text} (h : '\n' ∉ display) (type : Text) :
    '\n' ∉ typeLink links display type := by
  unfold typeLink
  simp [h, hlinks type]

theorem not_newline_row {p : Parameter} (hname : Parameter.NameText p.name) : '\n' ∉ row links p := by
  have hlink := not_newline_typeLink hlinks (not_newline_tableCell (ofParameter p.type).display)
    (ofParameter p.type).linkType
  have hsolid := not_mem_of_solid hname.solid
  have hdescription := not_newline_tableCell p.description
  unfold row
  cases hoptional : (ofParameter p.type).optional <;>
    simp [hlink, hsolid, hdescription, hoptional]

theorem quiet_row {p : Parameter} (hname : Parameter.NameText p.name) : Quiet (row links p) :=
  quiet_of_head (not_newline_row hlinks hname) rfl (by decide)

theorem quiet_parameters {ps : List Parameter} (h : ∀ p ∈ ps, Parameter.NameText p.name) :
    ∀ piece ∈ parameters links ps, Quiet piece := by
  have hhead : ∀ piece ∈ tableHead ++ [[]], fenceOpen ∉ pieceLines piece := by decide
  intro piece hpiece
  unfold parameters at hpiece
  split at hpiece
  · cases hpiece
  · rw [List.mem_append, List.mem_append] at hpiece
    rcases hpiece with (htop | hrow) | hend
    · exact hhead piece (List.mem_append_left _ htop)
    · obtain ⟨p, hp, rfl⟩ := List.mem_map.1 hrow
      exact quiet_row hlinks (h p hp)
    · exact hhead piece (List.mem_append_right _ hend)

theorem quiet_returned {t : Text} (h : ∀ line ∈ lines t, OneLine line) (hopen : fenceOpen ∉ lines t) :
    Quiet (returned links t) := by
  have hreturn := singleReturn_ofText h
  unfold returned
  dsimp only
  cases htype : (Returns.ofText t).type with
  | some type =>
    have hlink : '\n' ∉ typeLink links (ofReturn type).display (ofReturn type).linkType :=
      not_newline_typeLink hlinks (not_newline_display (hreturn.type type htype)) _
    dsimp only
    split
    · exact quiet_of_head hlink rfl (by decide)
    · exact quiet_of_head (by simp [hlink, hreturn.description]) rfl (by decide)
  | none =>
    dsimp only
    rcases hreturn.untyped htype with hnil | hline | hspace
    · rw [hnil]
      exact quiet_of_ne (by simp) (by decide)
    · apply quiet_of_ne hreturn.description
      rw [(h _ hline).intact.dropEnd]
      exact fun heq => hopen (heq ▸ hline)
    · exact quiet_of_space hreturn.description hspace

end Linked

/-! ## Examples -/

theorem not_newline_exampleLabel {label shown : Text} (h : '\n' ∉ label)
    (hshown : exampleLabel? label = some shown) : '\n' ∉ shown := by
  have hname : '\n' ∉ titleCase (lower (trim label)) := by
    intro hmem
    exact h (trim_subset label (newline_of_mem_lower (newline_of_mem_titleCase hmem)))
  unfold exampleLabel? at hshown
  dsimp only at hshown
  split at hshown
  · cases hshown
  · split at hshown
    · obtain rfl := Option.some.inj hshown
      simp [hname]
    · obtain rfl := Option.some.inj hshown
      exact hname

theorem quiet_sampleLabel {ex : Example} (h : Example.LabelText ex.label) :
    ∀ piece ∈ sampleLabel ex, Quiet piece := by
  intro piece hpiece
  unfold sampleLabel at hpiece
  split at hpiece
  · rename_i label hlabel
    obtain rfl := List.mem_singleton.1 hpiece
    have hsingle := not_newline_exampleLabel h.single hlabel
    have hline : List.flatten ["*", label, "*\n"] = ("*" ++ label ++ "*") ++ ("\n" : Text) := by simp
    rw [hline]
    exact (quiet_of_head (by simp [hsingle]) rfl (by decide)).newline
  · cases hpiece

theorem flatMap_pieceLines {ls : List Text} (h : ∀ line ∈ ls, Intact line) :
    ls.flatMap pieceLines = ls := by
  induction ls with
  | nil => rfl
  | cons line ls ih =>
    rw [List.forall_mem_cons] at h
    rw [List.flatMap_cons, ih h.2, pieceLines_of_single h.1.1, h.1.dropEnd, List.singleton_append]

section Code
variable {code : List Text} (h : ∀ line ∈ code, Example.CodeLine line)
include h

theorem intact_unindent : ∀ line ∈ unindent code, Intact line := by
  intro line hline
  obtain ⟨whole, hwhole, rfl⟩ := List.mem_map.1 hline
  have hend := unindentLine_suffix hwhole
  exact ⟨fun hmem => (h whole hwhole).single (hend.subset hmem),
    trimEnd_of_suffix hend (h whole hwhole).trimmed⟩

/-- A line of code that loses its indentation does not become the end of the fence. -/
theorem fenceClose_not_mem_unindent : fenceClose ∉ unindent code := by
  intro hmem
  obtain ⟨whole, hwhole, hline⟩ := List.mem_map.1 hmem
  have hfence := (h whole hwhole).not_fence
  rw [← trim_unindentLine hwhole, hline] at hfence
  exact absurd hfence (by decide)

end Code

/-- The pieces of an example give its code back. -/
theorem fencedFrom_sample {ex : Example} (h : ex.WellFormed) (rest : List Text) :
    fencedFrom none ((sample ex ++ rest).flatMap pieceLines) =
      unindent ex.code :: fencedFrom none (rest.flatMap pieceLines) := by
  have hopen : pieceLines fenceOpen = [fenceOpen] := by decide
  have hclose : pieceLines (fenceClose ++ "\n") = [fenceClose, []] := by decide
  have hcode : (fenceOpen :: unindent ex.code ++ [fenceClose ++ "\n"] ++ rest).flatMap pieceLines =
      fenceOpen :: (unindent ex.code ++ fenceClose :: ([[]] ++ rest.flatMap pieceLines)) := by
    simp only [List.cons_append, List.append_assoc, List.flatMap_cons, List.flatMap_append,
      flatMap_pieceLines (intact_unindent h.code), hopen, hclose, List.nil_append]
  unfold sample
  rw [List.append_assoc, List.append_assoc, fencedFrom_pieces (quiet_sampleLabel h.label),
    ← List.append_assoc, hcode, fencedFrom, if_pos rfl,
    fencedFrom_code (fenceClose_not_mem_unindent h.code), List.nil_append,
    fencedFrom_quiet (by decide)]

theorem fencedFrom_samples {examples : List Example} (h : ∀ ex ∈ examples, ex.WellFormed) :
    fencedFrom none ((examples.flatMap sample).flatMap pieceLines) =
      examples.map fun ex => unindent ex.code := by
  induction examples with
  | nil => rfl
  | cons ex examples ih =>
    rw [List.forall_mem_cons] at h
    rw [List.flatMap_cons, fencedFrom_sample h.1, ih h.2, List.map_cons]

/-! ## Entries -/

theorem not_newline_collapse (inRun : Bool) (t : Text) : '\n' ∉ collapse inRun t := by
  induction t generalizing inRun with
  | nil => exact List.not_mem_nil
  | cons c t ih =>
    unfold collapse
    split
    · cases inRun <;> simp [ih]
    · rename_i hdivider
      rw [List.mem_cons, not_or]
      refine ⟨?_, ih false⟩
      rintro rfl
      exact hdivider (by decide)

theorem quiet_heading {name : Text} (h : '\n' ∉ name) (realm : Realm) :
    ∀ piece ∈ [List.flatten ["<a id=\"", slug name, "\"></a>"], List.flatten ["### ", name, "\n"],
      List.flatten ["> \x60", realm.name, "\x60\n"]], Quiet piece := by
  have hslug : '\n' ∉ slug name := not_newline_collapse false _
  have htitle : List.flatten ["### ", name, "\n"] = ("### " ++ name) ++ ("\n" : Text) := by simp
  rw [List.forall_mem_cons, List.forall_mem_cons, List.forall_mem_singleton, htitle]
  refine ⟨quiet_of_head (by simp [hslug]) rfl (by decide),
    (quiet_of_head (by simp [h]) rfl (by decide)).newline, ?_⟩
  unfold Quiet
  cases realm <;> decide

/-- The fields of free text that an entry shows. -/
def shownFields : List Entry.TextField := [.purpose, .whenCalled, .whenUsed, .explanation, .returns]

section Entries
variable {e : Entry} (he : e.WellFormed)
  (hopen : ∀ field ∈ shownFields, fenceOpen ∉ lines (e.text field))
include he hopen

theorem quiet_text (shown : Entry.TextField) (hshown : shown ∈ shownFields) (hne : e.text shown ≠ []) :
    Quiet (e.text shown) :=
  quiet_of_clean (he.text shown) hne (hopen shown hshown)

theorem quiet_when (hne : e.when?.getD [] ≠ []) : Quiet (e.when?.getD []) := by
  unfold Entry.when? at hne ⊢
  split
  · rename_i hcalled
    have hne : e.whenCalled ≠ [] := by simpa using hcalled
    exact quiet_text he hopen .whenCalled (by decide) hne
  · rename_i hcalled
    rw [if_neg hcalled] at hne
    split
    · rename_i hused
      have hne : e.whenUsed ≠ [] := by simpa using hused
      exact quiet_text he hopen .whenUsed (by decide) hne
    · rename_i hused
      rw [if_neg hused] at hne
      exact absurd rfl hne

theorem quiet_returns {links : Links} (hlinks : ∀ type, '\n' ∉ links.link type) :
    ∀ piece ∈ returns links e.returns, Quiet piece := by
  have htitle : fenceOpen ∉ pieceLines "**Returns**\n" := by decide
  have hlines : ∀ line ∈ lines e.returns, OneLine line := oneLine_of_mem_lines (he.text .returns)
  have htext := quiet_returned hlinks hlines (hopen .returns (by decide))
  intro piece hpiece
  unfold returns at hpiece
  split at hpiece
  · cases hpiece
  · rw [List.mem_cons, List.mem_singleton] at hpiece
    rcases hpiece with rfl | rfl
    · exact htitle
    · exact htext.newline

/-- All that stands above the examples opens no fence. -/
theorem quiet_above {links : Links} (hlinks : ∀ type, '\n' ∉ links.link type) {name : Text}
    (hname : '\n' ∉ name) :
    ∃ front, pieces links name e = front ++ samples e.examples ∧ ∀ piece ∈ front, Quiet piece := by
  have hpurpose := quiet_field "Purpose" (by decide) (quiet_text he hopen .purpose (by decide))
  have hwhen := quiet_field "When Called" (by decide) (quiet_when he hopen)
  have hparameters := quiet_parameters hlinks fun p hp => (he.parameters p hp).name
  have hreturns := quiet_returns he hopen hlinks
  have hexplanation := quiet_field "Explanation" (by decide)
    (quiet_text he hopen .explanation (by decide))
  refine ⟨_, rfl, ?_⟩
  simp only [List.forall_mem_append]
  exact ⟨⟨⟨⟨⟨quiet_heading hname _, hpurpose⟩, hwhen⟩, hparameters⟩, hreturns⟩, hexplanation⟩

theorem fenced_markdown {links : Links} (hlinks : ∀ type, '\n' ∉ links.link type) {name : Text}
    (hname : '\n' ∉ name) :
    fenced (markdown links name e) = e.examples.map fun ex => unindent ex.code := by
  obtain ⟨front, hpieces, hfront⟩ := quiet_above he hopen hlinks hname
  have hne : pieces links name e ≠ [] := by
    unfold pieces
    simp
  unfold fenced markdown
  rw [lines_join hne, hpieces, fencedFrom_pieces hfront]
  unfold samples
  split
  · rename_i hempty
    rw [List.isEmpty_iff.1 hempty]
    rfl
  · have htitle : ∀ piece ∈ [("**Example Usage**\n" : Text)], fenceOpen ∉ pieceLines piece := by decide
    rw [← List.singleton_append, fencedFrom_pieces htitle, fencedFrom_samples he.examples]

end Entries

/-- The code of every example of a block is between the fences of its Markdown, one list for each
example and in order, and its lines are the lines that were read, up to the blanks around them. -/
theorem fenced_fragment {block name : Text} {links : Links}
    (hlinks : ∀ type, '\n' ∉ links.link type) (hname : '\n' ∉ name)
    (hcomplete : (Entry.parse block).isComplete = true)
    (hopen : ∀ field ∈ shownFields, fenceOpen ∉ lines ((Entry.parse block).text field)) :
    ∃ t, Style.fragment? .markdown links name (Entry.parse block) = some t ∧
      fenced t = (Entry.parse block).examples.map (fun ex => unindent ex.code) ∧
      ∀ ex ∈ (Entry.parse block).examples, (unindent ex.code).map trim = ex.code.map trim := by
  refine ⟨markdown links name (Entry.parse block), ?_, ?_, ?_⟩
  · unfold Style.fragment?
    rw [hcomplete]
    rfl
  · exact fenced_markdown (Entry.parse_wellFormed block) hopen hlinks hname
  · intro ex _
    exact map_trim_unindent ex.code

/-- A link is the page of a type or the general one. -/
theorem not_mem_link {links : Links} {c : Char} (h : ∀ page ∈ links.pages, c ∉ page.2)
    (hbase : ∀ page ∈ baseTypes, c ∉ page.2) (hfallback : c ∉ fallback) (type : Text) :
    c ∉ links.link type := by
  unfold Links.link
  cases hpage : links.pages.lookup (key type) <|> baseTypes.lookup (key type) with
  | none => exact hfallback
  | some page =>
    simp only [Option.orElse_eq_orElse, Option.orElse_eq_or, Option.or_eq_some_iff] at hpage
    rcases hpage with hfound | ⟨-, hfound⟩
    · obtain ⟨front, back, hsplit, -⟩ := List.lookup_eq_some_iff.1 hfound
      exact h (key type, page) (by simp [hsplit])
    · obtain ⟨front, back, hsplit, -⟩ := List.lookup_eq_some_iff.1 hfound
      exact hbase (key type, page) (by simp [hsplit])

/-- The pages that are linked without any settings stand on one line. -/
theorem not_newline_standard : ∀ type, '\n' ∉ Links.standard.link type :=
  not_mem_link (by decide +kernel) (by decide +kernel) (by decide)

/-- Text that mentions a fence, code that does, and a fence that stays open. -/
theorem fenced_fragment_two :
    let block : Text := "--[[\nPurpose: Runs \x60\x60\x60lua code.\nExample Usage:\nLow Complexity:\n" ++
      "\x60\x60\x60lua\n    if a then\n        b()\n\n    end\n\x60\x60\x60\nHigh:\n" ++
      "\x60\x60\x60\n  c() -- \x60\x60\x60lua\n]]"
    let code : List (List Text) := [["if a then", "    b()", "", "end"], ["c() -- \x60\x60\x60lua"]]
    (Entry.parse block).isComplete = true ∧
      (∀ field ∈ shownFields, fenceOpen ∉ lines ((Entry.parse block).text field)) ∧
      ∃ t, Style.fragment? .markdown .standard "lia.run" (Entry.parse block) = some t ∧
        fenced t = code := by
  intro block code
  have hname : '\n' ∉ ("lia.run" : Text) := by decide
  have hcomplete : (Entry.parse block).isComplete = true := by decide +kernel
  have hopen : ∀ field ∈ shownFields, fenceOpen ∉ lines ((Entry.parse block).text field) := by
    decide +kernel
  have hcode : (Entry.parse block).examples.map (fun ex => unindent ex.code) = code := by
    decide +kernel
  obtain ⟨t, ht, hfenced, -⟩ := fenced_fragment not_newline_standard hname hcomplete hopen
  exact ⟨hcomplete, hopen, t, ht, hfenced.trans hcode⟩

end LuaReference.Style.Markdown
