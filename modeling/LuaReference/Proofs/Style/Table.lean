import LuaReference.Proofs.Style.Fence
import Mathlib.Data.List.Infix

/-!
# The table of parameters

The cells of a row stand between pipes, so a pipe within a cell has to be escaped.

* `barePipes` : the number of pipes in a text that no backslash escapes;
* `Sealed` : a text that adds none to a row, and `sealed_tableCell` : the text of a cell is such;
* `barePipes_row` : a row has four of its own and those of the name, which is written as it is;
* `rows_of_fragment` : the rows are lines of the Markdown, and one of them has three cells just if the
  name of its parameter has no bare pipe.
-/

namespace LuaReference.Style.Markdown

open Text LuaReference.Types

/-! ## Pipes -/

/-- The number of pipes in a text that no backslash stands right before; `before` is the character before
the text. -/
def barePipesAfter (before : Option Char) : Text → Nat
  | [] => 0
  | c :: r => (if c = '|' ∧ before ≠ some '\\' then 1 else 0) + barePipesAfter (some c) r

/-- The number of pipes in a text that no backslash stands right before. -/
def barePipes (t : Text) : Nat := barePipesAfter none t

theorem barePipesAfter_append (before : Option Char) (s t : Text) :
    barePipesAfter before (s ++ t) = barePipesAfter before s + barePipesAfter (lastOf before s) t := by
  induction s generalizing before with
  | nil => exact (Nat.zero_add _).symm
  | cons c s ih =>
    rw [List.cons_append, barePipesAfter, barePipesAfter, ih, lastOf_cons, Nat.add_assoc]

/-- A backslash that stands before a text matters to a pipe at its start only. -/
theorem barePipesAfter_of_head {t : Text} (h : t.head? ≠ some '|') (before : Option Char) :
    barePipesAfter before t = barePipes t := by
  cases t with
  | nil => rfl
  | cons c t =>
    have hc : ¬ c = '|' := by simpa using h
    simp [barePipes, barePipesAfter, hc]

theorem barePipesAfter_of_ne {before : Option Char} (h : before ≠ some '\\') (t : Text) :
    barePipesAfter before t = barePipes t := by
  cases t with
  | nil => rfl
  | cons c t => simp [barePipes, barePipesAfter, h]

/-! ## Texts that no cell ends in -/

/-- A text without bare pipes, whatever stands before it. -/
def Sealed (t : Text) : Prop := ∀ before, barePipesAfter before t = 0

theorem Sealed.append {s t : Text} (hs : Sealed s) (ht : Sealed t) : Sealed (s ++ t) := fun before => by
  rw [barePipesAfter_append, hs, ht]

theorem sealed_of_not_mem {t : Text} (h : '|' ∉ t) : Sealed t := by
  intro before
  induction t generalizing before with
  | nil => rfl
  | cons c t ih =>
    rw [List.mem_cons, not_or] at h
    rw [barePipesAfter, if_neg fun hpipe => h.1 hpipe.1.symm, ih h.2]

/-- The text that stands in a cell for a character. -/
def cellChar (c : Char) : Text := if c = '|' then ['\\', '|'] else if c = '\n' then [' '] else [c]

theorem tableCell_cons (c : Char) (t : Text) : tableCell (c :: t) = cellChar c ++ tableCell t := by
  by_cases hpipe : c = '|'
  · subst hpipe
    rfl
  · by_cases hline : c = '\n'
    · subst hline
      rfl
    · rw [tableCell, replaceChar_cons_of_ne hpipe, replaceChar_cons_of_ne hline, cellChar, if_neg hpipe,
        if_neg hline]
      rfl

theorem sealed_cellChar (c : Char) : Sealed (cellChar c) := by
  unfold cellChar
  split
  · -- the backslash that is written before a pipe
    exact fun before => by simp [barePipesAfter]
  · rename_i hpipe
    split
    · exact sealed_of_not_mem (by decide)
    · exact sealed_of_not_mem (by simpa using Ne.symm hpipe)

theorem sealed_tableCell (t : Text) : Sealed (tableCell t) := by
  induction t with
  | nil => exact sealed_of_not_mem (by decide)
  | cons c t ih =>
    rw [tableCell_cons]
    exact (sealed_cellChar c).append ih

/-! ## Rows -/

/-- What a row holds between the pipes around its type. -/
def typeCell (links : Links) (p : Parameter) : Text :=
  List.flatten
    [typeLink links (tableCell (ofParameter p.type).display) (ofParameter p.type).linkType,
     if (ofParameter p.type).optional then " *(optional)*" else ""]

theorem row_eq (links : Links) (p : Parameter) :
    row links p = "| \x60" ++ (p.name ++ ("\x60 | " ++ (typeCell links p ++
      (" | " ++ (tableCell p.description ++ " |"))))) := by
  simp only [row, typeCell, List.flatten_cons, List.flatten_nil, List.append_assoc, List.append_nil]

section Linked
variable {links : Links} (hlinks : ∀ type, '|' ∉ links.link type)
include hlinks

theorem sealed_typeLink (t type : Text) : Sealed (typeLink links (tableCell t) type) := by
  have hparts : typeLink links (tableCell t) type =
      "[" ++ (tableCell t ++ ("](" ++ (links.link type ++ ")"))) := by simp [typeLink]
  have hrest : Sealed ("](" ++ (links.link type ++ ")")) :=
    sealed_of_not_mem (by simp [hlinks type])
  rw [hparts]
  exact (sealed_of_not_mem (by decide)).append ((sealed_tableCell t).append hrest)

theorem sealed_typeCell (p : Parameter) : Sealed (typeCell links p) := by
  unfold typeCell
  rw [List.flatten_cons, List.flatten_cons, List.flatten_nil, List.append_nil]
  refine (sealed_typeLink hlinks _ _).append ?_
  split <;> exact sealed_of_not_mem (by decide)

/-- A row has four bare pipes and those of the name. -/
theorem barePipes_row (p : Parameter) : barePipes (row links p) = barePipes p.name + 4 := by
  have hname : ∀ before, barePipesAfter before "\x60 | " = 1 := fun before =>
    (barePipesAfter_of_head (by decide) before).trans rfl
  have hcell : ∀ before, barePipesAfter before " | " = 1 := fun before =>
    (barePipesAfter_of_head (by decide) before).trans rfl
  have hend : ∀ before, barePipesAfter before " |" = 1 := fun before =>
    (barePipesAfter_of_head (by decide) before).trans rfl
  calc barePipes (row links p)
      = barePipesAfter none "| \x60" + (barePipesAfter (some '\x60') p.name + (1 + (0 + (1 + (0 + 1))))) := by
        rw [row_eq, barePipes, barePipesAfter_append, barePipesAfter_append, barePipesAfter_append,
          barePipesAfter_append, barePipesAfter_append, barePipesAfter_append, sealed_typeCell hlinks,
          sealed_tableCell, hname, hcell, hend]
        rfl
    _ = 1 + (barePipes p.name + 3) := by
        rw [barePipesAfter_of_ne (by decide) p.name]
        rfl
    _ = barePipes p.name + 4 := by omega

end Linked

/-! ## The rows of an entry -/

theorem intact_row {links : Links} (hlinks : ∀ type, '\n' ∉ links.link type) {p : Parameter}
    (hname : Parameter.NameText p.name) : Intact (row links p) := by
  refine ⟨not_newline_row hlinks hname, trimEnd_eq_self_iff.2 fun c hc => ?_⟩
  have hlast : (row links p).getLast? = some '|' := by
    rw [row_eq]
    simp only [List.getLast?_append]
    rfl
  obtain rfl := Option.some.inj (hlast.symm.trans hc)
  decide

theorem rows_infix_parameters {links : Links} (hlinks : ∀ type, '\n' ∉ links.link type)
    {ps : List Parameter} (h : ∀ p ∈ ps, Parameter.NameText p.name) :
    ps.map (row links) <:+: (parameters links ps).flatMap pieceLines := by
  have hrows : ∀ line ∈ ps.map (row links), Intact line := by
    intro line hline
    obtain ⟨p, hp, rfl⟩ := List.mem_map.1 hline
    exact intact_row hlinks (h p hp)
  unfold parameters
  split
  · rename_i hempty
    rw [List.isEmpty_iff.1 hempty]
    exact List.nil_infix
  · rw [List.flatMap_append, List.flatMap_append, flatMap_pieceLines hrows]
    exact List.infix_append _ _ _

theorem parameters_infix_pieces (links : Links) (name : Text) (e : Entry) :
    parameters links e.parameters <:+: pieces links name e := by
  unfold pieces
  exact ((List.suffix_append _ _).isInfix.trans (List.prefix_append _ _).isInfix).trans
    ((List.prefix_append _ _).trans (List.prefix_append _ _)).isInfix

/-- The rows of the parameters are lines of the Markdown, one below the other. -/
theorem rows_infix_lines {links : Links} (hlinks : ∀ type, '\n' ∉ links.link type) (name : Text)
    {e : Entry} (h : ∀ p ∈ e.parameters, Parameter.NameText p.name) :
    e.parameters.map (row links) <:+: lines (markdown links name e) := by
  have hne : pieces links name e ≠ [] := by
    unfold pieces
    simp
  unfold markdown
  rw [lines_join hne]
  exact (rows_infix_parameters hlinks h).trans ((parameters_infix_pieces links name e).flatMap _)

/-- No page that is linked without any settings has a pipe in it. -/
theorem not_pipe_standard : ∀ type, '|' ∉ Links.standard.link type :=
  not_mem_link (by decide +kernel) (by decide +kernel) (by decide)

/-- Every parameter of a block has its row on a line of the Markdown. The row has three cells, between
four bare pipes, just if the name of the parameter has no bare pipe: it is written as it is. -/
theorem rows_of_fragment {block name : Text} (hcomplete : (Entry.parse block).isComplete = true) :
    ∃ t, Style.fragment? .markdown .standard name (Entry.parse block) = some t ∧
      (Entry.parse block).parameters.map (row .standard) <:+: lines t ∧
      ∀ p ∈ (Entry.parse block).parameters,
        (barePipes (row .standard p) = 4 ↔ barePipes p.name = 0) := by
  refine ⟨markdown .standard name (Entry.parse block), ?_, ?_, fun p _ => ?_⟩
  · unfold Style.fragment?
    rw [hcomplete]
    rfl
  · exact rows_infix_lines not_newline_standard name fun p hp =>
      ((Entry.parse_wellFormed block).parameters p hp).name
  · rw [barePipes_row not_pipe_standard]
    omega

/-- Pipes in types and descriptions, one of them behind a backslash, and a name with an escaped pipe. -/
theorem rows_of_fragment_escaped :
    let block : Text := "--[[\nPurpose: p\nParameters:\n  - who (Player|Entity|nil): a | b \\| c\n" ++
      "  x\\|y - Player: d\n]]"
    let rows : List Text :=
      ["| \x60who\x60 | [Player\\|Entity](https://wiki.facepunch.com/gmod/Player) *(optional)* | " ++
        "a \\| b \\\\| c |",
       "| \x60x\\|y\x60 | [Player](https://wiki.facepunch.com/gmod/Player) | d |"]
    (Entry.parse block).isComplete = true ∧
      ∃ t, Style.fragment? .markdown .standard "x" (Entry.parse block) = some t ∧ rows <:+: lines t ∧
        ∀ r ∈ rows, barePipes r = 4 := by
  intro block rows
  let ps : List Parameter :=
    [⟨"who", "Player|Entity|nil", "a | b \\| c"⟩, ⟨"x\\|y", "Player", "d"⟩]
  have hparse : Entry.parse block = { purpose := "p", parameters := ps } := by decide +kernel
  have hrows : ps.map (row .standard) = rows := by decide +kernel
  have hnames : ∀ p ∈ ps, barePipes p.name = 0 := by decide
  have hcomplete : (Entry.parse block).isComplete = true := by rw [hparse]; rfl
  obtain ⟨t, ht, hinfix, hpipes⟩ := rows_of_fragment hcomplete
  rw [hparse] at hinfix hpipes
  refine ⟨hcomplete, t, ht, hrows ▸ hinfix, fun r hr => ?_⟩
  rw [← hrows] at hr
  obtain ⟨p, hp, rfl⟩ := List.mem_map.1 hr
  exact (hpipes p hp).2 (hnames p hp)

/-- The name of a parameter that is described behind a dash can hold a pipe, and its row has a cell too
many. -/
theorem name_splits_row :
    let block : Text := "--[[\nPurpose: p\nParameters:\n    a|b - Player: c\n]]"
    let p : Parameter := ⟨"a|b", "Player", "c"⟩
    (Entry.parse block).isComplete = true ∧ (Entry.parse block).parameters = [p] ∧
      row .standard p = "| \x60a|b\x60 | [Player](https://wiki.facepunch.com/gmod/Player) | c |" ∧
      barePipes (row .standard p) = 5 := by
  decide +kernel

end LuaReference.Style.Markdown
