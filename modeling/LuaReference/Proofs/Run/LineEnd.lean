import LuaReference.Proofs.Site.LineEnd
import LuaReference.Run.Generator

/-!
# Runs on sources with carriage returns

A page does not depend on how the lines of its source end.

* `section?_crlf`, `preambleBlocks_crlf` : what is taken out of the blocks for the page;
* `draft_crlf` : the whole draft, apart from the hooks used, whose names can hold line ends;
* `Report.apartFromHooks` : what else a report says;
* `process_crlf` : the report, the log and the disk after it.
-/

namespace LuaReference

open Text

namespace Generator

variable (g : Generator) (mode : Mode) (path : Path) (source : Text)

/-! ## Sites -/

theorem declared_crlf :
    g.declared mode (crlf source) (Comment.extract (crlf source)) =
      g.declared mode source (Comment.extract source) := by
  unfold declared
  rw [Site.declarations_crlf]

theorem sites_crlf :
    g.sites mode path (crlf source) (Comment.extract (crlf source)) =
      (g.sites mode path source (Comment.extract source)).map (Site.relocate source) := by
  unfold sites
  rw [Site.locate_crlf, Site.locate_crlf, Site.locatePanels_crlf, Site.locateProperties_crlf]
  cases mode with
  | definitions => exact (apply_ite (List.map (Site.relocate source)) _ _ _).symm
  | library | compatibility | methods | hooks => rfl

theorem section?_relocate (site : Site) : g.section? mode (site.relocate source) = g.section? mode site := by
  have hparse : Entry.parse (site.relocate source).doc.text = Entry.parse site.doc.text :=
    Entry.parse_crlf _
  unfold section?
  rw [hparse]
  rfl

theorem droppedLine?_relocate (site : Site) :
    g.droppedLine? mode (site.relocate source) = g.droppedLine? mode site := by
  unfold droppedLine?
  rw [section?_relocate]
  rfl

/-! ## Headings -/

theorem preambleBlocks_crlf (blocks : List Comment.Block) :
    preambleBlocks mode path (blocks.map (Comment.Block.relocate source)) =
      (preambleBlocks mode path blocks).map (Option.map (Comment.Block.relocate source))
        (Option.map (Comment.Block.relocate source)) := by
  unfold preambleBlocks
  split
  · have hcontent : ((fun b : Comment.Block => b.kind != .entry && !Comment.mentionsDirective b.text) ∘
        Comment.Block.relocate source) =
        fun b => b.kind != .entry && !Comment.mentionsDirective b.text := by
      funext b
      simp only [Function.comp, Comment.Block.relocate, Comment.mentionsDirective_crlf]
    unfold itemPreamble
    simp only [List.filter_map, hcontent, List.head?_map, ← List.map_tail, Prod.map]
  · rw [Comment.header?, Comment.overview?, Comment.find?_kind_crlf, Comment.find?_kind_crlf]
    rfl

theorem heading_relocate (d : Directives) (header : Option Comment.Block) :
    heading mode path d (header.map (Comment.Block.relocate source)) = heading mode path d header := by
  unfold heading
  cases header with
  | none => rfl
  | some b =>
    simp only [Option.map_some, Option.bind_some, Comment.Block.relocate, Comment.titleAndSubtitle?_crlf]

theorem overview_relocate (block : Option Comment.Block) :
    overview (block.map (Comment.Block.relocate source)) = overview block := by
  unfold overview
  rw [Option.map_map]
  cases block with
  | none => rfl
  | some b =>
    simp only [Option.map_some, Function.comp, Comment.Block.relocate, Comment.overviewText_crlf]

/-! ## Drafts -/

/-- The draft is the same, apart from the hooks used. -/
theorem draft_crlf :
    g.draft path (crlf source) =
      { g.draft path source with
        hooksUsed := Site.hooksUsed (crlf source) (Comment.extract (crlf source)) } := by
  have hdirectives : Directives.ofBlocks (Comment.extract (crlf source)) =
      Directives.ofBlocks (Comment.extract source) := by
    rw [Comment.extract_crlf, Directives.ofBlocks_crlf]
  have hsections : ∀ mode, (fun site => g.section? mode (Site.relocate source site)) = g.section? mode :=
    fun mode => funext fun site => g.section?_relocate mode source site
  have hdropped : ∀ mode, (fun site => g.droppedLine? mode (Site.relocate source site)) =
      g.droppedLine? mode :=
    fun mode => funext fun site => g.droppedLine?_relocate mode source site
  have hlength : (Comment.extract (crlf source)).length = (Comment.extract source).length := by
    rw [Comment.extract_crlf, List.length_map]
  have hpreamble : ∀ mode, preambleBlocks mode path (Comment.extract (crlf source)) =
      (preambleBlocks mode path (Comment.extract source)).map
        (Option.map (Comment.Block.relocate source)) (Option.map (Comment.Block.relocate source)) := by
    intro mode
    rw [Comment.extract_crlf, preambleBlocks_crlf]
  unfold draft
  simp only [hdirectives, sites_crlf, declared_crlf, hpreamble, hlength, List.filterMap_map,
    Function.comp_def, hsections, hdropped, Prod.map_fst, Prod.map_snd, heading_relocate,
    overview_relocate, Option.isNone_map]

end Generator

/-- What a report says apart from the hooks used. -/
def Report.apartFromHooks (r : Report) : Mode × List Text × List Text × Option Outcome :=
  (r.mode, r.declared, r.documented, r.outcome)

/-- A source comes to the same, whether its lines end with carriage returns or without. -/
theorem Generator.process_crlf (g : Generator) (path : Path) (source : Text) (disk : Disk) :
    let plain := g.process path source disk
    let returned := g.process path (crlf source) disk
    returned.result.map Report.apartFromHooks = plain.result.map Report.apartFromHooks ∧
      returned.log = plain.log ∧ returned.disk = plain.disk := by
  unfold process
  rw [draft_crlf]
  obtain ⟨mode, declared, documented, hooksUsed, page?, log⟩ := g.draft path source
  cases page? with
  | none => exact ⟨rfl, rfl, rfl⟩
  | some page =>
    dsimp only
    -- the page is the same, so what becomes of it is
    rcases page.write g.force disk with ⟨cause | outcome, done⟩
    · exact ⟨rfl, rfl, rfl⟩
    · exact ⟨rfl, rfl, rfl⟩

end LuaReference
