import LuaReference.Comment.Directive
import LuaReference.Comment.Heading
import LuaReference.Entry.Reader
import LuaReference.Proofs.Comment.Grammar
import LuaReference.Proofs.Text.LineEnd

/-!
# Comments with carriage returns

* `extract_crlf` : a source with carriage returns has the blocks of the source, each in its new place,
  on its old line and of its old kind;
* `covers_crlf` : the same places lie in them;
* `Directives.ofBlocks_crlf`, `titleAndSubtitle?_crlf`, `overviewText_crlf`, `Entry.parse_crlf` : and
  they say the same.
-/

namespace LuaReference

open Text

namespace Comment

/-! ## Blocks -/

theorem body_crlf (t : Text) : body (crlf t) = crlf (body t) := by
  rw [body, body, dropStart_crlf (by decide), dropEnd_crlf (by decide)]

theorem readsThrough_readBlock : ReadsThrough readBlock crlf where
  takes := readBlock_takes
  newline _ _ := rfl
  carriageReturn _ _ := rfl
  other before c r _ := by
    have hopening : crlf opening = opening := by decide
    have hclosing : crlf closing = closing := by decide
    unfold readBlock
    rw [after?_crlf (by decide)]
    cases after? opening (c :: r) with
    | none => rfl
    | some inner =>
      simp only [Option.map_some, cut?_crlf (by decide : Unbroken closing) (by decide)]
      cases cut? closing inner with
      | none => rfl
      | some found => simp only [Option.map_some, Reading.crlf, crlf_append, hopening, hclosing]

/-! ## Kinds -/

theorem any_occurs_crlf {words : List Text} (h : ∀ word ∈ words, Unbroken word ∧ word ≠ []) (t : Text) :
    (words.any fun word => occurs word (crlf t)) = words.any fun word => occurs word t := by
  rw [Bool.eq_iff_iff, List.any_eq_true, List.any_eq_true]
  refine exists_congr fun word => and_congr_right fun hword => ?_
  rw [occurs_crlf (h word hword).1 (h word hword).2]

theorem mentionsKeyword_crlf (t : Text) : Entry.mentionsKeyword (crlf t) = Entry.mentionsKeyword t :=
  any_occurs_crlf (by decide) t

theorem mentionsOverview_crlf (t : Text) : mentionsOverview (crlf t) = mentionsOverview t := by
  rw [mentionsOverview, occurs_crlf (by decide) (by decide), occurs_crlf (by decide) (by decide),
    mentionsOverview]

theorem mentionsDirective_crlf (t : Text) : mentionsDirective (crlf t) = mentionsDirective t := by
  rw [mentionsDirective, occurs_crlf (by decide) (by decide), occurs_crlf (by decide) (by decide),
    occurs_crlf (by decide) (by decide), mentionsDirective]

theorem mentionsSample_crlf (t : Text) : Entry.mentionsSample (crlf t) = Entry.mentionsSample t :=
  any_occurs_crlf (by decide) t

theorem mentionsPanel_crlf (t : Text) : Entry.mentionsPanel (crlf t) = Entry.mentionsPanel t :=
  any_occurs_crlf (by decide) t

theorem kindAfter_crlf (seen : Seen) (t : Text) : kindAfter seen (crlf t) = kindAfter seen t := by
  rw [kindAfter, mentionsKeyword_crlf, mentionsOverview_crlf, mentionsDirective_crlf, kindAfter]

/-- A block of `source` in the source with carriage returns. -/
def Block.relocate (source : Text) (b : Block) : Block :=
  { b with start := moved source b.start, stop := moved source b.stop, text := crlf b.text }

theorem classify_crlf (source : Text) (seen : Seen) (found : List (Found Text)) :
    classify (.ofText (crlf source)) seen (found.map (Found.relocate (moved source) crlf)) =
      (classify (.ofText source) seen found).map (Block.relocate source) := by
  induction found generalizing seen with
  | nil => rfl
  | cons f rest ih =>
    rw [List.map_cons, classify, classify, List.map_cons]
    simp only [Found.relocate, kindAfter_crlf, lineAt_moved, Block.relocate]
    exact congrArg _ (ih _)

/-- The blocks of a source with carriage returns are those of the source. -/
theorem extract_crlf (source : Text) :
    extract (crlf source) = (extract source).map (Block.relocate source) := by
  rw [extract, scan_crlf readsThrough_readBlock, classify_crlf, extract]

theorem covers_crlf (source : Text) (p : Nat) :
    covers (extract (crlf source)) (moved source p) = covers (extract source) p := by
  rw [extract_crlf, covers, List.any_map, covers]
  refine congrArg (List.any _) (funext fun b => ?_)
  simp only [Function.comp, Block.covers, Block.relocate, moved_le_moved, moved_lt_moved]

theorem find?_kind_crlf (source : Text) (kind : Kind) (blocks : List Block) :
    (blocks.map (Block.relocate source)).find? (·.kind == kind) =
      (blocks.find? (·.kind == kind)).map (Block.relocate source) :=
  List.find?_map

theorem entries_crlf (source : Text) (blocks : List Block) :
    entries (blocks.map (Block.relocate source)) = (entries blocks).map (Block.relocate source) :=
  List.filter_map

/-! ## Headings -/

theorem uncomment_trimEnd (line : Text) : uncomment (trimEnd line) = uncomment line := by
  rw [uncomment, trim_trimEnd, uncomment]

theorem titleAndSubtitle?_crlf (t : Text) : titleAndSubtitle? (crlf t) = titleAndSubtitle? t := by
  have hlines : contentLines (crlf t) = contentLines t := by
    rw [contentLines, body_crlf, map_lines_crlf uncomment_trimEnd, contentLines]
  rw [titleAndSubtitle?, hlines, titleAndSubtitle?]

theorem overviewText_crlf (t : Text) : overviewText (crlf t) = overviewText t := by
  have hclean : ∀ line, cleanLine (trimEnd line) = cleanLine line := by
    intro line
    rw [cleanLine, uncomment_trimEnd, cleanLine]
  rw [overviewText, body_crlf, map_lines_crlf hclean, overviewText]

end Comment

/-! ## Directives -/

theorem Directives.ofText_crlf (t : Text) : ofText (crlf t) = ofText t := by
  have hline : ∀ (d : Directives) line, readLine d (trimEnd line) = readLine d line := by
    intro d line
    rw [readLine, Comment.uncomment_trimEnd, readLine]
  rw [ofText, Comment.body_crlf, foldl_lines_crlf hline, ofText]

theorem Directives.ofBlocks_crlf (source : Text) (blocks : List Comment.Block) :
    ofBlocks (blocks.map (Comment.Block.relocate source)) = ofBlocks blocks := by
  have htext : ∀ b : Comment.Block, ofText (b.relocate source).text = ofText b.text :=
    fun b => ofText_crlf b.text
  rw [ofBlocks, List.map_map, ofBlocks]
  simp only [Function.comp_def, htext]

/-! ## Entries -/

namespace Entry

theorem pending?_trimEnd (raw : Text) : Parameter.pending? (trimEnd raw) = Parameter.pending? raw := by
  rw [Parameter.pending?, trimEnd_trimEnd, Parameter.pending?]

/-- Blanks at the end of a line change nothing in what is read of it. -/
theorem Reader.feed_trimEnd (r : Reader) (raw : Text) : r.feed (trimEnd raw) = r.feed raw := by
  have hplain : ∀ line, r.plainLine (trimEnd raw) line = r.plainLine raw line := by
    intro line
    unfold plainLine
    cases r.current with
    | nothing => rfl
    | text field lines => rfl
    | parameters pending => simp only [parameterLine, pending?_trimEnd]
    | examples current => simp only [exampleLine, trimEnd_trimEnd]
  simp only [feed, trim_trimEnd, hplain]

theorem parse_crlf (block : Text) : parse (crlf block) = parse block := by
  rw [parse, ofLines, Comment.body_crlf, foldl_lines_crlf Reader.feed_trimEnd, parse, ofLines]

end Entry

end LuaReference
