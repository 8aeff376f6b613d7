import LuaReference.Comment.Directive
import LuaReference.Proofs.Comment.Grammar
import LuaReference.Proofs.Entry.Merge
import LuaReference.Proofs.Text.Lines
import Mathlib.Data.List.Basic

/-!
# Words that a block has to mention

A block is sorted by the words that stand anywhere in it, and read by the words that start its lines.

* `isInfix_body`, `isInfix_uncomment`, `occurs_of_line` : what starts a line of a block stands in the
  block;
* `Entry.mem_sectionWords` : the words that mark a block are those that open a section;
* `Entry.Reader.feed_inert`, `Entry.exists_opensSection` : nothing is read before a section opens;
* `Directives.readLine_inert`, `Directives.exists_directive` : nothing is set without a directive;
* `kind_of_mem` : the kind of a block, by its words and some blocks before it;
* `mentions_of_read` : what is read from a block is mentioned in it, so only entries are complete, and
  the header says nothing else.
-/

namespace LuaReference

open Text

/-! ## Lines of a block -/

namespace Comment

theorem isSuffix_dropStart (start t : Text) : dropStart start t <:+ t := by
  unfold dropStart
  cases hrest : after? start t with
  | none => exact List.suffix_refl t
  | some rest => exact ⟨start, (after?_eq_some_iff.1 hrest).symm⟩

theorem isInfix_body (t : Text) : body t <:+: t :=
  (isPrefix_dropEnd _ _).isInfix.trans (isSuffix_dropStart _ t).isInfix

theorem isInfix_uncomment (line : Text) : uncomment line <:+: line :=
  (isInfix_trim _).trans ((isSuffix_dropStart _ _).isInfix.trans (isInfix_trim line))

/-- A word in a part of a line of a block stands in the block. -/
theorem occurs_of_line {word part line t : Text} (hline : line ∈ lines (body t))
    (hpart : part <:+: line) (hword : startsWith word part = true) : occurs word t = true := by
  obtain ⟨rest, rfl⟩ := startsWith_iff.1 hword
  have hblock : line <:+: t := (isInfix_of_mem_lines hline).trans (isInfix_body t)
  apply occurs_iff.2
  exact (List.prefix_append word rest).isInfix.trans (hpart.trans hblock)

end Comment

/-- A reader that no line moves stays where it is. -/
theorem foldl_inert {σ : Type} {f : σ → Text → σ} {s : σ} {raws : List Text}
    (h : ∀ raw ∈ raws, f s raw = s) : raws.foldl f s = s := by
  induction raws with
  | nil => rfl
  | cons raw rest ih =>
    rw [List.forall_mem_cons] at h
    rw [List.foldl_cons, h.1]
    exact ih h.2

/-! ## Entries -/

namespace Entry

/-- The words that mark a block as documentation are the keywords that open its sections. -/
theorem mem_sectionWords {word : Text} : word ∈ sectionWords ↔ word ∈ keywords.map Prod.fst :=
  ⟨fun h => (by decide : sectionWords ⊆ keywords.map Prod.fst) h,
    fun h => (by decide : keywords.map Prod.fst ⊆ sectionWords) h⟩

/-- Before a section opens, lines have no meaning. -/
theorem Reader.feed_inert {raw : Text} (h : ¬ OpensSection raw) : Reader.feed {} raw = {} := by
  unfold Reader.feed
  simp only [keyword?_eq_none h]
  split
  · rfl
  · split <;> rfl

theorem exists_opensSection {t : Text} (h : parse t ≠ {}) :
    ∃ line ∈ lines (Comment.body t), OpensSection line := by
  by_contra hnone
  apply h
  have hinert : ∀ raw ∈ lines (Comment.body t), Reader.feed {} raw = {} := by
    intro raw hraw
    apply Reader.feed_inert
    intro hopens
    exact hnone ⟨raw, hraw, hopens⟩
  rw [parse, ofLines, foldl_inert hinert]
  rfl

theorem mentionsKeyword_of_parse {t : Text} (h : parse t ≠ {}) : mentionsKeyword t = true := by
  obtain ⟨line, hline, word, hword, hstart⟩ := exists_opensSection h
  rw [mentionsKeyword, List.any_eq_true]
  exact ⟨word, mem_sectionWords.2 hword, Comment.occurs_of_line hline (isInfix_trim line) hstart⟩

end Entry

/-! ## Directives -/

namespace Directives

/-- The words of the directives. -/
def words : List Text := ["Folder:", "File:", "Append:"]

theorem mentionsDirective_eq (t : Text) :
    Comment.mentionsDirective t = words.any fun word => occurs word t := by
  simp [Comment.mentionsDirective, words, Bool.or_assoc]

/-- A line that no directive starts sets nothing. -/
theorem readLine_inert {raw : Text} (h : ∀ word ∈ words, startsWith word (Comment.uncomment raw) = false)
    (d : Directives) : d.readLine raw = d := by
  have hnone : ∀ word ∈ words, after? word (Comment.uncomment raw) = none := by
    intro word hword
    rw [← Option.not_isSome_iff_eq_none, after?_isSome, h word hword]
    simp
  unfold readLine
  simp only [hnone "Folder:" (by simp [words]), hnone "File:" (by simp [words]),
    hnone "Append:" (by simp [words])]

theorem exists_directive {t : Text} (h : ofText t ≠ {}) :
    ∃ line ∈ lines (Comment.body t), ∃ word ∈ words, startsWith word (Comment.uncomment line) = true := by
  by_contra hnone
  apply h
  apply foldl_inert
  intro raw hraw
  apply readLine_inert
  intro word hword
  rw [← Bool.not_eq_true]
  intro hstart
  exact hnone ⟨raw, hraw, word, hword, hstart⟩

theorem mentionsDirective_of_ofText {t : Text} (h : ofText t ≠ {}) :
    Comment.mentionsDirective t = true := by
  obtain ⟨line, hline, word, hword, hstart⟩ := exists_directive h
  rw [mentionsDirective_eq, List.any_eq_true]
  exact ⟨word, hword, Comment.occurs_of_line hline (Comment.isInfix_uncomment line) hstart⟩

end Directives

/-! ## Kinds of blocks -/

namespace Comment

theorem kind_of_mem_classify {table : LineTable} {seen : Seen} {found : List (Found Text)} {b : Block}
    (h : b ∈ classify table seen found) : ∃ before, b.kind = kindAfter before b.text := by
  induction found generalizing seen with
  | nil => cases h
  | cons f rest ih =>
    rcases List.mem_cons.1 h with rfl | hrest
    · exact ⟨seen, rfl⟩
    · exact ih hrest

theorem kind_of_mem {source : Text} {b : Block} (h : b ∈ extract source) :
    ∃ before, b.kind = kindAfter before b.text := kind_of_mem_classify h

theorem kind_eq_entry_of_mentions {source : Text} {b : Block} (h : b ∈ extract source)
    (hmention : Entry.mentionsKeyword b.text = true) : b.kind = .entry := by
  obtain ⟨before, hkind⟩ := kind_of_mem h
  rw [hkind, kindAfter, if_pos hmention]

theorem not_mentions_of_header {source : Text} {b : Block} (h : b ∈ extract source)
    (hheader : b.kind = .header) :
    Entry.mentionsKeyword b.text = false ∧ mentionsDirective b.text = false := by
  obtain ⟨before, hkind⟩ := kind_of_mem h
  rw [hheader, kindAfter] at hkind
  cases hword : Entry.mentionsKeyword b.text with
  | true =>
    rw [hword] at hkind
    cases hkind
  | false =>
    refine ⟨rfl, ?_⟩
    rw [hword, if_neg (by simp)] at hkind
    cases hdirective : mentionsDirective b.text with
    | false => rfl
    | true =>
      rw [hdirective] at hkind
      split at hkind
      · split at hkind <;> cases hkind
      · cases hkind

/-- What is read from the lines of a block is mentioned in it. So only an entry can be complete, and
the block that gives the title is read as an empty entry without directives. -/
theorem mentions_of_read :
    (∀ t, Entry.parse t ≠ {} → Entry.mentionsKeyword t = true) ∧
    (∀ t, Directives.ofText t ≠ {} → mentionsDirective t = true) ∧
    ∀ source, ∀ b ∈ extract source,
      ((Entry.parse b.text).isComplete = true → b.kind = .entry) ∧
      (b.kind = .header → Entry.parse b.text = {} ∧ Directives.ofText b.text = {}) := by
  refine ⟨fun t => Entry.mentionsKeyword_of_parse, fun t => Directives.mentionsDirective_of_ofText, ?_⟩
  intro source b hb
  constructor
  · intro hcomplete
    apply kind_eq_entry_of_mentions hb
    apply Entry.mentionsKeyword_of_parse
    intro hempty
    rw [hempty] at hcomplete
    cases hcomplete
  · intro hheader
    obtain ⟨hword, hdirective⟩ := not_mentions_of_header hb hheader
    constructor
    · by_contra hread
      rw [Entry.mentionsKeyword_of_parse hread] at hword
      cases hword
    · by_contra hread
      rw [Directives.mentionsDirective_of_ofText hread] at hdirective
      cases hdirective

/-- A title with the words of keywords and directives, but none of them, and an entry after it. -/
theorem mentions_of_read_titled :
    let title : Text := "--[[ Purpose of a\n Folder : File ]]"
    let doc : Text := "--[[\n -- Folder: x\n\tPurpose: p\n]]"
    let header : Block := ⟨0, 35, 1, title, .header⟩
    let entry : Block := ⟨35, 68, 2, doc, .entry⟩
    extract (title ++ doc) = [header, entry] ∧
      (Entry.parse doc).isComplete = true ∧ entry.kind = .entry ∧
      Entry.parse doc ≠ {} ∧ Entry.mentionsKeyword doc = true ∧
      Directives.ofText doc ≠ {} ∧ mentionsDirective doc = true ∧
      header.kind = .header ∧ Entry.parse title = {} ∧ Directives.ofText title = {} := by
  intro title doc header entry
  have hblocks : extract (title ++ doc) = [header, entry] := by decide +kernel
  have hparse : Entry.parse doc ≠ {} := by decide +kernel
  have hdirectives : Directives.ofText doc ≠ {} := by decide +kernel
  have hcomplete : (Entry.parse doc).isComplete = true := by decide +kernel
  obtain ⟨hword, hdirective, hkinds⟩ := mentions_of_read
  have hentry := (hkinds (title ++ doc) entry (by simp [hblocks])).1 hcomplete
  obtain ⟨hnone, hunset⟩ := (hkinds (title ++ doc) header (by simp [hblocks])).2 rfl
  exact ⟨hblocks, hcomplete, hentry, hparse, hword doc hparse, hdirectives, hdirective doc hdirectives,
    rfl, hnone, hunset⟩

end Comment

end LuaReference
