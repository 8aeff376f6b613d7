import LuaReference.Proofs.Comment.Mention

/-!
# Kinds by place

The kind of a block is found in one pass that remembers what was met. It is a matter of the words of
the block and of the blocks before it alone.

* `Holds words t` : one of the words stands in a text;
* `OverviewShaped`, `HeaderShaped` : the texts that can be the overview, the title;
* `Seen.Recalls texts seen` : what the pass remembers is whether one of the texts so far had the
  shape, and `Seen.Recalls.add` : one more block keeps it so;
* `Placed before b` : the kind of a block by its place;
* `FirstOf blocks kind shape` : a kind that goes to the first block of a shape, `FirstOf.length_le_one`
  and `FirstOf.isSome_find?` : there is one such block at most, and one where the shape occurs;
* `kinds_by_place` : the blocks of a source are placed.
-/

namespace LuaReference.Comment

open Text

/-! ## Shapes -/

/-- One of the words stands in a text. -/
def Holds (words : List Text) (t : Text) : Prop := ∃ word ∈ words, word <:+: t

/-- The words that mark an overview. -/
def overviewWords : List Text := ["Overview:", "Improvements Done:"]

/-- A text with the mark of an overview and no section. -/
def OverviewShaped (t : Text) : Prop := Holds overviewWords t ∧ ¬ Holds Entry.sectionWords t

/-- A text without any word that has a meaning. -/
def HeaderShaped (t : Text) : Prop :=
  ¬ Holds Entry.sectionWords t ∧ ¬ Holds overviewWords t ∧ ¬ Holds Directives.words t

theorem holds_iff (words : List Text) (t : Text) :
    Holds words t ↔ (words.any fun word => occurs word t) = true := by
  rw [List.any_eq_true]
  simp only [Holds, occurs_iff]

instance (words : List Text) (t : Text) : Decidable (Holds words t) :=
  decidable_of_iff _ (holds_iff words t).symm

instance : DecidablePred OverviewShaped := fun _ => inferInstanceAs (Decidable (_ ∧ _))

instance : DecidablePred HeaderShaped := fun _ => inferInstanceAs (Decidable (_ ∧ _))

theorem mentionsKeyword_iff (t : Text) : Entry.mentionsKeyword t = true ↔ Holds Entry.sectionWords t := by
  rw [holds_iff, Entry.mentionsKeyword]

theorem mentionsOverview_iff (t : Text) : mentionsOverview t = true ↔ Holds overviewWords t := by
  rw [holds_iff]
  simp [mentionsOverview, overviewWords]

theorem mentionsDirective_iff (t : Text) : mentionsDirective t = true ↔ Holds Directives.words t := by
  rw [holds_iff, Directives.mentionsDirective_eq]

/-! ## One block -/

theorem kindAfter_eq_entry_iff (seen : Seen) (t : Text) :
    kindAfter seen t = .entry ↔ Holds Entry.sectionWords t := by
  rw [← mentionsKeyword_iff, kindAfter]
  cases Entry.mentionsKeyword t <;> cases mentionsOverview t <;> cases seen.overview <;>
    cases mentionsDirective t || seen.header <;> simp

theorem kindAfter_eq_overview_iff (seen : Seen) (t : Text) :
    kindAfter seen t = .overview ↔ OverviewShaped t ∧ seen.overview = false := by
  rw [OverviewShaped, ← mentionsKeyword_iff, ← mentionsOverview_iff, kindAfter]
  cases Entry.mentionsKeyword t <;> cases mentionsOverview t <;> cases seen.overview <;>
    cases mentionsDirective t || seen.header <;> simp

theorem kindAfter_eq_header_iff (seen : Seen) (t : Text) :
    kindAfter seen t = .header ↔ HeaderShaped t ∧ seen.header = false := by
  rw [HeaderShaped, ← mentionsKeyword_iff, ← mentionsOverview_iff, ← mentionsDirective_iff, kindAfter]
  cases Entry.mentionsKeyword t <;> cases mentionsOverview t <;> cases seen.overview <;>
    cases mentionsDirective t <;> cases seen.header <;> simp

/-- What the pass remembers is whether one of the texts so far had the shape. -/
structure Seen.Recalls (texts : List Text) (seen : Seen) : Prop where
  header : seen.header = true ↔ ∃ t ∈ texts, HeaderShaped t
  overview : seen.overview = true ↔ ∃ t ∈ texts, OverviewShaped t

theorem Seen.recalls_nil : Seen.Recalls [] {} := ⟨by simp, by simp⟩

/-- A flag that one of the texts so far has set, or that the next one sets. -/
theorem recall_concat {flag : Bool} {shape : Text → Prop} {texts : List Text} {t : Text} {kind met : Kind}
    (hflag : flag = true ↔ ∃ s ∈ texts, shape s) (hkind : met = kind ↔ shape t ∧ flag = false) :
    (flag || met == kind) = true ↔ ∃ s ∈ texts ++ [t], shape s := by
  rw [Bool.or_eq_true, beq_iff_eq, hkind]
  constructor
  · rintro (hold | ⟨hshape, -⟩)
    · obtain ⟨s, hs, hshape⟩ := hflag.1 hold
      exact ⟨s, List.mem_append_left _ hs, hshape⟩
    · exact ⟨t, by simp, hshape⟩
  · rintro ⟨s, hs, hshape⟩
    cases hset : flag with
    | true => exact .inl rfl
    | false =>
      rcases List.mem_append.1 hs with hold | hnew
      · rw [hflag.2 ⟨s, hold, hshape⟩] at hset
        cases hset
      · rw [List.mem_singleton.1 hnew] at hshape
        exact .inr ⟨hshape, rfl⟩

theorem Seen.Recalls.add {texts : List Text} {seen : Seen} (h : seen.Recalls texts) (t : Text) :
    (seen.add (kindAfter seen t)).Recalls (texts ++ [t]) where
  header := recall_concat h.header (kindAfter_eq_header_iff seen t)
  overview := recall_concat h.overview (kindAfter_eq_overview_iff seen t)

/-! ## All blocks -/

/-- The kind of a block after some others: an entry by its own words, and otherwise the first of its
shape. -/
structure Placed (before : List Block) (b : Block) : Prop where
  entry : b.kind = .entry ↔ Holds Entry.sectionWords b.text
  overview : b.kind = .overview ↔ OverviewShaped b.text ∧ ∀ a ∈ before, ¬ OverviewShaped a.text
  header : b.kind = .header ↔ HeaderShaped b.text ∧ ∀ a ∈ before, ¬ HeaderShaped a.text
  loose : b.kind = .loose ↔ ¬ Holds Entry.sectionWords b.text ∧
    ¬ (OverviewShaped b.text ∧ ∀ a ∈ before, ¬ OverviewShaped a.text) ∧
    ¬ (HeaderShaped b.text ∧ ∀ a ∈ before, ¬ HeaderShaped a.text)

/-- A block of a list is classified with what the blocks before it leave. -/
theorem recalls_of_classify {table : LineTable} {found : List (Found Text)} {texts : List Text} {seen : Seen}
    (hseen : seen.Recalls texts) {before after : List Block} {b : Block}
    (h : classify table seen found = before ++ b :: after) :
    ∃ met, Seen.Recalls (texts ++ before.map Block.text) met ∧ b.kind = kindAfter met b.text := by
  induction found generalizing texts seen before with
  | nil => simp [classify] at h
  | cons f rest ih =>
    rw [classify] at h
    cases before with
    | nil =>
      obtain ⟨rfl, -⟩ := List.cons.inj h
      exact ⟨seen, by simpa using hseen, rfl⟩
    | cons a before =>
      obtain ⟨rfl, hrest⟩ := List.cons.inj h
      obtain ⟨met, hmet, hkind⟩ := ih (hseen.add f.item) hrest
      exact ⟨met, by simpa using hmet, hkind⟩

theorem placed_of_append {source : Text} {before after : List Block} {b : Block}
    (h : extract source = before ++ b :: after) : Placed before b := by
  obtain ⟨met, hmet, hkind⟩ := recalls_of_classify Seen.recalls_nil h
  have hheader : met.header = false ↔ ∀ a ∈ before, ¬ HeaderShaped a.text := by
    rw [← Bool.not_eq_true, hmet.header]
    simp
  have hoverview : met.overview = false ↔ ∀ a ∈ before, ¬ OverviewShaped a.text := by
    rw [← Bool.not_eq_true, hmet.overview]
    simp
  have hentry := kindAfter_eq_entry_iff met b.text
  have hfirst := kindAfter_eq_overview_iff met b.text
  have htitle := kindAfter_eq_header_iff met b.text
  rw [← hkind] at hentry hfirst htitle
  rw [hoverview] at hfirst
  rw [hheader] at htitle
  refine ⟨hentry, hfirst, htitle, ?_⟩
  rw [← hentry, ← hfirst, ← htitle]
  cases b.kind <;> simp

/-! ## The first of a shape -/

/-- A kind goes to the first block of a shape. -/
def FirstOf (blocks : List Block) (kind : Kind) (shape : Text → Prop) : Prop :=
  ∀ before b after, blocks = before ++ b :: after →
    (b.kind = kind ↔ shape b.text ∧ ∀ a ∈ before, ¬ shape a.text)

section FirstOf
variable {blocks : List Block} {kind : Kind} {shape : Text → Prop} (h : FirstOf blocks kind shape)
include h

theorem FirstOf.length_le_one : (blocks.filter (·.kind == kind)).length ≤ 1 := by
  generalize hkept : blocks.filter (fun b => b.kind == kind) = kept
  rcases kept with _ | ⟨a, _ | ⟨b, rest⟩⟩
  · exact Nat.zero_le 1
  · exact Nat.le_refl 1
  · -- the second block of the kind would have the first one, of the same shape, before it
    obtain ⟨before, between, hblocks, -, ha, hbetween⟩ := List.filter_eq_cons_iff.1 hkept
    obtain ⟨middle, after, rfl, -, hb, -⟩ := List.filter_eq_cons_iff.1 hbetween
    have hsplit : blocks = (before ++ a :: middle) ++ b :: after := by simpa using hblocks
    have hfirst := ((h _ _ _ hblocks).1 (eq_of_beq ha)).1
    have hsecond := ((h _ _ _ hsplit).1 (eq_of_beq hb)).2
    exact absurd hfirst (hsecond a (by simp))

theorem FirstOf.find?_eq_some_iff (b : Block) :
    blocks.find? (·.kind == kind) = some b ↔ b ∈ blocks ∧ b.kind = kind := by
  have hmem : b ∈ blocks.filter (·.kind == kind) ↔ b ∈ blocks ∧ b.kind = kind := by
    rw [List.mem_filter, beq_iff_eq]
  rw [← hmem, ← List.head?_filter]
  have hone := h.length_le_one
  generalize blocks.filter (fun b => b.kind == kind) = kept at hone ⊢
  rcases kept with _ | ⟨a, _ | ⟨c, rest⟩⟩
  · simp
  · rw [List.head?_cons, Option.some.injEq, List.mem_singleton, eq_comm]
  · simp at hone

theorem FirstOf.isSome_find? [DecidablePred shape] :
    (blocks.find? (·.kind == kind)).isSome = true ↔ ∃ b ∈ blocks, shape b.text := by
  rw [List.find?_isSome]
  constructor
  · rintro ⟨b, hb, hkind⟩
    obtain ⟨before, after, hsplit⟩ := List.append_of_mem hb
    exact ⟨b, hb, ((h _ _ _ hsplit).1 (eq_of_beq hkind)).1⟩
  · rintro ⟨b, hb, hshape⟩
    obtain ⟨first, hfirst⟩ := Option.isSome_iff_exists.1 <|
      (List.find?_isSome (p := fun b : Block => decide (shape b.text))).2 ⟨b, hb, by simpa using hshape⟩
    obtain ⟨hyes, before, after, hsplit, hno⟩ := List.find?_eq_some_iff_append.1 hfirst
    refine ⟨first, by simp [hsplit], beq_iff_eq.2 ((h _ _ _ hsplit).2 ⟨by simpa using hyes, ?_⟩)⟩
    intro a ha
    simpa using hno a ha

end FirstOf

/-- The kind of a block is a matter of its words and of the blocks before it. So a source has one title
and one overview at most, and has them where a block of the shape stands anywhere in it. -/
theorem kinds_by_place (source : Text) :
    (∀ before b after, extract source = before ++ b :: after → Placed before b) ∧
      ((extract source).filter (·.kind == .header)).length ≤ 1 ∧
      ((extract source).filter (·.kind == .overview)).length ≤ 1 ∧
      (∀ b, header? (extract source) = some b ↔ b ∈ extract source ∧ b.kind = .header) ∧
      (∀ b, overview? (extract source) = some b ↔ b ∈ extract source ∧ b.kind = .overview) ∧
      ((header? (extract source)).isSome = true ↔ ∃ b ∈ extract source, HeaderShaped b.text) ∧
      ((overview? (extract source)).isSome = true ↔ ∃ b ∈ extract source, OverviewShaped b.text) := by
  have hheader : FirstOf (extract source) .header HeaderShaped :=
    fun _ _ _ hsplit => (placed_of_append hsplit).header
  have hoverview : FirstOf (extract source) .overview OverviewShaped :=
    fun _ _ _ hsplit => (placed_of_append hsplit).overview
  exact ⟨fun _ _ _ => placed_of_append, hheader.length_le_one, hoverview.length_le_one,
    hheader.find?_eq_some_iff, hoverview.find?_eq_some_iff, hheader.isSome_find?,
    hoverview.isSome_find?⟩

/-- A directive before the title, an overview with a directive, an entry with the mark of an overview,
and a second overview and title after the first ones. -/
theorem kinds_by_place_mixed :
    let folder : Block := ⟨0, 17, 1, "--[[ Folder: x ]]", .loose⟩
    let title : Block := ⟨17, 26, 1, "--[[ T ]]", .header⟩
    let about : Block := ⟨27, 54, 2, "--[[ Overview: Folder: y ]]", .overview⟩
    let doc : Block := ⟨54, 78, 2, "--[[ Realm: Overview: ]]", .entry⟩
    let more : Block := ⟨79, 105, 3, "--[[ Improvements Done: ]]", .loose⟩
    let late : Block := ⟨105, 114, 3, "--[[ U ]]", .loose⟩
    let source := folder.text ++ title.text ++ "\n" ++ about.text ++ doc.text ++ "\n" ++ more.text ++
      late.text
    extract source = [folder, title, about, doc, more, late] ∧
      Placed [folder, title, about, doc, more] late ∧ Placed [folder, title] about ∧
      header? (extract source) = some title ∧ overview? (extract source) = some about := by
  intro folder title about doc more late source
  have hblocks : extract source = [folder, title, about, doc, more, late] := by decide +kernel
  obtain ⟨hplaced, -, -, hheader, hoverview, -, -⟩ := kinds_by_place source
  refine ⟨hblocks, hplaced _ _ [] hblocks, hplaced _ _ [doc, more, late] hblocks, ?_, ?_⟩
  · exact (hheader title).2 ⟨by simp [hblocks], rfl⟩
  · exact (hoverview about).2 ⟨by simp [hblocks], rfl⟩

end LuaReference.Comment
