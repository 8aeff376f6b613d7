import LuaReference.Proofs.Files.Plain

/-!
# Lineages of paths without dots

* `Path.Outer q p` : a path on the way to another one; it has its start and its lack of dots
  from it;
* `spelling_outer`, `mem_lineage`, `parent_cases` : the directories of a path are such paths, along
  the first of its names;
* `makeParents_dotFree` : making them adds nothing but directories above the destination.
-/

namespace LuaReference

open Text

namespace Path

theorem startsWith_slash (c : Char) (t : Text) : startsWith "/" (c :: t) = (c == '/') := by
  simp [startsWith, List.isPrefixOf_cons_cons, Bool.beq_comm]

/-- The first piece is empty just when a path that is not empty starts at the root. -/
theorem isAbsolute_eq {p : Path} {first : Text} {rest : List Text} (hne : p.text ≠ [])
    (hp : p.pieces = first :: rest) : p.isAbsolute = first.isEmpty := by
  unfold pieces at hp
  unfold isAbsolute
  cases htext : p.text with
  | nil => exact absurd htext hne
  | cons c t =>
    rw [htext] at hp
    rw [startsWith_slash]
    by_cases hc : c = '/'
    · subst hc
      rw [splitOn_cons_mark] at hp
      obtain ⟨rfl, -⟩ := List.cons.inj hp
      rfl
    · obtain ⟨piece, more, -, hsplit⟩ := splitOn_cons_of_ne t hc
      rw [hsplit] at hp
      obtain ⟨rfl, -⟩ := List.cons.inj hp
      simpa using hc

/-! ## On the way to a path -/

/-- A path on the way to another one. -/
structure Outer (q p : Path) : Prop where
  text_ne : q.text ≠ []
  text_start : q.text <+: p.text
  pieces : ∀ piece ∈ q.pieces, piece = [] ∨ piece ∈ p.pieces

section Outer
variable {p q r : Path}

theorem Outer.trans (h₁ : Outer r q) (h₂ : Outer q p) : Outer r p where
  text_ne := h₁.text_ne
  text_start := h₁.text_start.trans h₂.text_start
  pieces piece hpiece := (h₁.pieces piece hpiece).elim Or.inl (h₂.pieces piece)

theorem Outer.dotFree (h : Outer q p) (hdots : p.DotFree) : q.DotFree := by
  intro piece hpiece
  rcases h.pieces piece hpiece with rfl | hmem
  · exact ⟨by decide, by decide⟩
  · exact hdots piece hmem

theorem Outer.isAbsolute (h : Outer q p) : q.isAbsolute = p.isAbsolute := by
  obtain ⟨rest, hrest⟩ := h.text_start
  unfold Path.isAbsolute
  rw [← hrest]
  cases htext : q.text with
  | nil => exact absurd htext h.text_ne
  | cons c t => rw [List.cons_append, startsWith_slash, startsWith_slash]

theorem Outer.startTrail (h : Outer q p) (disk : Disk) : disk.startTrail q = disk.startTrail p := by
  unfold Disk.startTrail
  rw [h.isAbsolute]

end Outer

theorem join_prefix_append {separator : Text} {front : List Text} (back : List Text)
    (hne : front ≠ []) : Text.join separator front <+: Text.join separator (front ++ back) := by
  unfold Text.join
  induction front with
  | nil => exact absurd rfl hne
  | cons piece front ih =>
    cases front with
    | nil => cases back <;> simp
    | cons next front =>
      obtain ⟨rest, hrest⟩ := ih (by simp)
      refine ⟨rest, ?_⟩
      simp only [List.cons_append, List.intercalate_cons_cons, List.append_assoc] at hrest ⊢
      rw [hrest]

theorem not_slash_of_mem {p : Path} {piece : Text} (h : piece ∈ p.pieces) : '/' ∉ piece :=
  not_mem_of_mem_splitOn piece h

/-! ## Spellings -/

theorem reverse_eq_kept_append_idle (inner : List Text) :
    inner.reverse = (inner.dropWhile isIdle).reverse ++ (inner.takeWhile isIdle).reverse := by
  rw [← List.reverse_append, List.takeWhile_append_dropWhile]

/-- Idle pieces of a path without dots hold no name. -/
theorem solid_idle {inner : List Text} (hdots : ∀ piece ∈ inner, piece ≠ "." ∧ piece ≠ "..") :
    solid (inner.takeWhile isIdle).reverse = [] := by
  refine Disk.solid_of_empties fun piece hpiece => ?_
  rw [List.mem_reverse] at hpiece
  have hidle := List.all_eq_true.1 List.all_takeWhile piece hpiece
  exact (isIdle_iff (hdots piece (List.takeWhile_subset _ hpiece)).1).1 hidle

/-- A spelling is the root alone, or what its pieces make up without the idle ones at the end. -/
theorem spelling_cases {absolute : Bool} {first : Text} (inner : List Text)
    (habs : absolute = first.isEmpty) :
    (first = [] ∧ inner.dropWhile isIdle = [] ∧ spelling absolute first inner = ⟨"/"⟩) ∨
    ((first ≠ [] ∨ inner.dropWhile isIdle ≠ []) ∧ spelling absolute first inner =
      ⟨Text.join "/" (first :: (inner.dropWhile isIdle).reverse)⟩) := by
  unfold spelling
  cases hkept : inner.dropWhile isIdle with
  | nil =>
    by_cases hfirst : first = []
    · exact Or.inl ⟨hfirst, rfl, if_pos (by simp [habs, hfirst])⟩
    · refine Or.inr ⟨Or.inl hfirst, ?_⟩
      simp [hfirst, Text.join]
  | cons piece kept => exact Or.inr ⟨Or.inr (by simp), rfl⟩

theorem join_cons_ne_nil {first : Text} {rest : List Text} (h : first ≠ [] ∨ rest ≠ []) :
    Text.join "/" (first :: rest) ≠ [] := by
  unfold Text.join
  cases rest with
  | nil => simpa using h
  | cons next rest => simp

/-- The spelling of the first pieces of a path leads to it, along their names. -/
theorem spelling_outer {p : Path} {first : Text} {inner : List Text} (hne : p.text ≠ [])
    (hin : first :: inner.reverse <+: p.pieces) :
    Outer (spelling p.isAbsolute first inner) p ∧
      (p.DotFree → (spelling p.isAbsolute first inner).names = solid (first :: inner.reverse)) := by
  obtain ⟨back, hback⟩ := hin
  have habs : p.isAbsolute = first.isEmpty := isAbsolute_eq hne hback.symm
  have hmem : ∀ piece ∈ first :: inner.reverse, piece ∈ p.pieces := fun piece h =>
    hback ▸ List.mem_append_left back h
  have hinner := reverse_eq_kept_append_idle inner
  have hidle : p.DotFree → solid (inner.takeWhile isIdle).reverse = [] := fun hdots =>
    solid_idle fun piece hpiece => hdots piece (hmem piece (by simp [hpiece]))
  rcases spelling_cases inner habs with ⟨rfl, hkept, hq⟩ | ⟨hsome, hq⟩
  · have hroot : (⟨"/"⟩ : Path).pieces = [[], []] := by decide
    rw [hq]
    refine ⟨⟨by decide, List.isPrefixOf_iff_prefix.1 habs, ?_⟩, fun hdots => ?_⟩
    · intro piece hpiece
      rw [hroot] at hpiece
      exact Or.inl (by simpa using hpiece)
    · rw [names, hroot, hinner, hkept, List.reverse_nil, List.nil_append, solid_cons_nil,
        solid_cons_nil, solid_cons_nil, hidle hdots]
      rfl
  · have hpieces : (⟨Text.join "/" (first :: (inner.dropWhile isIdle).reverse)⟩ : Path).pieces =
        first :: (inner.dropWhile isIdle).reverse := by
      refine splitOn_join (by simp) fun piece hpiece => not_slash_of_mem (hmem piece ?_)
      rw [hinner, ← List.cons_append]
      exact List.mem_append_left _ hpiece
    rw [hq]
    refine ⟨⟨join_cons_ne_nil (by simpa using hsome), ?_, fun piece hpiece => ?_⟩, fun hdots => ?_⟩
    · have htext : Text.join "/" p.pieces = p.text := join_splitOn '/' p.text
      rw [← htext, ← hback, hinner, ← List.cons_append, List.append_assoc]
      exact join_prefix_append _ (by simp)
    · rw [hpieces] at hpiece
      refine Or.inr (hmem piece ?_)
      rw [hinner, ← List.cons_append]
      exact List.mem_append_left _ hpiece
    · rw [names, hpieces, hinner, ← List.cons_append, solid_append, hidle hdots, List.append_nil]

/-- The paths of a lineage are on the way to its path, along its names. -/
theorem mem_spellings {p q : Path} {first : Text} {inner : List Text} (hne : p.text ≠ [])
    (hdots : p.DotFree) (hin : first :: inner.reverse <+: p.pieces)
    (hq : q ∈ spellings p.isAbsolute first inner) :
    (q.text = [] ∨ Outer q p) ∧ q.names <+: solid (first :: inner.reverse) := by
  have hspell := spelling_outer hne hin
  induction inner with
  | nil =>
    rcases List.mem_cons.1 hq with rfl | hq
    · exact ⟨Or.inr hspell.1, (hspell.2 hdots) ▸ List.prefix_refl _⟩
    · split at hq
      · cases hq
      · obtain rfl := List.mem_singleton.1 hq
        exact ⟨Or.inl rfl, List.nil_prefix⟩
  | cons piece inner ih =>
    rw [List.reverse_cons, ← List.cons_append] at hin
    have hin' := (List.prefix_append _ _).trans hin
    have hshort : solid (first :: inner.reverse) <+: solid (first :: (piece :: inner).reverse) := by
      rw [List.reverse_cons, ← List.cons_append, solid_append]
      exact List.prefix_append _ _
    have hrest := fun h => ih hin' h (spelling_outer hne hin')
    unfold spellings at hq
    split at hq
    · exact ⟨(hrest hq).1, (hrest hq).2.trans hshort⟩
    · rcases List.mem_cons.1 hq with rfl | hq
      · exact ⟨Or.inr hspell.1, (hspell.2 hdots) ▸ List.prefix_refl _⟩
      · exact ⟨(hrest hq).1, (hrest hq).2.trans hshort⟩

theorem text_ne_nil_of_pieces {p : Path} {first : Text} {rest : List Text}
    (hp : p.pieces = first :: rest) (h : first ≠ [] ∨ rest ≠ []) : p.text ≠ [] := by
  intro hnil
  have hsplit : p.pieces = [[]] := by rw [pieces, hnil]; rfl
  rw [hsplit] at hp
  obtain ⟨rfl, rfl⟩ := List.cons.inj hp
  simp at h

/-- A path has no directory and no names, or its directory is the working directory, or it is a path
on the way to it along all its names but the last. -/
theorem parent_cases {p : Path} (hdots : p.DotFree) :
    (p.parent? = none ∧ p.names = []) ∨
    (p.parent? = some ⟨[]⟩ ∧ p.names.dropLast = []) ∨
    ∃ dir, p.parent? = some dir ∧ Outer dir p ∧ p.names ≠ [] ∧ dir.names = p.names.dropLast := by
  obtain ⟨first, rest, hp⟩ := List.exists_cons_of_ne_nil (splitOn_ne_nil '/' p.text)
  rw [← pieces] at hp
  have hrest : ∀ piece ∈ rest.reverse, piece ≠ "." ∧ piece ≠ ".." := fun piece h =>
    hdots piece (by simp [hp, List.mem_reverse.1 h])
  have hsplit := reverse_eq_kept_append_idle rest.reverse
  rw [List.reverse_reverse] at hsplit
  have hidle := solid_idle hrest
  have hhead := List.head?_dropWhile_not isIdle rest.reverse
  simp only [parent?, hp]
  cases hkept : rest.reverse.dropWhile isIdle with
  | nil =>
    rw [hkept] at hsplit
    have hnames : p.names = solid [first] := by
      rw [names, hp, hsplit, ← List.singleton_append, solid_append, List.reverse_nil,
        List.nil_append, hidle, List.append_nil]
    by_cases hfirst : first = []
    · exact Or.inl ⟨by simp [hfirst], by rw [hnames, hfirst]; rfl⟩
    · refine Or.inr (Or.inl ⟨by simp [hfirst], ?_⟩)
      rw [hnames, solid_cons _ hfirst]
      rfl
  | cons piece outer =>
    rw [hkept] at hsplit hhead
    have hpiece : piece ≠ [] := by
      rintro rfl
      simp [isIdle] at hhead
    rw [List.reverse_cons, List.append_assoc] at hsplit
    have hin : first :: outer.reverse <+: p.pieces := by
      rw [hp, hsplit, ← List.cons_append]
      exact List.prefix_append _ _
    have hne := text_ne_nil_of_pieces hp (Or.inr (by rw [hsplit]; simp))
    have hnames : p.names = solid (first :: outer.reverse) ++ [piece] := by
      rw [names, hp, hsplit, ← List.cons_append, solid_append, List.singleton_append,
        solid_cons _ hpiece, hidle]
    refine Or.inr (Or.inr ⟨_, rfl, (spelling_outer hne hin).1, by simp [hnames], ?_⟩)
    rw [(spelling_outer hne hin).2 hdots, hnames, List.dropLast_concat]

/-- The lineage of a path runs over its pieces. -/
theorem exists_lineage (p : Path) :
    ∃ first inner, p.pieces = first :: inner.reverse ∧
      p.lineage = spellings p.isAbsolute first inner := by
  obtain ⟨first, rest, hp⟩ := List.exists_cons_of_ne_nil (splitOn_ne_nil '/' p.text)
  rw [← pieces] at hp
  refine ⟨first, rest.reverse, by rw [hp, List.reverse_reverse], ?_⟩
  simp only [lineage, hp]

theorem mem_lineage {p q : Path} (hne : p.text ≠ []) (hdots : p.DotFree) (hq : q ∈ p.lineage) :
    (q.text = [] ∨ Outer q p) ∧ q.names <+: p.names := by
  obtain ⟨first, inner, hp, hlineage⟩ := p.exists_lineage
  rw [hlineage] at hq
  have hnames : p.names = solid (first :: inner.reverse) := by rw [names, hp]
  rw [hnames]
  exact mem_spellings hne hdots (hp ▸ List.prefix_refl _) hq

end Path

namespace Disk

open LuaReference.Path

/-! ## Making the way to a path -/

theorem site?_of_text_nil {q : Path} (h : q.text = []) (disk : Disk) : disk.site? q = none := by
  have hnew : newName? q = none := by
    obtain rfl : q = ⟨[]⟩ := by cases q; simpa using h
    decide
  rw [site?, hnew]
  rfl

/-- Making the directories of a path adds nothing but directories above its destination. -/
theorem makeParents_dotFree {p : Path} (hdots : p.DotFree) (disk : Disk) :
    Grows disk (disk.makeParents p).2 fun here =>
      here <+: disk.destination p ∧ here ≠ disk.destination p := by
  refine makeParents_grows fun q hq here hsite => ?_
  unfold parentLineage at hq
  rcases parent_cases hdots with ⟨hdir, -⟩ | ⟨hdir, -⟩ | ⟨dir, hdir, hdirp, hsome, hnames⟩
  · rw [hdir] at hq
    cases hq
  · rw [hdir] at hq
    obtain rfl : q = ⟨[]⟩ := List.mem_singleton.1 hq
    rw [site?_of_text_nil rfl] at hsite
    cases hsite
  · rw [hdir] at hq
    obtain ⟨hq', hshort⟩ := mem_lineage hdirp.text_ne (hdirp.dotFree hdots) hq
    rcases hq' with hempty | hqdir
    · rw [site?_of_text_nil hempty] at hsite
      cases hsite
    · have hqp := hqdir.trans hdirp
      obtain ⟨-, rfl⟩ := site?_eq (hqp.dotFree hdots) hsite
      rw [destination_eq (hqp.dotFree hdots), destination_eq hdots, hqp.startTrail]
      rw [hnames] at hshort
      refine ⟨(List.prefix_append_right_inj _).2 (hshort.trans (List.dropLast_prefix _)), ?_⟩
      intro heq
      have hlen := hshort.length_le
      rw [List.append_cancel_left heq, List.length_dropLast] at hlen
      have hpos := List.length_pos_iff.2 hsome
      omega

end Disk

end LuaReference
