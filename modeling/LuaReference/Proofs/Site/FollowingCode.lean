import LuaReference.Proofs.Comment.Outside
import LuaReference.Proofs.Text.Lines
import LuaReference.Site.Definition

/-!
# The code after a block

The line of code after a block is looked for line by line. Lines that start a comment are passed over,
but the lines of a comment that runs on are not told from code.

* `LineAt source offset p line` : a line with its first character that is not blank;
* `firstCode?_lineAt`, `followingCode?_lineAt` : what was found is such a line;
* `LineAt.no_block_starts`, `LineAt.no_block_ends` : no block starts or ends at its blanks;
* `ClosedBetween blocks lo hi` : no block that opens between two offsets runs on past the second;
* `covers_lineAt_iff` : a line of code lies outside the blocks just if those before it are closed;
* `named_by_code_iff` : so for the line that names a property or a panel;
* `comment_names_property` : a comment that runs on names one.
-/

namespace LuaReference.Site

open Text Comment

/-! ## Lines of code -/

/-- A line starts at `offset` with blanks, and at `p` with its first character that is not one. -/
def LineAt (source : Text) (offset p : Nat) (line : Text) : Prop :=
  ∃ u space rest, source = u ++ (space ++ (line ++ rest)) ∧ byteLength u = offset ∧
    byteLength (u ++ space) = p ∧ '\n' ∉ space ++ line ∧ (∀ c ∈ space, isBlank c = true) ∧
    (∃ c, line.head? = some c ∧ isBlank c = false) ∧ ∀ c, rest.head? = some c → isBlank c = true

theorem code?_eq_some_iff {raw line : Text} :
    code? raw = some line ↔ trim raw = line ∧ line ≠ [] ∧ startsWith "--" line = false := by
  unfold code?
  simp only [Option.ite_none_left_eq_some, Option.some.injEq, Bool.or_eq_true, List.isEmpty_iff, not_or,
    Bool.not_eq_true]
  constructor
  · rintro ⟨⟨hne, hdash⟩, rfl⟩
    exact ⟨rfl, hne, hdash⟩
  · rintro ⟨rfl, hne, hdash⟩
    exact ⟨⟨hne, hdash⟩, rfl⟩

/-- A line that is code stands where it was read, up to the end of the text or a newline. -/
theorem lineAt_of_code? {u raw t line : Text} (hcode : code? raw = some line) (hraw : '\n' ∉ raw)
    (ht : ∀ c, t.head? = some c → c = '\n') :
    startsWith "--" line = false ∧ ∃ p, LineAt (u ++ (raw ++ t)) (byteLength u) p line := by
  obtain ⟨rfl, hne, hdash⟩ := code?_eq_some_iff.1 hcode
  obtain ⟨space, tail, heq, hspace, htail⟩ := exists_append_trim raw
  have hsolid := trimStart_eq_self_iff.1 (trim_eq_self_iff.1 (trim_trim raw)).1
  obtain ⟨c, hc⟩ := Option.isSome_iff_exists.1 (List.isSome_head?.2 hne)
  refine ⟨hdash, _, u, space, tail ++ t, ?_, rfl, rfl, ?_, hspace, ⟨c, hc, hsolid c hc⟩, ?_⟩
  · conv => lhs; rw [heq]
    simp only [List.append_assoc]
  · rw [heq, ← List.append_assoc] at hraw
    exact fun hmem => hraw (List.mem_append_left tail hmem)
  · intro c hc
    rw [List.head?_append] at hc
    rcases Option.or_eq_some_iff.1 hc with hblank | ⟨-, hend⟩
    · exact htail c (List.mem_of_head? hblank)
    · rw [ht c hend]
      decide

/-- The line that is being read starts after `u`, and `front` is what was read of it. -/
theorem firstCode?_lineAt {u front t : Text} {offset : Nat} {line : Text} (hfront : '\n' ∉ front)
    (h : firstCode? (byteLength u) front t = some (offset, line)) :
    byteLength u ≤ offset ∧ startsWith "--" line = false ∧
      ∃ p, LineAt (u ++ (front.reverse ++ t)) offset p line := by
  induction t generalizing u front with
  | nil =>
    rw [firstCode?] at h
    obtain ⟨found, hcode, heq⟩ := Option.map_eq_some_iff.1 h
    obtain ⟨rfl, rfl⟩ := Prod.mk.inj heq
    exact ⟨Nat.le_refl _, lineAt_of_code? hcode (by simpa using hfront) (by simp)⟩
  | cons c r ih =>
    rw [firstCode?] at h
    split at h
    · rename_i hc
      cases hcode : code? front.reverse with
      | some found =>
        rw [hcode] at h
        obtain ⟨rfl, rfl⟩ := Prod.mk.inj (Option.some.inj h)
        exact ⟨Nat.le_refl _, lineAt_of_code? hcode (by simpa using hfront) (by simp [hc])⟩
      | none =>
        -- the next line starts behind the newline
        have hnext : byteLength u + byteLength (c :: front) = byteLength (u ++ (front.reverse ++ [c])) := by
          simp only [byteLength_append, byteLength_reverse, byteLength]
          omega
        rw [hcode] at h
        simp only [hnext] at h
        obtain ⟨hle, hdash, p, hline⟩ := ih (by simp) h
        refine ⟨by omega, hdash, p, ?_⟩
        simpa using hline
    · rename_i hc
      obtain ⟨hle, hdash, p, hline⟩ := ih (by simp [hfront, Ne.symm hc]) h
      refine ⟨hle, hdash, p, ?_⟩
      simpa using hline

theorem followingCode?_lineAt {source line : Text} {lo offset : Nat}
    (h : followingCode? source lo = some (offset, line)) :
    lo ≤ offset ∧ startsWith "--" line = false ∧ ∃ p, LineAt source offset p line := by
  obtain ⟨t, hdrop, hfirst⟩ := Option.bind_eq_some_iff.1 h
  obtain ⟨u, rfl, rfl⟩ := eq_append_of_dropBytes? hdrop
  exact firstCode?_lineAt (by simp) hfirst

/-! ## Blocks around a line -/

section Blocks

variable {source line : Text} {offset p : Nat}

theorem LineAt.le (h : LineAt source offset p line) : offset ≤ p := by
  obtain ⟨u, space, rest, -, rfl, rfl, -⟩ := h
  rw [byteLength_append]
  omega

/-- What is not blank does not stand before the first character of a line. -/
theorem LineAt.solid (h : LineAt source offset p line) {x y : Text} {c : Char} (hsource : source = x ++ c :: y)
    (hc : isBlank c = false) : byteLength x < offset ∨ p ≤ byteLength x := by
  obtain ⟨u, space, rest, heq, rfl, rfl, -, hspace, -⟩ := h
  by_cases hle : byteLength u ≤ byteLength x ∧ byteLength x < byteLength (u ++ space)
  · obtain ⟨w, rfl, hback⟩ := append_of_byteLength_le (heq.symm.trans hsource) hle.1
    rw [byteLength_append, byteLength_append] at hle
    obtain ⟨w', rfl, hw'⟩ := append_of_byteLength_le hback.symm (by omega)
    cases w' with
    | nil =>
      rw [List.append_nil] at hle
      omega
    | cons d w' =>
      obtain ⟨rfl, -⟩ := List.cons.inj hw'
      rw [hspace c (by simp)] at hc
      cases hc
  · omega

/-- No block starts at the blanks of a line or at its first character, unless it starts a comment. -/
theorem LineAt.no_block_starts (h : LineAt source offset p line) (hdash : startsWith "--" line = false)
    {b : Block} (hb : b ∈ extract source) : b.start < offset ∨ p < b.start := by
  obtain ⟨x, inner, y, hblock, hstart, -⟩ := exists_ofBody_of_mem hb
  have hsource : source = x ++ '-' :: '-' :: ("[[" ++ (inner ++ closing) ++ y) := hblock
  rw [hstart]
  rcases h.solid hsource (by decide) with hlt | hle
  · exact Or.inl hlt
  · right
    refine Nat.lt_of_le_of_ne hle ?_
    rintro rfl
    obtain ⟨u, space, rest, heq, -, hp, -, -, ⟨c, hc, -⟩, hrest⟩ := h
    rw [hsource, ← List.append_assoc u] at heq
    obtain ⟨-, hback⟩ := append_inj_of_byteLength heq hp.symm
    -- both dashes of the marker stand in the line, since a blank follows it
    obtain ⟨tail, rfl⟩ := List.head?_eq_some_iff.1 hc
    obtain ⟨rfl, hsecond⟩ := List.cons.inj hback
    cases tail with
    | nil =>
      have hblank := hrest '-' (congrArg List.head? hsecond.symm)
      exact absurd hblank (by decide)
    | cons d tail =>
      obtain ⟨rfl, -⟩ := List.cons.inj hsecond
      have hyes : startsWith "--" ('-' :: '-' :: tail) = true := startsWith_iff.2 ⟨tail, rfl⟩
      rw [hdash] at hyes
      cases hyes

/-- No block ends at the blanks of a line. -/
theorem LineAt.no_block_ends (h : LineAt source offset p line) {b : Block} (hb : b ∈ extract source) :
    b.stop ≤ offset ∨ p < b.stop := by
  obtain ⟨x, inner, y, hsource, -, hstop⟩ := exists_ofBody_of_mem hb
  have hblock : x ++ ofBody inner = x ++ (opening ++ (inner ++ [']'])) ++ [']'] := by
    simp [ofBody, closing]
  rw [hblock, byteLength_append] at hstop
  rw [← List.append_assoc, hblock, List.append_assoc, List.singleton_append] at hsource
  have hbyte : byteLength [']'] = 1 := rfl
  rcases h.solid hsource (by decide) with hlt | hle
  · exact Or.inl (by omega)
  · exact Or.inr (by omega)

/-- No block that opens between two offsets runs on past the second one. -/
def ClosedBetween (blocks : List Block) (lo hi : Nat) : Prop :=
  ∀ b ∈ blocks, lo ≤ b.start → b.start < hi → b.stop ≤ hi

instance (blocks : List Block) (lo hi : Nat) : Decidable (ClosedBetween blocks lo hi) :=
  inferInstanceAs (Decidable (∀ b ∈ blocks, lo ≤ b.start → b.start < hi → b.stop ≤ hi))

/-- A line of code that follows a block lies outside the blocks just if none between the two runs on
into it. -/
theorem covers_lineAt_iff {doc : Block} (hdoc : doc ∈ extract source) (hle : doc.stop ≤ offset)
    (hline : LineAt source offset p line) (hdash : startsWith "--" line = false) :
    covers (extract source) p = false ↔ ClosedBetween (extract source) doc.stop offset := by
  have hp := hline.le
  rw [covers, List.any_eq_false]
  simp only [Block.covers, Bool.and_eq_true, decide_eq_true_eq, not_and, Nat.not_lt]
  constructor
  · intro hout b hb hlo hhi
    have hstop := hout b hb (by omega)
    rcases hline.no_block_ends hb with hend | hend
    · exact hend
    · omega
  · intro hclosed b hb hstart
    rcases hline.no_block_starts hdash hb with hbefore | hafter
    · -- a block that starts before the line is the one it follows, or stands before or after that one
      rcases apart_of_mem readBlock_takes (span_mem hdoc) (span_mem hb) with heq | hapart | hapart
      · have hstop : doc.stop = b.stop := congrArg Found.stop heq
        omega
      · have := hclosed b hb hapart hbefore
        omega
      · have hdocStart := (readAt_of_mem readBlock_takes (span_mem hdoc)).bounds.2.1
        simp only [Block.span] at hapart hdocStart
        omega
    · omega

end Blocks

/-! ## Sites that code names -/

theorem code_of_mem_located {source : Text} {p : Text → Bool} {name? : Text → Option Text} {site : Site}
    (h : site ∈ ((entries (extract source)).filter fun b => p b.text).filterMap
      (ofFollowingCode? (.ofText source) source name?)) :
    site.doc ∈ extract source ∧ ∃ offset line, followingCode? source site.doc.stop = some (offset, line) := by
  obtain ⟨b, hb, hsite⟩ := List.mem_filterMap.1 h
  have hmem : b ∈ extract source := (List.mem_filter.1 (List.mem_filter.1 hb).1).1
  unfold ofFollowingCode? at hsite
  obtain ⟨⟨offset, line⟩, hcode, hsite⟩ := Option.bind_eq_some_iff.1 hsite
  obtain ⟨name, -, hsite⟩ := Option.bind_eq_some_iff.1 hsite
  obtain rfl := Option.some.inj hsite
  exact ⟨hmem, offset, line, hcode⟩

/-- The line that names a property or a panel lies outside the comments just if every block that opens
between the one that documents it and that line is closed before the line. -/
theorem named_by_code_iff {source : Text} {tables : List Text} {site : Site}
    (h : site ∈ locateProperties source (extract source) tables ∨
      site ∈ locatePanels source (extract source)) :
    ∃ offset line p, followingCode? source site.doc.stop = some (offset, line) ∧
      LineAt source offset p line ∧
      (covers (extract source) p = false ↔ ClosedBetween (extract source) site.doc.stop offset) := by
  obtain ⟨hdoc, offset, line, hcode⟩ :
      site.doc ∈ extract source ∧ ∃ offset line, followingCode? source site.doc.stop = some (offset, line) := by
    rcases h with hproperty | hpanel
    · exact code_of_mem_located (p := fun t => !Entry.mentionsSample t) hproperty
    · exact code_of_mem_located hpanel
  obtain ⟨hle, hdash, p, hline⟩ := followingCode?_lineAt hcode
  exact ⟨offset, line, p, hcode, hline, covers_lineAt_iff hdoc hle hline hdash⟩

/-- A comment that is closed on its line does not stand between a block and the line it documents. -/
theorem named_by_code_iff_note :
    let source : Text := "--[[\nPurpose: a\n]]\n--[[ note ]]\nITEM.real = 2\n"
    let site : Site := ⟨"real", 5, ⟨0, 18, 1, "--[[\nPurpose: a\n]]", .entry⟩⟩
    site ∈ locateProperties source (extract source) ["ITEM"] ∧
      ∃ offset line p, followingCode? source site.doc.stop = some (offset, line) ∧
        LineAt source offset p line ∧ covers (extract source) p = false := by
  intro source site
  have hsite : site ∈ locateProperties source (extract source) ["ITEM"] := by decide
  have hfound : followingCode? source site.doc.stop = some (32, ("ITEM.real = 2" : Text)) := by decide
  have hclosed : ClosedBetween (extract source) site.doc.stop 32 := by decide
  obtain ⟨offset, line, p, hcode, hline, hiff⟩ := named_by_code_iff (.inl hsite)
  obtain ⟨rfl, -⟩ := Prod.mk.inj (Option.some.inj (hfound.symm.trans hcode))
  exact ⟨hsite, 32, line, p, hcode, hline, hiff.2 hclosed⟩

/-- A line of a comment that runs on is taken for the code after the block before it. -/
theorem comment_names_property :
    let source : Text := "--[[\nPurpose: a\n]]\n--[[\nITEM.name = 1\n]]\nITEM.real = 2\n"
    let doc : Block := ⟨0, 18, 1, "--[[\nPurpose: a\n]]", .entry⟩
    locateProperties source (extract source) ["ITEM"] = [⟨"name", 5, doc⟩] ∧
      locatePanels source (extract source) = [⟨"ITEM.name = 1", 5, doc⟩] ∧
      followingCode? source doc.stop = some (24, ("ITEM.name = 1" : Text)) ∧
      LineAt source 24 24 "ITEM.name = 1" ∧ covers (extract source) 24 = true := by
  intro source doc
  have hline : LineAt source 24 24 "ITEM.name = 1" := by
    refine ⟨"--[[\nPurpose: a\n]]\n--[[\n", [], "\n]]\nITEM.real = 2\n", by decide, by decide, by decide,
      by decide, by simp, ⟨'I', by decide, by decide⟩, ?_⟩
    intro c hc
    obtain rfl : '\n' = c := Option.some.inj hc
    decide
  exact ⟨by decide, by decide, by decide, hline, by decide⟩

end LuaReference.Site
